import IdentityStore.Credential

/-!
# Registered credentials

What a policy says about credentials: the handlers in the order in which they were added, the
properties for them, and whether credentials are supported at all. When two registrations are
merged, the properties and the support of the second win.
-/

namespace IdentityStore

structure Credentials where
  handlers : List CredentialHandlerRef := []
  properties : ConfigTable := ∅
  enabled : Bool := false

namespace Credentials

instance : EmptyCollection Credentials := ⟨{}⟩

def addHandler (c : Credentials) (handler : CredentialHandlerRef) : Credentials :=
  { c with handlers := c.handlers ++ [handler] }

def setProperty (c : Credentials) (name : String) (value : ConfigValue) : Credentials :=
  { c with properties := c.properties.insert name value }

def setEnabled (c : Credentials) (enabled : Bool) : Credentials := { c with enabled }

def property? (c : Credentials) (name : String) : Option ConfigValue := c.properties[name]?

def merge (c other : Credentials) : Credentials where
  handlers := c.handlers ++ other.handlers
  properties := c.properties.override other.properties
  enabled := other.enabled

/-- Equality of registrations. Properties are compared as configuration values. -/
def equal (a b : Credentials) : Bool :=
  a.handlers == b.handlers && a.properties.equal b.properties && a.enabled == b.enabled

end Credentials

end IdentityStore
