import IdentityStore.Action
import IdentityStore.Context
import IdentityStore.Policy.Credentials
import IdentityStore.Policy.Ledger
import IdentityStore.Policy.Relationships

/-!
# Policies

A policy says what an identity store can do: which operations it permits on which types, how
relationships are classified, how credentials are checked, and how contexts are prepared. A policy
is made of terms that are final.
-/

namespace IdentityStore

structure Terms where
  supported : Ledger := ∅
  unsupported : Ledger := ∅
  relationships : Relationships := ∅
  credentials : Credentials := ∅
  initializers : List ContextInitializer := []

namespace Terms

instance : EmptyCollection Terms := ⟨{}⟩

/-- Takes over second terms: notes are added to notes, classes to classes and lists to lists, and
of two properties of one name the second wins. -/
def merge (a b : Terms) : Terms where
  supported := a.supported.merge b.supported
  unsupported := a.unsupported.merge b.unsupported
  relationships := a.relationships.merge b.relationships
  credentials := a.credentials.merge b.credentials
  initializers := a.initializers ++ b.initializers

end Terms

structure Policy extends Terms

namespace Policy

/-! ## Permissions -/

def unsupportedOperations (p : Policy) (t : ManagedType) : OperationSet :=
  p.unsupported.operations t

/-- The operations that are permitted on a type: the supported ones that are not disabled. -/
def supportedOperations (p : Policy) (t : ManagedType) : OperationSet :=
  p.supported.operations t \ p.unsupportedOperations t

def supports (p : Policy) (t : ManagedType) (o : Operation) : Bool :=
  (p.supportedOperations t).contains o

def supportsType (p : Policy) (t : ManagedType) : Bool := !(p.supportedOperations t).isEmpty

/-- **Permission in terms of the two ledgers.** A disabled operation is not permitted. -/
theorem supports_eq (p : Policy) (t : ManagedType) (o : Operation) :
    p.supports t o =
      ((p.supported.operations t).contains o && !(p.unsupported.operations t).contains o) := by
  simp [supports, supportedOperations, unsupportedOperations]

/-! ## Relationships and credentials -/

def isGlobal (p : Policy) (r : RelationshipType) : Bool := p.relationships.isGlobal r

def isSelf (p : Policy) (r : RelationshipType) : Bool := p.relationships.isSelf r

def supportsCredentials (p : Policy) : Bool := p.credentials.enabled

def property? (p : Policy) (name : String) : Option ConfigValue := p.credentials.property? name

/-! ## Contexts -/

/-- Runs an initializer on a context. The context that a failing initializer leaves is kept. -/
def runInitializer (i : ContextInitializer) : Action IdentityContext Unit := do
  Action.tell (.running i.id)
  fun c =>
    match i.run c with
    | .ok _ c' => ⟨.ok (), c', []⟩
    | .error e c' => ⟨.error e, c', []⟩

/-- Runs the initializers in their order, each on the context that the one before left. The first
failure ends the run. -/
def initializeContext (p : Policy) : Action IdentityContext Unit :=
  p.initializers.forM runInitializer

end Policy

end IdentityStore
