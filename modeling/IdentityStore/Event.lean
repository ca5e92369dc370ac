import IdentityStore.Credential
import IdentityStore.ManagedType
import IdentityStore.OperationSet
import IdentityStore.StoreType

/-!
# Events

What the library tells an observer while it works. An event is a fact; its wording is in
`Event.message` alone. Values of properties and settings are part of no event.
-/

namespace IdentityStore

inductive Level where
  | debug
  | trace
deriving DecidableEq

def Level.name : Level → String
  | debug => "DEBUG"
  | trace => "TRACE"

inductive Event where
  | supporting (count : Nat)
  | unsupporting (operations : OperationSet) (managedType : ManagedType)
  | supportingGlobal (count : Nat)
  | supportingSelf (count : Nat)
  | addingInitializer (id : String)
  | settingProperty (name : String)
  | addingHandler (handler : CredentialHandlerRef)
  | readPolicy (count : Nat)
  | validated (count : Nat)
  | running (id : String)
  | configuring (store : StoreType)
  | built (count : Nat)
deriving DecidableEq

namespace Event

/-- How much an event matters: single additions and runs are traced. -/
def level : Event → Level
  | addingInitializer _ | settingProperty _ | addingHandler _ | running _ => .trace
  | _ => .debug

def message : Event → String
  | supporting n => "Supporting " ++ toString n ++ " managed type(s)"
  | unsupporting ops t => "Unsupporting " ++ ops.display ++ " for " ++ t.display
  | supportingGlobal n => "Supporting " ++ toString n ++ " global relationship type(s)"
  | supportingSelf n => "Supporting " ++ toString n ++ " self relationship type(s)"
  | addingInitializer id => "Adding context initializer " ++ id
  | settingProperty name => "Setting credential handler property " ++ name
  | addingHandler handler => "Adding credential handler " ++ handler.display
  | readPolicy n => "Read " ++ toString n ++ " supported type(s) from an existing policy"
  | validated n => "Store policy validated with " ++ toString n ++ " supported type(s)"
  | running id => "Running context initializer " ++ id
  | configuring store => "Configuring " ++ store.name ++ " identity store"
  | built n => "Built " ++ toString n ++ " identity store configuration(s)"

end Event

end IdentityStore
