import IdentityStore.Policy.Basic

/-!
# Policy drafts

A policy is drafted by declarations. A draft is open until it is validated; from then on it takes
no further declaration, and a policy can be resolved from it.
-/

namespace IdentityStore

inductive DraftState where
  | opened
  | validated
deriving DecidableEq

namespace DraftState

def name : DraftState → String
  | .opened => "Open"
  | .validated => "Validated"

def toJson (s : DraftState) : Json := .string s.name

def decode : Json.Decoder DraftState :=
  .choice ([DraftState.opened, DraftState.validated].map fun s => (s.name, s))

end DraftState

inductive Declaration where
  | supportTypes (types : List ManagedType)
  /-- Operations on a type are disabled; an empty list disables all. -/
  | unsupportType (type : ManagedType) (operations : List Operation)
  | supportGlobal (types : List RelationshipType)
  | supportSelf (types : List RelationshipType)
  | supportAllFeatures
  | addInitializer (initializer : ContextInitializer)
  | setProperty (name : String) (value : ConfigValue)
  | addHandler (handler : CredentialHandlerRef)
  | supportCredentials (enabled : Bool)
  /-- Everything that a policy says is said again. -/
  | readFrom (policy : Policy)

structure PolicyDraft extends Terms where
  state : DraftState := .opened

namespace PolicyDraft

def new : PolicyDraft := {}

def isValidated (d : PolicyDraft) : Bool := d.state == .validated

/-! ## Declarations -/

def ensureOpen : Action PolicyDraft Unit := do
  if (← Action.state).state = .validated then
    Action.fail (.configuration .alreadyValidated)

def ensureGiven {α : Type} (l : List α) (fault : ArgumentFault) : Action PolicyDraft Unit :=
  if l.isEmpty then Action.fail (.invalidArgument fault) else pure ()

def amend (f : Terms → Terms) : Action PolicyDraft Unit :=
  Action.modify fun d => { d with toTerms := f d.toTerms }

/-- The operations that a list disables: its own, or all when it is empty. -/
def disabled (operations : List Operation) : OperationSet :=
  if operations.isEmpty then .all else .ofList operations

/-- Supports types with all operations. A type that is supported already stays as it is. -/
def supportTypes (types : List ManagedType) : Action PolicyDraft Unit := do
  ensureOpen
  ensureGiven types .noManagedTypes
  Action.tell (.supporting types.length)
  amend fun t => { t with supported := t.supported.support types }

def supportCredentials (enabled : Bool) : Action PolicyDraft Unit := do
  ensureOpen
  amend fun t => { t with credentials := t.credentials.setEnabled enabled }

/-- Takes a declaration into a draft. Every declaration first makes sure that the draft is open,
then that its argument is acceptable, and changes the draft only after that. -/
def declare : Declaration → Action PolicyDraft Unit
  | .supportTypes types => supportTypes types
  | .unsupportType type operations => do
    ensureOpen
    Action.tell (.unsupporting (disabled operations) type)
    amend fun t => { t with unsupported := t.unsupported.add type (disabled operations) }
  | .supportGlobal types => do
    ensureOpen
    ensureGiven types .noRelationshipTypes
    Action.tell (.supportingGlobal types.length)
    amend fun t => { t with
      relationships := t.relationships.addGlobal types
      supported := t.supported.support (types.map (·.managedType)) }
  | .supportSelf types => do
    ensureOpen
    ensureGiven types .noRelationshipTypes
    Action.tell (.supportingSelf types.length)
    amend fun t => { t with
      relationships := t.relationships.addSelf types
      supported := t.supported.support (types.map (·.managedType)) }
  | .supportAllFeatures => do
    supportTypes ManagedType.defaults
    supportCredentials true
  | .addInitializer initializer => do
    ensureOpen
    Action.tell (.addingInitializer initializer.id)
    amend fun t => { t with initializers := t.initializers ++ [initializer] }
  | .setProperty name value => do
    ensureOpen
    Action.tell (.settingProperty name)
    amend fun t => { t with credentials := t.credentials.setProperty name value }
  | .addHandler handler => do
    ensureOpen
    Action.tell (.addingHandler handler)
    amend fun t => { t with credentials := t.credentials.addHandler handler }
  | .supportCredentials enabled => supportCredentials enabled
  | .readFrom policy => do
    ensureOpen
    amend fun t => t.merge policy.toTerms
    Action.tell (.readPolicy policy.supported.size)

/-! ## Validation and resolution -/

/-- Closes a draft. A draft without any supported type stays as it is and the action fails; a
closed draft stays closed. -/
def validate : Action PolicyDraft Unit := do
  let d ← Action.state
  if d.supported.isEmpty then Action.fail (.configuration .noSupportedTypes)
  else if d.state = .opened then
    Action.tell (.validated d.supported.size)
    Action.modify fun d => { d with state := .validated }

def resolve (d : PolicyDraft) : Except Error Policy :=
  if d.state = .validated then .ok ⟨d.toTerms⟩ else .error (.configuration .notValidated)

end PolicyDraft

/-! ## Steps -/

inductive PolicyStep where
  | declare (declaration : Declaration)
  | validate
  | resolve

inductive PolicyAnswer where
  | done
  | resolved (policy : Policy)

def PolicyDraft.step : PolicyStep → Action PolicyDraft PolicyAnswer
  | .declare declaration => do declare declaration; return .done
  | .validate => do validate; return .done
  | .resolve => do
    match (← Action.state).resolve with
    | .ok policy => return .resolved policy
    | .error e => Action.fail e

end IdentityStore
