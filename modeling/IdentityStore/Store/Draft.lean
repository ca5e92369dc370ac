import IdentityStore.Policy.Draft
import IdentityStore.Store.Basic

/-!
# Store drafts

A store of one type is drafted by declarations about its policy and by changes of its settings.
The policy is validated; the settings stay open to changes all the time.
-/

namespace IdentityStore

open Text (Path)

structure StoreDraft (k : StoreType) where
  policy : PolicyDraft
  settings : Settings k

inductive StoreStep (k : StoreType) where
  | declare (declaration : Declaration)
  | set (setting : Setting k)
  | validate
  | create

inductive StoreAnswer where
  | done
  | created (store : Store)

namespace StoreDraft

variable {k : StoreType}

def new (k : StoreType) (tmp : Path := .temporary) : StoreDraft k where
  policy := .new
  settings := .default k tmp

def onPolicy {α : Type} (a : Action PolicyDraft α) : Action (StoreDraft k) α :=
  Action.focus (·.policy) (fun d policy => { d with policy }) a

def declare (declaration : Declaration) : Action (StoreDraft k) Unit :=
  onPolicy (PolicyDraft.declare declaration)

/-- Changes a setting. Settings can be changed at any time. -/
def set (setting : Setting k) : Action (StoreDraft k) Unit :=
  Action.modify fun d => { d with settings := setting.apply d.settings }

def validate : Action (StoreDraft k) Unit := onPolicy PolicyDraft.validate

/-- The store of a draft whose policy is validated, with the settings as they are now. -/
def create (d : StoreDraft k) : Except Error Store := do
  let policy ← d.policy.resolve
  return ⟨d.settings.pack, policy⟩

def step : StoreStep k → Action (StoreDraft k) StoreAnswer
  | .declare declaration => do declare declaration; return .done
  | .set setting => do set setting; return .done
  | .validate => do validate; return .done
  | .create => do
    match (← Action.state).create with
    | .ok store => return .created store
    | .error e => Action.fail e

end StoreDraft

end IdentityStore
