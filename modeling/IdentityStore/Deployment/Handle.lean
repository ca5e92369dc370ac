import IdentityStore.Deployment.Draft

/-!
# Handles

A chain of visits ends at a store. There the draft of the deployment is handed on as one of this
store, with two ways to it: the draft of the store itself, and the views of its policy and of its
settings that stores of all types have. Declarations, validation and creation go through the views,
settings are changed on the draft of the store.
-/

namespace IdentityStore

/-- The draft of a deployment, handed on at its store of a type. -/
structure Handle (k : StoreType) where
  deployment : DeploymentDraft

def DeploymentDraft.enter (d : DeploymentDraft) (k : StoreType) : Handle k :=
  ⟨((visit k).run d).state⟩

namespace Handle

variable {k : StoreType}

/-! ## Chains -/

def enter (h : Handle k) (j : StoreType) : Handle j := h.deployment.enter j

def follow {k : StoreType} (h : Handle k) : List StoreType → (j : StoreType) → Handle j
  | [], j => h.enter j
  | i :: rest, j => (h.enter i).follow rest j

/-! ## The draft of the store -/

def store (h : Handle k) : StoreDraft k := h.deployment.slot k

def setStore (h : Handle k) (s : StoreDraft k) : Handle k := ⟨h.deployment.setSlot s⟩

def onStore {α : Type} (a : Action (StoreDraft k) α) : Action (Handle k) α :=
  Action.focus store setStore a

/-! ## The views -/

def policy (h : Handle k) : PolicyDraft := (h.deployment.slot k).policy

def setPolicy (h : Handle k) (policy : PolicyDraft) : Handle k :=
  ⟨h.deployment.setSlot { h.deployment.slot k with policy }⟩

def onPolicy {α : Type} (a : Action PolicyDraft α) : Action (Handle k) α :=
  Action.focus policy setPolicy a

def settings (h : Handle k) : StoreSettings := (h.deployment.slot k).settings.pack

def create (h : Handle k) : Except Error Store := do
  let policy ← h.policy.resolve
  return ⟨h.settings, policy⟩

/-! ## Steps -/

def step : StoreStep k → Action (Handle k) StoreAnswer
  | .declare declaration => do onPolicy (PolicyDraft.declare declaration); return .done
  | .set setting => do onStore (StoreDraft.set setting); return .done
  | .validate => do onPolicy PolicyDraft.validate; return .done
  | .create => do
    match (← Action.state).create with
    | .ok store => return .created store
    | .error e => Action.fail e

end Handle

def DeploymentDraft.follow (d : DeploymentDraft) : List StoreType → (k : StoreType) → Handle k
  | [], k => d.enter k
  | i :: rest, k => (d.enter i).follow rest k

end IdentityStore
