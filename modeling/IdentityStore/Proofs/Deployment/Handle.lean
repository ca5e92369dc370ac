import IdentityStore.Deployment.Handle
import IdentityStore.Proofs.Deployment.Visit
import IdentityStore.Proofs.Store.Steps

/-!
# The two ways through a handle

A handle reaches the draft of its store directly and through the views that stores of all types
have. Both ways lead to the same draft, and a step on a deployment that goes through a chain is a
step on the handle at the end of the chain.

* `deployment_follow`: following a chain visits it.
* `run_step_eq_onStore`: a step through the views is the step on the draft of the store.
* `answer_step_through`, `state_step_through`: steps on a deployment by way of the handle.
* `Handle.Shows`: a handle shows the draft of a store when all that is seen and done through it is
  what is seen and done on that draft.
-/

namespace IdentityStore

variable {k : StoreType}

/-! ## Chains -/

theorem DeploymentDraft.deployment_enter (d : DeploymentDraft) (k : StoreType) :
    (d.enter k).deployment = d.visited [k] := by
  rw [enter, run_visit]

theorem Handle.deployment_follow {k : StoreType} (h : Handle k) (via : List StoreType)
    (j : StoreType) : (h.follow via j).deployment = h.deployment.visited (via ++ [j]) := by
  induction via generalizing k with
  | nil => exact DeploymentDraft.deployment_enter h.deployment j
  | cons i rest ih =>
    rw [Handle.follow, ih, Handle.enter, DeploymentDraft.deployment_enter]
    exact (h.deployment.visited_cons i (rest ++ [j])).symm

/-- **Following a chain** visits it, its last store included. -/
theorem DeploymentDraft.deployment_follow (d : DeploymentDraft) (via : List StoreType)
    (k : StoreType) : (d.follow via k).deployment = d.visited (via ++ [k]) := by
  cases via with
  | nil => exact d.deployment_enter k
  | cons i rest =>
    rw [follow, Handle.deployment_follow, deployment_enter]
    exact (d.visited_cons i (rest ++ [k])).symm

/-! ## Both ways -/

namespace Handle

theorem onPolicy_eq_onStore {α : Type} (a : Action PolicyDraft α) :
    (onPolicy a : Action (Handle k) α) = onStore (StoreDraft.onPolicy a) := rfl

theorem create_eq (h : Handle k) : h.create = h.store.create := rfl

/-- **A step on a handle** is the step on the draft of its store. -/
theorem run_step_eq_onStore (t : StoreStep k) (h : Handle k) :
    (step t).run h = (onStore (StoreDraft.step t)).run h := by
  rw [onStore, Action.run_focus]
  cases t with
  | declare x =>
    rw [step, StoreDraft.step, Action.run_bind_return, Action.run_bind_return, onPolicy_eq_onStore]
    rfl
  | set setting => rfl
  | validate =>
    rw [step, StoreDraft.step, Action.run_bind_return, Action.run_bind_return, onPolicy_eq_onStore]
    rfl
  | create =>
    have hself : h.setStore h.store = h := by
      cases h
      cases k <;> rfl
    rw [step, StoreDraft.step, Action.run_bind, Action.run_bind, Action.run_state,
      Action.run_state]
    simp only [create_eq]
    cases h.store.create <;> exact congrArg (Outcome.mk _ · _) hself.symm

/-- A handle shows the draft of a store. -/
structure Shows (h : Handle k) (s : StoreDraft k) : Prop where
  store : h.store = s
  policy : h.policy = s.policy
  settings : h.settings.Hold s.settings
  step : ∀ t, (step t).run h = ⟨((StoreDraft.step t).run s).answer,
    h.setStore ((StoreDraft.step t).run s).state, ((StoreDraft.step t).run s).events⟩
  onStore : ∀ t, (onStore (StoreDraft.step t)).run h = (Handle.step t).run h

theorem shows_slot (h : Handle k) : h.Shows (h.deployment.slot k) where
  store := rfl
  policy := rfl
  settings := StoreSettings.hold_pack _
  step t := by
    rw [run_step_eq_onStore]
    rfl
  onStore t := (run_step_eq_onStore t h).symm

end Handle

/-! ## Steps of a deployment -/

namespace DeploymentDraft

/-- **A step through a chain** is the step on the handle at the end of the chain. -/
theorem state_step_through (via : List StoreType) (k : StoreType) (t : StoreStep k)
    (d : DeploymentDraft) :
    ((step (.through via k t)).run d).state =
      ((Handle.step t).run (d.follow via k)).state.deployment := by
  rw [run_step_through, ((d.follow via k).shows_slot).step, deployment_follow, slot_visited]
  simp only [Outcome.state_after, Handle.setStore, deployment_follow]

theorem answer_step_through (via : List StoreType) (k : StoreType) (t : StoreStep k)
    (d : DeploymentDraft) :
    ((step (.through via k t)).run d).answer =
      ((StoreDraft.step t).run (d.slot k)).answer.map .ofStore := by
  rw [run_step_through, Outcome.answer_after]

end DeploymentDraft

end IdentityStore
