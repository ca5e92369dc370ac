import IdentityStore.Proofs.Deployment.Isolation
import IdentityStore.Proofs.Policy.Lifecycle

/-!
# The policies of stores and handles

The draft of a store and a handle of a deployment have the draft of a policy as a part. Whatever
happens to them is, for this part, a session of steps on the draft of a policy, so that it has the
same life there as it has by itself.

* `StoreStep.onPolicy?`, `policy_afterAll`: the session on the policy that a session on a store is.
* `DeploymentDraft.policySteps`, `policy_slot_afterAll`: the same for a session on a deployment and
  the policy of one store of it.
* `StoreDraft.host`, `Handle.host`: stores and handles have a policy.
* `policy_lifecycle`: guards and freezing for drafts, stores and handles.
-/

namespace IdentityStore

open Text (Path)

/-! ## Stores -/

/-- The step that a step on a store is for its policy, if it is one. -/
def StoreStep.onPolicy? {k : StoreType} : StoreStep k → Option PolicyStep
  | declare x => some (.declare x)
  | set _ => none
  | validate => some .validate
  | create => some .resolve

namespace StoreDraft

variable {k : StoreType}

theorem policy_step (t : StoreStep k) (s : StoreDraft k) :
    ((step t).run s).state.policy = Session.after PolicyDraft.step t.onPolicy?.toList s.policy := by
  cases t with
  | declare x =>
    rw [run_step_declare]
    exact (PolicyDraft.state_step (.declare x) s.policy).symm
  | set setting => rfl
  | validate =>
    rw [run_step_validate]
    exact (PolicyDraft.state_step .validate s.policy).symm
  | create =>
    rw [run_step_create]
    exact (PolicyDraft.state_step .resolve s.policy).symm

/-- **A session on a store** is on its policy a session of the steps on it. -/
theorem policy_afterAll (steps : List (StoreStep k)) (s : StoreDraft k) :
    (afterAll steps s).policy =
      Session.after PolicyDraft.step (steps.filterMap StoreStep.onPolicy?) s.policy := by
  induction steps generalizing s with
  | nil => rfl
  | cons t rest ih =>
    have hsteps : (t :: rest).filterMap StoreStep.onPolicy? =
        t.onPolicy?.toList ++ rest.filterMap StoreStep.onPolicy? := by
      cases ht : t.onPolicy? <;> simp [ht]
    rw [afterAll_cons, ih, policy_step, hsteps, Session.after_append]

/-- The draft of a store has a policy. -/
def host (k : StoreType) : PolicyHost (StoreDraft k) StoreAnswer Store where
  policy s := s.policy
  setPolicy s policy := { s with policy }
  declare x := step (.declare x)
  validate := step .validate
  resolve := create
  done := .done
  result s policy := ⟨s.settings.pack, policy⟩
  setPolicy_policy _ := rfl
  policy_setPolicy _ _ := rfl
  run_declare := run_step_declare
  run_validate := run_step_validate
  resolve_eq s := by
    rw [create]
    cases s.policy.resolve <;> rfl

end StoreDraft

/-! ## Deployments -/

namespace DeploymentDraft

variable {d : DeploymentDraft} {k : StoreType}

/-- The steps that a session takes on the policy of the store of a type. -/
def policySteps (k : StoreType) (steps : List DeploymentStep) (d : DeploymentDraft) :
    List PolicyStep :=
  (stepsOn k steps d).filterMap StoreStep.onPolicy?

/-- **A session on a deployment** is on the policy of each store a session of steps on it. -/
theorem policy_slot_afterAll (steps : List DeploymentStep) (d : DeploymentDraft) (k : StoreType) :
    ((afterAll steps d).slot k).policy =
      Session.after PolicyDraft.step (policySteps k steps d) (d.slot k).policy := by
  rw [slot_afterAll, StoreDraft.policy_afterAll, policySteps]

theorem policy_slot_of_sealed (h : (d.slot k).policy.Sealed) (steps : List DeploymentStep) :
    ((afterAll steps d).slot k).policy = (d.slot k).policy := by
  rw [policy_slot_afterAll, h.after]

theorem sealed_slot_of_validated {tmp : Path} {steps : List DeploymentStep}
    (h : ((afterAll steps (.new tmp)).slot k).policy.state = .validated) :
    ((afterAll steps (.new tmp)).slot k).policy.Sealed := by
  rw [policy_slot_afterAll, slot_new] at h ⊢
  exact PolicyDraft.sealed_of_validated _ h

end DeploymentDraft

/-! ## Handles -/

namespace Handle

variable {k : StoreType}

theorem setPolicy_policy (h : Handle k) : h.setPolicy h.policy = h :=
  congrArg Handle.mk (h.deployment.setSlot_slot k)

theorem policy_setPolicy (h : Handle k) (policy : PolicyDraft) :
    (h.setPolicy policy).policy = policy := by
  rw [Handle.policy, setPolicy, DeploymentDraft.slot_setSlot]

/-- A handle has the policy of its store. -/
def host (k : StoreType) : PolicyHost (Handle k) StoreAnswer Store where
  policy := policy
  setPolicy := setPolicy
  declare x := step (.declare x)
  validate := step .validate
  resolve := create
  done := .done
  result h policy := ⟨h.settings, policy⟩
  setPolicy_policy := setPolicy_policy
  policy_setPolicy := policy_setPolicy
  run_declare x h := by
    rw [step, Action.run_bind_return]
    rfl
  run_validate h := by
    rw [step, Action.run_bind_return]
    rfl
  resolve_eq h := by
    rw [create]
    cases h.policy.resolve <;> rfl

/-- The handle at the end of a chain, after a session on the deployment of a handle. -/
def afterAll (run : List DeploymentStep × List StoreType) (h : Handle k) : Handle k :=
  (DeploymentDraft.afterAll run.1 h.deployment).follow run.2 k

/-- **A session on a deployment** is on the policy of each handle a session of steps on it. -/
theorem exists_policy_afterAll (run : List DeploymentStep × List StoreType) (h : Handle k) :
    ∃ steps, (h.afterAll run).policy = Session.after PolicyDraft.step steps h.policy := by
  have hslot : (h.afterAll run).policy =
      ((DeploymentDraft.afterAll run.1 h.deployment).slot k).policy := by
    rw [afterAll, Handle.policy, DeploymentDraft.deployment_follow, DeploymentDraft.slot_visited]
  exact ⟨_, hslot.trans (DeploymentDraft.policy_slot_afterAll run.1 h.deployment k)⟩

end Handle

/-! ## Lives -/

/-- **The life of a policy,** as a draft by itself, in the draft of a store and behind the handles
of a deployment. In every state the calls that fail are exactly those that are guarded against, and
they change nothing. A draft that is found validated in a session that starts anew is frozen, and
after a successful validation the draft stays as it is over every later session: no declaration is
taken any more, validation keeps succeeding, and the policy that is resolved stays the same. -/
theorem policy_lifecycle :
    PolicyDraft.host.Lifecycle .new (Session.after PolicyDraft.step) ∧
      (∀ k tmp, (StoreDraft.host k).Lifecycle (.new k tmp) StoreDraft.afterAll) ∧
      ∀ k tmp, (Handle.host k).Lifecycle ⟨.new tmp⟩ Handle.afterAll := by
  refine ⟨?_, fun k tmp => ?_, fun k tmp => ?_⟩
  · exact PolicyDraft.host.lifecycle rfl fun steps d => ⟨steps, rfl⟩
  · exact (StoreDraft.host k).lifecycle rfl fun steps s => ⟨_, StoreDraft.policy_afterAll steps s⟩
  · refine (Handle.host k).lifecycle ?_ Handle.exists_policy_afterAll
    cases k <;> rfl

/-- A draft with the default types, once it is validated, refuses even the declaration that lists
nothing with the same error, and stays as it is through a session that goes on declaring. -/
theorem frozen_of_default_types :
    let d := ((PolicyDraft.declare .supportAllFeatures).run .new).state
    let closed := (PolicyDraft.validate.run d).state
    let steps : List PolicyStep := [.declare (.supportTypes []), .validate, .resolve]
    (PolicyDraft.validate.run d).answer = .ok () ∧
      Session.after PolicyDraft.step steps closed = closed ∧
      PolicyDraft.host.Frozen (Session.after PolicyDraft.step steps closed) := by
  intro d closed steps
  have hok : (PolicyDraft.validate.run d).answer = .ok () := rfl
  exact ⟨hok, policy_lifecycle.1.frozen_after_validate d steps hok⟩

end IdentityStore
