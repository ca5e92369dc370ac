import IdentityStore.Proofs.Lifecycle
import IdentityStore.Proofs.Policy.Accumulation

/-!
# What a session declares about each store

A session on the draft of a deployment takes declarations about several stores, in any order and
with validations and visits between them. The policy of one store is made up by the declarations
taken about this store alone.

* `DeploymentDraft.taken`: the declarations about a store that a session takes, in order.
* `taken_eq`: they are those that the session on the policy of the store takes, which the session
  on the deployment is for this policy (`DeploymentDraft.policySteps`).
* `toTerms_slot_afterAll`: the terms of a store after a session that starts anew.
* `readsResolved_of_mem_taken`: a session that reads resolved policies takes no other readings.
-/

namespace IdentityStore

open Text (Path)

namespace DeploymentStep

/-- The declaration that a step makes about the store of a type, if it makes one. -/
def declaration? (k : StoreType) : DeploymentStep → Option Declaration
  | through _ j (.declare x) => if j = k then some x else none
  | _ => none

theorem declaration?_eq_some_iff {k : StoreType} {x : DeploymentStep} {y : Declaration} :
    x.declaration? k = some y ↔ ∃ via, x = .through via k (.declare y) := by
  constructor
  · intro h
    unfold declaration? at h
    split at h
    · next via j z =>
      split at h
      · next hj =>
        obtain rfl := hj
        obtain rfl := Option.some.inj h
        exact ⟨via, rfl⟩
      · cases h
    · cases h
  · rintro ⟨via, rfl⟩
    exact if_pos rfl

/-- A step reads no other policies than resolved ones. -/
def ReadsResolved : DeploymentStep → Prop
  | through _ _ (.declare x) => x.ReadsResolved
  | _ => True

end DeploymentStep

namespace DeploymentDraft

variable {d : DeploymentDraft} {k : StoreType} {steps : List DeploymentStep}

/-- The declarations about the store of a type that a session takes, in order. -/
def taken (k : StoreType) (steps : List DeploymentStep) (d : DeploymentDraft) : List Declaration :=
  (Session.accepted step steps d).filterMap (DeploymentStep.declaration? k)

theorem taken_append (k : StoreType) (steps more : List DeploymentStep) (d : DeploymentDraft) :
    taken k (steps ++ more) d = taken k steps d ++ taken k more (afterAll steps d) := by
  rw [taken, Session.accepted_append, List.filterMap_append]
  rfl

theorem taken_of_none (h : ∀ x ∈ steps, x.declaration? k = none) : taken k steps d = [] :=
  List.filterMap_eq_nil_iff.2 fun x hx => h x ((Session.accepted_sublist step steps d).subset hx)

/-! ## The policy of one store -/

theorem policySteps_singleton (k : StoreType) (x : DeploymentStep) (d : DeploymentDraft) :
    policySteps k [x] d = ((x.onStore? d k).bind StoreStep.onPolicy?).toList := by
  rw [policySteps, stepsOn, stepsOn, List.append_nil]
  cases x.onStore? d k with
  | none => rfl
  | some t => cases h : t.onPolicy? <;> simp [h]

theorem policySteps_cons (k : StoreType) (x : DeploymentStep) (rest : List DeploymentStep)
    (d : DeploymentDraft) :
    policySteps k (x :: rest) d =
      policySteps k [x] d ++ policySteps k rest ((step x).run d).state := by
  rw [policySteps, stepsOn, List.filterMap_append, policySteps, stepsOn, stepsOn, List.append_nil]
  rfl

theorem declaration?_eq (k : StoreType) (x : DeploymentStep) (d : DeploymentDraft) :
    x.declaration? k =
      ((x.onStore? d k).bind StoreStep.onPolicy?).bind PolicyStep.declaration? := by
  cases x with
  | visit chain => rfl
  | through via j t =>
    by_cases h : j = k
    · subst h
      cases t <;> simp [DeploymentStep.onStore?, DeploymentStep.declaration?, StoreStep.onPolicy?,
        PolicyStep.declaration?]
    · cases t <;> simp [DeploymentStep.onStore?, DeploymentStep.declaration?, h]
  | validate | build =>
    rw [DeploymentStep.onStore?]
    split <;> rfl

/-- The declaration that one step takes about a store is the one that it takes on the policy of
this store. -/
theorem taken_singleton (k : StoreType) (x : DeploymentStep) (d : DeploymentDraft) :
    taken k [x] d = PolicyDraft.taken (policySteps k [x] d) (d.slot k).policy := by
  rw [policySteps_singleton]
  have hdeclares := declaration?_eq k x d
  cases hx : x.declaration? k with
  | none =>
    rw [hx] at hdeclares
    rw [taken_of_none (by simpa using hx), PolicyDraft.taken_of_none]
    intro t ht
    rw [Option.mem_toList.1 ht] at hdeclares
    exact hdeclares.symm
  | some y =>
    obtain ⟨via, rfl⟩ := DeploymentStep.declaration?_eq_some_iff.1 hx
    have hstep : ((DeploymentStep.through via k (.declare y)).onStore? d k).bind
        StoreStep.onPolicy? = some (.declare y) := by
      simp [DeploymentStep.onStore?, StoreStep.onPolicy?]
    have hpolicy : ((PolicyDraft.step (.declare y)).run (d.slot k).policy).answer =
        ((PolicyDraft.declare y).run (d.slot k).policy).answer.map fun _ => .done := by
      rw [PolicyDraft.step, Action.run_bind_return]
    have hanswer := answer_step_through via k (.declare y) d
    rw [StoreDraft.run_step_declare] at hanswer
    -- both sessions take the declaration exactly when the policy of the store does
    simp only [taken, PolicyDraft.taken, hstep, Option.toList_some, Session.accepted, hanswer,
      hpolicy]
    cases ((PolicyDraft.declare y).run (d.slot k).policy).answer with
    | error e => rfl
    | ok u => simp [Except.map, hx, PolicyStep.declaration?]

/-- **The declarations taken about a store** are those that its policy takes. -/
theorem taken_eq (k : StoreType) (steps : List DeploymentStep) (d : DeploymentDraft) :
    taken k steps d = PolicyDraft.taken (policySteps k steps d) (d.slot k).policy := by
  induction steps generalizing d with
  | nil => rfl
  | cons x rest ih =>
    have hslot := policy_slot_afterAll [x] d k
    rw [policySteps_cons, PolicyDraft.taken_append, ← hslot, ← taken_singleton]
    exact (taken_append k [x] rest d).trans (congrArg _ (ih _))

theorem toTerms_slot_afterAll (tmp : Path) (steps : List DeploymentStep) (k : StoreType) :
    ((afterAll steps (.new tmp)).slot k).policy.toTerms =
      Terms.amendAll ∅ (taken k steps (.new tmp)) := by
  rw [policy_slot_afterAll, PolicyDraft.toTerms_after, taken_eq, slot_new]
  rfl

theorem readsResolved_of_mem_taken (h : ∀ x ∈ steps, x.ReadsResolved) {y : Declaration}
    (hy : y ∈ taken k steps d) : y.ReadsResolved := by
  obtain ⟨x, hx, hxy⟩ := List.mem_filterMap.1 hy
  obtain ⟨via, rfl⟩ := DeploymentStep.declaration?_eq_some_iff.1 hxy
  exact h _ ((Session.accepted_sublist step steps d).subset hx)

end DeploymentDraft

end IdentityStore
