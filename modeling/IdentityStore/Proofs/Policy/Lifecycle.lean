import IdentityStore.Proofs.Action
import IdentityStore.Proofs.Policy.Declaration

/-!
# The life of a policy draft

A draft takes declarations until its first successful validation, and is closed for good from then
on. The same holds of everything that has the draft of a policy as a part and does with it what can
be done with a draft alone.

* **Closed for good** (`PolicyDraft.Sealed`): the draft is validated and supports a type. No step
  changes such a draft (`Sealed.after`), and a session that starts anew never has a validated draft
  that is not of this kind (`sealed_of_validated`).
* **Things with a policy** (`PolicyHost`): a part that is the draft of a policy, and declarations,
  validation and resolution that act on this part.
* `PolicyHost.Guarded`: which calls fail, how, and that they change nothing.
* `PolicyHost.Frozen`: the draft is closed, and this state is the last one.
* `PolicyHost.Lifecycle`: all calls are guarded, and validated means frozen over every later run.
-/

namespace IdentityStore

/-- The declaration should list types that are supported, but the list is empty. -/
def Declaration.ListsNothing (x : Declaration) : Prop :=
  x = .supportTypes [] ∨ x = .supportGlobal [] ∨ x = .supportSelf []

theorem Declaration.fault?_eq_none_iff_not_listsNothing {x : Declaration} :
    x.fault? = none ↔ ¬ x.ListsNothing := by
  rw [fault?_eq_none_iff, ListsNothing, not_or, not_or]

theorem Declaration.listsNothing_of_fault? {x : Declaration} {f : ArgumentFault}
    (h : x.fault? = some f) : x.ListsNothing := by
  refine Classical.byContradiction fun hn => ?_
  rw [fault?_eq_none_iff_not_listsNothing.2 hn] at h
  cases h

namespace PolicyDraft

variable {d : PolicyDraft}

/-! ## Sealed drafts -/

/-- The draft is closed for good: it was validated, and could be validated again. -/
structure Sealed (d : PolicyDraft) : Prop where
  validated : d.state = .validated
  supports : d.supported ≠ ∅

theorem sealed_closed (h : d.supported ≠ ∅) : d.closed.Sealed := ⟨rfl, h⟩

theorem Sealed.run_validate (h : d.Sealed) : validate.run d = ⟨.ok (), d, []⟩ :=
  run_validate_validated h.supports h.validated

theorem state_step (t : PolicyStep) (d : PolicyDraft) :
    ((step t).run d).state =
      match t with
      | .declare x => ((declare x).run d).state
      | .validate => (validate.run d).state
      | .resolve => d := by
  cases t with
  | declare x => rw [step, Action.run_bind_return]
  | validate => rw [step, Action.run_bind_return]
  | resolve =>
    rw [step, Action.run_bind, Action.run_state]
    simp only
    cases d.resolve <;> rfl

/-- **No step changes a sealed draft.** -/
theorem Sealed.step (h : d.Sealed) (t : PolicyStep) : ((step t).run d).state = d := by
  rw [state_step]
  cases t with
  | declare x => simp only [run_declare_validated x h.validated]
  | validate => simp only [h.run_validate]
  | resolve => rfl

theorem Sealed.after (h : d.Sealed) (steps : List PolicyStep) :
    Session.after PolicyDraft.step steps d = d := by
  induction steps with
  | nil => rfl
  | cons t rest ih => rw [Session.after_cons, h.step t, ih]

/-- A step that leaves a validated draft behind leaves a sealed one, if it found none that was
validated only. -/
theorem sealed_step (h : d.state = .validated → d.Sealed) (t : PolicyStep)
    (hv : ((step t).run d).state.state = .validated) : ((step t).run d).state.Sealed := by
  cases hs : d.state with
  | validated =>
    rw [(h hs).step t]
    exact h hs
  | opened =>
    have hne : ¬ DraftState.opened = .validated := by decide
    rw [state_step] at hv ⊢
    cases t with
    | declare x =>
      -- a declaration leaves an open draft open, taken or refused
      cases hx : x.fault? with
      | none =>
        simp only [run_declare_opened hs hx, hs] at hv
        exact absurd hv hne
      | some f =>
        simp only [run_declare_fault hs hx, hs] at hv
        exact absurd hv hne
    | validate =>
      simp only at hv ⊢
      rcases answer_state_validate d with ⟨-, -, hd⟩ | ⟨hd, -, hc⟩
      · rw [hd, hs] at hv
        exact absurd hv hne
      · rw [hc]
        exact sealed_closed hd
    | resolve =>
      simp only [hs] at hv
      exact absurd hv hne

/-- **A validated draft is sealed** in every session that starts anew. -/
theorem sealed_of_validated (steps : List PolicyStep)
    (h : (Session.after step steps .new).state = .validated) :
    (Session.after step steps .new).Sealed := by
  have run : ∀ d : PolicyDraft, (d.state = .validated → d.Sealed) →
      (Session.after step steps d).state = .validated → (Session.after step steps d).Sealed := by
    clear h
    induction steps with
    | nil => exact fun d hd => hd
    | cons t rest ih => exact fun d hd => ih _ (sealed_step hd t)
  refine run .new (fun hnew => ?_) h
  cases hnew

end PolicyDraft

/-! ## Things with a policy -/

/-- Something that has the draft of a policy as a part. What is declared, validated and resolved
there is declared, validated and resolved on this part, and nothing else changes. -/
structure PolicyHost (σ α β : Type) where
  /-- The draft of the policy. -/
  policy : σ → PolicyDraft
  /-- Replaces the draft of the policy. -/
  setPolicy : σ → PolicyDraft → σ
  /-- Takes a declaration. -/
  declare : Declaration → Action σ α
  /-- Validates. -/
  validate : Action σ α
  /-- What is made of the policy, once it is validated. -/
  resolve : σ → Except Error β
  /-- The answer of a declaration that is taken, and of a validation that succeeds. -/
  done : α
  /-- What is made of a policy. -/
  result : σ → Policy → β
  setPolicy_policy : ∀ s, setPolicy s (policy s) = s
  policy_setPolicy : ∀ s p, policy (setPolicy s p) = p
  run_declare : ∀ x s, (declare x).run s =
    ⟨((PolicyDraft.declare x).run (policy s)).answer.map fun _ => done,
      setPolicy s ((PolicyDraft.declare x).run (policy s)).state,
      ((PolicyDraft.declare x).run (policy s)).events⟩
  run_validate : ∀ s, validate.run s =
    ⟨(PolicyDraft.validate.run (policy s)).answer.map fun _ => done,
      setPolicy s (PolicyDraft.validate.run (policy s)).state,
      (PolicyDraft.validate.run (policy s)).events⟩
  resolve_eq : ∀ s, resolve s = (policy s).resolve.map (result s)

namespace PolicyHost

variable {σ α β : Type} (H : PolicyHost σ α β) {s : σ}

/-- Which calls fail, and how: declarations are refused by a validated draft, and by an open one if
they list nothing; only a draft that supports a type is validated; only a validated draft is
resolved. A call that fails changes nothing, and validation changes nothing but the state. -/
structure Guarded (s : σ) : Prop where
  declare_alreadyValidated : ∀ x, ((H.declare x).run s).answer =
    .error (.configuration .alreadyValidated) ↔ (H.policy s).state = .validated
  declare_invalidArgument : ∀ x,
    (∃ f, ((H.declare x).run s).answer = .error (.invalidArgument f)) ↔
      (H.policy s).state = .opened ∧ x.ListsNothing
  declare_ok : ∀ x, ((H.declare x).run s).answer = .ok H.done ↔
    (H.policy s).state = .opened ∧ ¬ x.ListsNothing
  declare_error : ∀ x e, ((H.declare x).run s).answer = .error e → ((H.declare x).run s).state = s
  validate_noSupportedTypes : (H.validate.run s).answer =
    .error (.configuration .noSupportedTypes) ↔ (H.policy s).supported = ∅
  validate_ok : (H.validate.run s).answer = .ok H.done ↔ (H.policy s).supported ≠ ∅
  validate_error : ∀ e, (H.validate.run s).answer = .error e → (H.validate.run s).state = s
  validate_closes : (H.validate.run s).answer = .ok H.done →
    (H.validate.run s).state = H.setPolicy s { H.policy s with state := .validated }
  resolve_notValidated : H.resolve s = .error (.configuration .notValidated) ↔
    (H.policy s).state = .opened
  resolve_ok : (H.policy s).state = .validated →
    H.resolve s = .ok (H.result s ⟨(H.policy s).toTerms⟩)

/-- The draft is closed: every declaration is refused, validation succeeds once more, and the
policy is resolved. None of this changes anything. -/
structure Frozen (s : σ) : Prop where
  declare : ∀ x, ((H.declare x).run s).answer = .error (.configuration .alreadyValidated) ∧
    ((H.declare x).run s).state = s
  validate : (H.validate.run s).answer = .ok H.done ∧ (H.validate.run s).state = s
  resolve : H.resolve s = .ok (H.result s ⟨(H.policy s).toTerms⟩)

/-- The life of a policy in something that starts as `new` and goes through runs. -/
structure Lifecycle {κ : Type} (new : σ) (after : κ → σ → σ) : Prop where
  guarded : ∀ s, H.Guarded s
  frozen_of_validated : ∀ run, (H.policy (after run new)).state = .validated →
    H.Frozen (after run new)
  frozen_after_validate : ∀ s run, (H.validate.run s).answer = .ok H.done →
    H.policy (after run (H.validate.run s).state) = H.policy (H.validate.run s).state ∧
      H.Frozen (after run (H.validate.run s).state)

/-! ## Guards -/

theorem answer_state_declare (x : Declaration) (s : σ) :
    ((H.policy s).state = .validated ∧
        ((H.declare x).run s).answer = .error (.configuration .alreadyValidated) ∧
        ((H.declare x).run s).state = s) ∨
      ((H.policy s).state = .opened ∧ x.ListsNothing ∧
        (∃ f, ((H.declare x).run s).answer = .error (.invalidArgument f)) ∧
        ((H.declare x).run s).state = s) ∨
      ((H.policy s).state = .opened ∧ ¬ x.ListsNothing ∧
        ((H.declare x).run s).answer = .ok H.done) := by
  rw [H.run_declare]
  cases hs : (H.policy s).state with
  | validated =>
    rw [PolicyDraft.run_declare_validated x hs]
    exact .inl ⟨rfl, rfl, H.setPolicy_policy s⟩
  | opened =>
    cases hx : x.fault? with
    | some f =>
      have hl := Declaration.listsNothing_of_fault? hx
      rw [PolicyDraft.run_declare_fault hs hx]
      exact .inr (.inl ⟨rfl, hl, ⟨f, rfl⟩, H.setPolicy_policy s⟩)
    | none =>
      have hl := Declaration.fault?_eq_none_iff_not_listsNothing.1 hx
      rw [PolicyDraft.run_declare_opened hs hx]
      exact .inr (.inr ⟨rfl, hl, rfl⟩)

theorem answer_state_validate (s : σ) :
    ((H.policy s).supported = ∅ ∧
        (H.validate.run s).answer = .error (.configuration .noSupportedTypes) ∧
        (H.validate.run s).state = s) ∨
      ((H.policy s).supported ≠ ∅ ∧ (H.validate.run s).answer = .ok H.done ∧
        (H.validate.run s).state = H.setPolicy s (H.policy s).closed) := by
  rw [H.run_validate]
  rcases PolicyDraft.answer_state_validate (H.policy s) with ⟨h, ha, hs⟩ | ⟨h, ha, hs⟩
  · rw [ha, hs]
    exact .inl ⟨h, rfl, H.setPolicy_policy s⟩
  · rw [ha, hs]
    exact .inr ⟨h, rfl, rfl⟩

theorem resolve_opened (h : (H.policy s).state = .opened) :
    H.resolve s = .error (.configuration .notValidated) := by
  rw [H.resolve_eq, PolicyDraft.resolve_opened h]
  rfl

theorem resolve_validated (h : (H.policy s).state = .validated) :
    H.resolve s = .ok (H.result s ⟨(H.policy s).toTerms⟩) := by
  rw [H.resolve_eq, PolicyDraft.resolve_validated h]
  rfl

/-- **Everything with a policy guards it.** -/
theorem guarded (s : σ) : H.Guarded s where
  declare_alreadyValidated x := by
    rcases H.answer_state_declare x s with ⟨hs, ha, -⟩ | ⟨hs, -, ⟨f, ha⟩, -⟩ | ⟨hs, -, ha⟩ <;>
      simp [hs, ha]
  declare_invalidArgument x := by
    rcases H.answer_state_declare x s with ⟨hs, ha, -⟩ | ⟨hs, hx, ⟨f, ha⟩, -⟩ | ⟨hs, hx, ha⟩
    · simp [hs, ha]
    · simp [hs, ha, hx]
    · simp [hs, ha, hx]
  declare_ok x := by
    rcases H.answer_state_declare x s with ⟨hs, ha, -⟩ | ⟨hs, hx, ⟨f, ha⟩, -⟩ | ⟨hs, hx, ha⟩
    · simp [hs, ha]
    · simp [hs, ha, hx]
    · simp [hs, ha, hx]
  declare_error x e he := by
    rcases H.answer_state_declare x s with ⟨-, -, h⟩ | ⟨-, -, -, h⟩ | ⟨-, -, ha⟩
    · exact h
    · exact h
    · rw [ha] at he
      cases he
  validate_noSupportedTypes := by
    rcases H.answer_state_validate s with ⟨h, ha, -⟩ | ⟨h, ha, -⟩ <;> simp [h, ha]
  validate_ok := by
    rcases H.answer_state_validate s with ⟨h, ha, -⟩ | ⟨h, ha, -⟩ <;> simp [h, ha]
  validate_error e he := by
    rcases H.answer_state_validate s with ⟨-, -, h⟩ | ⟨-, ha, -⟩
    · exact h
    · rw [ha] at he
      cases he
  validate_closes ho := by
    rcases H.answer_state_validate s with ⟨-, ha, -⟩ | ⟨-, -, h⟩
    · rw [ha] at ho
      cases ho
    · exact h
  resolve_notValidated := by
    cases hs : (H.policy s).state with
    | opened => simp [H.resolve_opened hs]
    | validated => simp [H.resolve_validated hs]
  resolve_ok := H.resolve_validated

/-! ## Freezing -/

/-- **What has a sealed draft is frozen.** -/
theorem frozen_of_sealed (h : (H.policy s).Sealed) : H.Frozen s where
  declare x := by
    rw [H.run_declare, PolicyDraft.run_declare_validated x h.validated]
    exact ⟨rfl, H.setPolicy_policy s⟩
  validate := by
    rw [H.run_validate, h.run_validate]
    exact ⟨rfl, H.setPolicy_policy s⟩
  resolve := H.resolve_validated h.validated

theorem sealed_of_validate_ok (h : (H.validate.run s).answer = .ok H.done) :
    (H.policy (H.validate.run s).state).Sealed := by
  rcases H.answer_state_validate s with ⟨-, ha, -⟩ | ⟨hs, -, hc⟩
  · rw [ha] at h
    cases h
  · rw [hc, H.policy_setPolicy]
    exact PolicyDraft.sealed_closed hs

/-- **Runs that are sessions on the draft** lead through a life of this draft. -/
theorem lifecycle {κ : Type} {new : σ} {after : κ → σ → σ} (hnew : H.policy new = .new)
    (hafter : ∀ run s, ∃ steps,
      H.policy (after run s) = Session.after PolicyDraft.step steps (H.policy s)) :
    H.Lifecycle new after where
  guarded := H.guarded
  frozen_of_validated run h := by
    obtain ⟨steps, hsteps⟩ := hafter run new
    rw [hsteps, hnew] at h
    refine H.frozen_of_sealed ?_
    rw [hsteps, hnew]
    exact PolicyDraft.sealed_of_validated steps h
  frozen_after_validate s run h := by
    have hsealed := H.sealed_of_validate_ok h
    obtain ⟨steps, hsteps⟩ := hafter run (H.validate.run s).state
    rw [hsealed.after] at hsteps
    refine ⟨hsteps, H.frozen_of_sealed ?_⟩
    rw [hsteps]
    exact hsealed

end PolicyHost

/-! ## The draft itself -/

/-- The draft of a policy, by itself. -/
def PolicyDraft.host : PolicyHost PolicyDraft Unit Policy where
  policy d := d
  setPolicy _ p := p
  declare := PolicyDraft.declare
  validate := PolicyDraft.validate
  resolve := PolicyDraft.resolve
  done := ()
  result _ p := p
  setPolicy_policy _ := rfl
  policy_setPolicy _ _ := rfl
  run_declare x d := by
    rcases (PolicyDraft.declare x).run d with ⟨_ | _, _, _⟩ <;> rfl
  run_validate d := by
    rcases PolicyDraft.validate.run d with ⟨_ | _, _, _⟩ <;> rfl
  resolve_eq d := by
    cases d.resolve <;> rfl

end IdentityStore
