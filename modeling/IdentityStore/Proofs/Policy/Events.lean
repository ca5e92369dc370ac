import IdentityStore.Proofs.Policy.Accumulation
import IdentityStore.Proofs.Policy.Permission

/-!
# What is told about the draft of a policy

A step that fails tells nothing. The validation of a draft is told once: by the step that closes the
draft, together with the number of the types that are supported by what was taken until then.

* `PolicyDraft.events_of_error`: failures are silent.
* **Closing steps** (`PolicyDraft.Closes`): the steps after which an open draft is validated.
  `events_of_closes`, `validations_of_not_closes`: they tell the validation, and no other step does.
* `validations_events`: what a whole session tells about validation.
* **Counts** (`Declaration.CountSupported`): how many types a history supports.
* **Things with a policy** (`StepsOnPolicy`): steps that are steps on the draft of a policy tell
  what these tell (`StepsOnPolicy.tells`).
-/

namespace IdentityStore

namespace Event

def isValidation : Event → Bool
  | validated _ => true
  | _ => false

def isVisit : Event → Bool
  | configuring _ => true
  | _ => false

def isBuild : Event → Bool
  | built _ => true
  | _ => false

end Event

namespace Declaration

theorem kind_of_mem_events {x : Declaration} {e : Event} (h : e ∈ x.events) :
    e.isValidation = false ∧ e.isVisit = false ∧ e.isBuild = false := by
  cases x with
  | supportCredentials enabled => cases h
  | _ =>
    obtain rfl := List.mem_singleton.1 h
    exact ⟨rfl, rfl, rfl⟩

/-- The number of the types that the declarations of a history support, each type counted once. -/
def CountSupported (history : List Declaration) (n : Nat) : Prop :=
  ∃ types : List ManagedType, types.Nodup ∧
    (∀ m, m ∈ types ↔ ∃ x ∈ history, x.Supports m) ∧ types.length = n

theorem countSupported_size (history : List Declaration) :
    CountSupported history (Terms.amendAll ∅ history).supported.size :=
  ⟨(Terms.amendAll ∅ history).supported.keys, Std.ExtTreeMap.nodup_keys,
    fun _ => Std.ExtTreeMap.mem_keys.trans Terms.mem_supported_amendAll_empty,
    Std.ExtTreeMap.length_keys⟩

end Declaration

namespace PolicyDraft

variable {d : PolicyDraft} {t : PolicyStep}

/-! ## One step -/

theorem run_step_declare (x : Declaration) (d : PolicyDraft) :
    (step (.declare x)).run d =
      ⟨((declare x).run d).answer.map fun _ => .done, ((declare x).run d).state,
        ((declare x).run d).events⟩ := by
  rw [step, Action.run_bind_return]

theorem run_step_validate (d : PolicyDraft) :
    (step .validate).run d =
      ⟨(validate.run d).answer.map fun _ => .done, (validate.run d).state,
        (validate.run d).events⟩ := by
  rw [step, Action.run_bind_return]

theorem run_step_resolve (d : PolicyDraft) :
    (step .resolve).run d = ⟨d.resolve.map .resolved, d, []⟩ := by
  rw [step, Action.run_bind, Action.run_state]
  simp only
  cases d.resolve <;> rfl

theorem events_declare (x : Declaration) (d : PolicyDraft) :
    ((declare x).run d).events = if d.state = .opened ∧ x.fault? = none then x.events else [] := by
  cases hs : d.state with
  | validated => simp [run_declare_validated x hs]
  | opened =>
    cases hx : x.fault? with
    | none => simp [run_declare_opened hs hx]
    | some f => simp [run_declare_fault hs hx]

theorem events_validate (d : PolicyDraft) :
    (validate.run d).events =
      if d.state = .opened ∧ d.supported ≠ ∅ then [.validated d.supported.size] else [] := by
  by_cases hd : d.supported = ∅
  · simp [run_validate_unsupported hd, hd]
  · cases hs : d.state with
    | opened => simp [run_validate_opened hd hs, hd]
    | validated => simp [run_validate_validated hd hs]

/-- What a step tells: a declaration that is taken and a validation that closes the draft are told,
and nothing else. -/
theorem events_step (t : PolicyStep) (d : PolicyDraft) :
    ((step t).run d).events =
      match t with
      | .declare x => if d.state = .opened ∧ x.fault? = none then x.events else []
      | .validate =>
        if d.state = .opened ∧ d.supported ≠ ∅ then [.validated d.supported.size] else []
      | .resolve => [] := by
  cases t with
  | declare x =>
    rw [run_step_declare]
    exact events_declare x d
  | validate =>
    rw [run_step_validate]
    exact events_validate d
  | resolve => rw [run_step_resolve]

theorem kind_of_mem_events_step {e : Event} (h : e ∈ ((step t).run d).events) :
    e.isVisit = false ∧ e.isBuild = false := by
  rw [events_step] at h
  cases t with
  | declare x =>
    simp only at h
    split at h
    · exact (Declaration.kind_of_mem_events h).2
    · cases h
  | validate =>
    simp only at h
    split at h
    · obtain rfl := List.mem_singleton.1 h
      exact ⟨rfl, rfl⟩
    · cases h
  | resolve => cases h

/-- **Failures are silent.** -/
theorem events_of_error {e : Error} (h : ((step t).run d).answer = .error e) :
    ((step t).run d).events = [] := by
  rw [events_step]
  cases t with
  | declare x =>
    refine if_neg fun ⟨hs, hx⟩ => ?_
    rw [run_step_declare, run_declare_opened hs hx] at h
    cases h
  | validate =>
    refine if_neg fun ⟨hs, hd⟩ => ?_
    rw [run_step_validate, run_validate_opened hd hs] at h
    cases h
  | resolve => rfl

/-- The step closes the draft: it finds it open and leaves it validated. -/
def Closes (t : PolicyStep) (d : PolicyDraft) : Prop :=
  d.state = .opened ∧ ((step t).run d).state.state = .validated

instance (t : PolicyStep) (d : PolicyDraft) : Decidable (Closes t d) :=
  inferInstanceAs (Decidable (_ ∧ _))

theorem closes_iff : Closes t d ↔ t = .validate ∧ d.state = .opened ∧ d.supported ≠ ∅ := by
  constructor
  · rintro ⟨hs, hv⟩
    rw [state_step] at hv
    cases t with
    | declare x =>
      -- a declaration leaves an open draft open, taken or refused
      cases hx : x.fault? with
      | none =>
        simp only [run_declare_opened hs hx, hs] at hv
        cases hv
      | some f =>
        simp only [run_declare_fault hs hx, hs] at hv
        cases hv
    | validate =>
      refine ⟨rfl, hs, fun hd => ?_⟩
      simp only [run_validate_unsupported hd, hs] at hv
      cases hv
    | resolve =>
      rw [hs] at hv
      cases hv
  · rintro ⟨rfl, hs, hd⟩
    refine ⟨hs, ?_⟩
    rw [state_step]
    simp only [run_validate_opened hd hs]

/-- **A step that closes the draft tells the validation.** -/
theorem events_of_closes (h : Closes t d) :
    ((step t).run d).events = [.validated d.supported.size] := by
  obtain ⟨rfl, hs, hd⟩ := closes_iff.1 h
  rw [events_step]
  exact if_pos ⟨hs, hd⟩

/-- **No other step does.** -/
theorem validations_of_not_closes (h : ¬ Closes t d) :
    ((step t).run d).events.filter Event.isValidation = [] := by
  rw [events_step]
  cases t with
  | declare x =>
    refine List.filter_eq_nil_iff.2 fun e he => ?_
    simp only at he
    split at he
    · rw [(Declaration.kind_of_mem_events he).1]
      exact Bool.false_ne_true
    · cases he
  | validate =>
    have hn : ¬ (d.state = .opened ∧ d.supported ≠ ∅) := fun hd => h (closes_iff.2 ⟨rfl, hd⟩)
    simp only [if_neg hn, List.filter_nil]
  | resolve => rfl

/-! ## Sessions -/

theorem validations_events_of_sealed (h : d.Sealed) (steps : List PolicyStep) :
    (Session.events step steps d).filter Event.isValidation = [] := by
  have hopen : ¬ d.state = .opened := by
    rw [h.validated]
    decide
  induction steps with
  | nil => rfl
  | cons t rest ih =>
    rw [Session.events_cons, List.filter_append, h.step t, ih,
      validations_of_not_closes fun hc => hopen hc.1]
    rfl

/-- **A session tells the validation once,** if it leaves the draft validated. -/
theorem validations_events (hd : d.state = .opened) (steps : List PolicyStep) :
    (Session.events step steps d).filter Event.isValidation =
      if (Session.after step steps d).state = .validated then
        [.validated (Session.after step steps d).supported.size] else [] := by
  induction steps generalizing d with
  | nil => simp [Session.events, Session.outcomes, hd]
  | cons t rest ih =>
    rw [Session.events_cons, List.filter_append, Session.after_cons]
    by_cases hc : Closes t d
    · have hsealed : ((step t).run d).state.Sealed :=
        sealed_step (fun hv => absurd (hd.symm.trans hv) (by decide)) t hc.2
      have hterms : ((step t).run d).state.supported = d.supported := by
        obtain ⟨rfl, -, -⟩ := closes_iff.1 hc
        rw [state_step]
        exact congrArg Terms.supported (toTerms_validate d)
      rw [validations_events_of_sealed hsealed, hsealed.after, if_pos hsealed.validated, hterms,
        events_of_closes hc]
      rfl
    · have hopen : ((step t).run d).state.state = .opened := by
        cases hs : ((step t).run d).state.state with
        | opened => rfl
        | validated => exact absurd ⟨hd, hs⟩ hc
      rw [validations_of_not_closes hc, ih hopen]
      rfl

end PolicyDraft

/-! ## Things with a policy -/

section

variable {σ κ α : Type} {policy : σ → PolicyDraft} {act : κ → Action σ α}
  {onPolicy? : κ → Option PolicyStep} {new : σ}

/-- Every step on a thing is a step on the draft of its policy, or none: it fails only if that step
fails, leaves what that step leaves of the draft, and tells what it tells. -/
structure StepsOnPolicy (policy : σ → PolicyDraft) (act : κ → Action σ α)
    (onPolicy? : κ → Option PolicyStep) : Prop where
  error : ∀ t s e, ((act t).run s).answer = .error e →
    ∃ u, onPolicy? t = some u ∧ ((PolicyDraft.step u).run (policy s)).answer = .error e
  state : ∀ t s, policy ((act t).run s).state =
    Session.after PolicyDraft.step (onPolicy? t).toList (policy s)
  events : ∀ t s, ((act t).run s).events =
    Session.events PolicyDraft.step (onPolicy? t).toList (policy s)

/-- The policy of a thing is closed by a step: its draft is open before it, and validated after
it. -/
def ClosesPolicy (policy : σ → PolicyDraft) (act : κ → Action σ α) (t : κ) (s : σ) : Prop :=
  (policy s).state = .opened ∧ (policy ((act t).run s).state).state = .validated

instance (t : κ) (s : σ) : Decidable (ClosesPolicy policy act t s) :=
  inferInstanceAs (Decidable (_ ∧ _))

/-- What the steps on a thing with a policy tell, in sessions that start as `new`. -/
structure TellsPolicy (policy : σ → PolicyDraft) (act : κ → Action σ α)
    (onPolicy? : κ → Option PolicyStep) (new : σ) : Prop where
  /-- A step that fails is silent, in any state. -/
  silent : ∀ t s e, ((act t).run s).answer = .error e → ((act t).run s).events = []
  /-- A step that closes the policy tells this, and how many types are supported by the declarations
  taken until then. -/
  closing : ∀ steps t, ClosesPolicy policy act t (Session.after act steps new) →
    ∃ n, Declaration.CountSupported (PolicyDraft.taken (steps.filterMap onPolicy?) .new) n ∧
      ((act t).run (Session.after act steps new)).events = [.validated n]
  /-- No other step tells of a validation. -/
  other : ∀ steps t, ¬ ClosesPolicy policy act t (Session.after act steps new) →
    ∀ n, .validated n ∉ ((act t).run (Session.after act steps new)).events
  /-- A whole session tells of one validation, or of none if it leaves the policy open. -/
  once : ∀ steps, ((Session.events act steps new).filter Event.isValidation).length =
    if (policy (Session.after act steps new)).state = .validated then 1 else 0

namespace StepsOnPolicy

theorem state_after (h : StepsOnPolicy policy act onPolicy?) (steps : List κ) (s : σ) :
    policy (Session.after act steps s) =
      Session.after PolicyDraft.step (steps.filterMap onPolicy?) (policy s) := by
  induction steps generalizing s with
  | nil => rfl
  | cons t rest ih =>
    rw [Session.after_cons, ih, h.state, ← Session.after_append]
    cases ht : onPolicy? t <;> simp [ht]

theorem events_session (h : StepsOnPolicy policy act onPolicy?) (steps : List κ) (s : σ) :
    Session.events act steps s =
      Session.events PolicyDraft.step (steps.filterMap onPolicy?) (policy s) := by
  induction steps generalizing s with
  | nil => rfl
  | cons t rest ih =>
    rw [Session.events_cons, ih, h.events, h.state, ← Session.events_append]
    cases ht : onPolicy? t <;> simp [ht]

theorem closes_of_closesPolicy (h : StepsOnPolicy policy act onPolicy?) {t : κ} {s : σ}
    (hc : ClosesPolicy policy act t s) : onPolicy? t = some .validate ∧
      PolicyDraft.Closes .validate (policy s) := by
  obtain ⟨hopen, hclosed⟩ := hc
  rw [h.state] at hclosed
  cases ht : onPolicy? t with
  | none =>
    rw [ht] at hclosed
    rw [Option.toList_none, Session.after_nil, hopen] at hclosed
    cases hclosed
  | some u =>
    rw [ht] at hclosed
    have hu : PolicyDraft.Closes u (policy s) := ⟨hopen, hclosed⟩
    obtain ⟨rfl, -, -⟩ := PolicyDraft.closes_iff.1 hu
    exact ⟨rfl, hu⟩

theorem events_of_closes (h : StepsOnPolicy policy act onPolicy?) {t : κ} {s : σ}
    (hc : ClosesPolicy policy act t s) :
    ((act t).run s).events = [.validated (policy s).supported.size] := by
  obtain ⟨ht, hcloses⟩ := h.closes_of_closesPolicy hc
  rw [h.events, ht, Option.toList_some, Session.events_cons, PolicyDraft.events_of_closes hcloses]
  rfl

theorem validations_of_not_closes (h : StepsOnPolicy policy act onPolicy?) {t : κ} {s : σ}
    (hc : ¬ ClosesPolicy policy act t s) :
    ((act t).run s).events.filter Event.isValidation = [] := by
  rw [h.events]
  cases ht : onPolicy? t with
  | none => rfl
  | some u =>
    have hu : ¬ PolicyDraft.Closes u (policy s) := by
      intro hu
      refine hc ⟨hu.1, ?_⟩
      rw [h.state, ht]
      exact hu.2
    rw [Option.toList_some, Session.events_cons, List.filter_append,
      PolicyDraft.validations_of_not_closes hu]
    rfl

theorem kind_of_mem_events (h : StepsOnPolicy policy act onPolicy?) {t : κ} {s : σ} {e : Event}
    (he : e ∈ ((act t).run s).events) : e.isVisit = false ∧ e.isBuild = false := by
  rw [h.events] at he
  cases ht : onPolicy? t with
  | none =>
    rw [ht] at he
    cases he
  | some u =>
    rw [ht, Option.toList_some, Session.events_cons] at he
    rcases List.mem_append.1 he with he | he
    · exact PolicyDraft.kind_of_mem_events_step he
    · cases he

/-- **Failures are silent.** -/
theorem events_of_error (h : StepsOnPolicy policy act onPolicy?) {t : κ} {s : σ} {e : Error}
    (he : ((act t).run s).answer = .error e) : ((act t).run s).events = [] := by
  obtain ⟨u, hu, hfails⟩ := h.error t s e he
  rw [h.events, hu, Option.toList_some, Session.events_cons, PolicyDraft.events_of_error hfails]
  rfl

/-- **Things with a policy tell what its draft tells.** -/
theorem tells (h : StepsOnPolicy policy act onPolicy?) (hnew : policy new = .new) :
    TellsPolicy policy act onPolicy? new where
  silent t s e he := h.events_of_error he
  closing steps t hc := by
    have hterms : (policy (Session.after act steps new)).toTerms =
        Terms.amendAll ∅ (PolicyDraft.taken (steps.filterMap onPolicy?) .new) := by
      rw [h.state_after, hnew, PolicyDraft.toTerms_after]
      rfl
    refine ⟨_, Declaration.countSupported_size _, ?_⟩
    rw [h.events_of_closes hc, hterms]
  other steps t hc n hn := by
    have hmem := List.mem_filter.2 ⟨hn, (rfl : Event.isValidation (.validated n) = true)⟩
    rw [h.validations_of_not_closes hc] at hmem
    cases hmem
  once steps := by
    rw [h.events_session, h.state_after, hnew, PolicyDraft.validations_events rfl]
    split <;> rfl

end StepsOnPolicy

end

theorem PolicyDraft.stepsOnPolicy : StepsOnPolicy id PolicyDraft.step some where
  error t _ _ h := ⟨t, rfl, h⟩
  state _ _ := rfl
  events t d := by
    rw [Option.toList_some, Session.events_cons]
    exact (List.append_nil _).symm

end IdentityStore
