import IdentityStore.Session

/-!
# What a declaration does

Every declaration on a draft has one of three outcomes, and which one it is depends on the state
of the draft and on the argument alone. Later proofs use these equations and never look into
`PolicyDraft.declare`.

* **Refused by the state** (`run_declare_validated`): a validated draft refuses every declaration.
* **Refused for the argument** (`run_declare_fault`): an open draft refuses an empty list of types.
* **Taken** (`run_declare_opened`): the terms become `Declaration.amend` of what they were.
* `answer_state_validate`, `resolve_eq_ok_iff`: the same for validation and resolution.
-/

namespace IdentityStore

namespace Declaration

/-- The fault of an argument that no draft accepts. -/
def fault? : Declaration → Option ArgumentFault
  | supportTypes [] => some .noManagedTypes
  | supportGlobal [] | supportSelf [] => some .noRelationshipTypes
  | _ => none

/-- The terms after a declaration that is taken. -/
def amend : Declaration → Terms → Terms
  | supportTypes types, t => { t with supported := t.supported.support types }
  | unsupportType type operations, t =>
    { t with unsupported := t.unsupported.add type (PolicyDraft.disabled operations) }
  | supportGlobal types, t =>
    { t with
      relationships := t.relationships.addGlobal types
      supported := t.supported.support (types.map (·.managedType)) }
  | supportSelf types, t =>
    { t with
      relationships := t.relationships.addSelf types
      supported := t.supported.support (types.map (·.managedType)) }
  | supportAllFeatures, t =>
    { t with
      supported := t.supported.support ManagedType.defaults
      credentials := t.credentials.setEnabled true }
  | addInitializer initializer, t => { t with initializers := t.initializers ++ [initializer] }
  | setProperty name value, t => { t with credentials := t.credentials.setProperty name value }
  | addHandler handler, t => { t with credentials := t.credentials.addHandler handler }
  | supportCredentials enabled, t => { t with credentials := t.credentials.setEnabled enabled }
  | readFrom policy, t => t.merge policy.toTerms

/-- What a declaration that is taken tells. -/
def events : Declaration → List Event
  | supportTypes types => [.supporting types.length]
  | unsupportType type operations => [.unsupporting (PolicyDraft.disabled operations) type]
  | supportGlobal types => [.supportingGlobal types.length]
  | supportSelf types => [.supportingSelf types.length]
  | supportAllFeatures => [.supporting ManagedType.defaults.length]
  | addInitializer initializer => [.addingInitializer initializer.id]
  | setProperty name _ => [.settingProperty name]
  | addHandler handler => [.addingHandler handler]
  | supportCredentials _ => []
  | readFrom policy => [.readPolicy policy.supported.size]

/-- An argument has a fault exactly when it is an empty list of types. -/
theorem fault?_eq_none_iff {x : Declaration} :
    x.fault? = none ↔ x ≠ supportTypes [] ∧ x ≠ supportGlobal [] ∧ x ≠ supportSelf [] := by
  unfold fault?
  split <;> simp_all

end Declaration

namespace PolicyDraft

variable {d : PolicyDraft}

/-! ## The three outcomes of a declaration -/

private theorem run_ensureOpen_validated {α : Type} (f : Unit → Action PolicyDraft α)
    (h : d.state = .validated) :
    (ensureOpen >>= f).run d = ⟨.error (.configuration .alreadyValidated), d, []⟩ := by
  have he : ensureOpen.run d = ⟨.error (.configuration .alreadyValidated), d, []⟩ := by
    simp [ensureOpen, Action.run_bind, h, Outcome.after]
  rw [Action.run_bind, he]

private theorem run_ensureOpen_opened {α : Type} (f : Unit → Action PolicyDraft α)
    (h : d.state = .opened) : (ensureOpen >>= f).run d = (f ()).run d := by
  have he : ensureOpen.run d = ⟨.ok (), d, []⟩ := by
    simp [ensureOpen, Action.run_bind, h, Outcome.after]
  rw [Action.run_bind, he]
  exact Outcome.after_nil _

private theorem run_ensureGiven {α β : Type} (l : List α) (fault : ArgumentFault)
    (f : Unit → Action PolicyDraft β) :
    (ensureGiven l fault >>= f).run d =
      if l = [] then ⟨.error (.invalidArgument fault), d, []⟩ else (f ()).run d := by
  cases l with
  | nil => simp [ensureGiven, Action.run_bind]
  | cons a l => simp [ensureGiven]

private theorem run_tell_amend (e : Event) (f : Terms → Terms) :
    (Action.tell e >>= fun _ => amend f).run d = ⟨.ok (), { d with toTerms := f d.toTerms }, [e]⟩ :=
  rfl

/-- **A validated draft refuses every declaration,** whatever its argument. -/
theorem run_declare_validated (x : Declaration) (h : d.state = .validated) :
    (declare x).run d = ⟨.error (.configuration .alreadyValidated), d, []⟩ := by
  cases x with
  | supportAllFeatures =>
    rw [declare, supportTypes, bind_assoc]
    exact run_ensureOpen_validated _ h
  | _ => exact run_ensureOpen_validated _ h

/-- **An open draft refuses an empty list of types.** -/
theorem run_declare_fault {x : Declaration} {f : ArgumentFault} (h : d.state = .opened)
    (hx : x.fault? = some f) : (declare x).run d = ⟨.error (.invalidArgument f), d, []⟩ := by
  unfold Declaration.fault? at hx
  split at hx
  all_goals first
    | contradiction
    | obtain rfl := Option.some.inj hx
      refine (run_ensureOpen_opened _ h).trans ?_
      rw [run_ensureGiven, if_pos rfl]

/-- **An open draft takes every other declaration.** -/
theorem run_declare_opened {x : Declaration} (h : d.state = .opened) (hx : x.fault? = none) :
    (declare x).run d = ⟨.ok (), { d with toTerms := x.amend d.toTerms }, x.events⟩ := by
  obtain ⟨ht, hg, hs⟩ := Declaration.fault?_eq_none_iff.1 hx
  cases x with
  | supportTypes types =>
    refine (run_ensureOpen_opened _ h).trans ?_
    rw [run_ensureGiven, if_neg (fun e => ht (by rw [e])), run_tell_amend]
    rfl
  | supportGlobal types =>
    refine (run_ensureOpen_opened _ h).trans ?_
    rw [run_ensureGiven, if_neg (fun e => hg (by rw [e])), run_tell_amend]
    rfl
  | supportSelf types =>
    refine (run_ensureOpen_opened _ h).trans ?_
    rw [run_ensureGiven, if_neg (fun e => hs (by rw [e])), run_tell_amend]
    rfl
  | supportAllFeatures =>
    have first : (supportTypes ManagedType.defaults).run d =
        ⟨.ok (), { d with supported := d.supported.support ManagedType.defaults },
          [.supporting ManagedType.defaults.length]⟩ := by
      refine (run_ensureOpen_opened _ h).trans ?_
      rw [run_ensureGiven, if_neg (by decide), run_tell_amend]
    -- the draft is still open, so the second declaration is taken as well
    have second : (supportCredentials true).run
        { d with supported := d.supported.support ManagedType.defaults } =
        ⟨.ok (), { d with toTerms := Declaration.supportAllFeatures.amend d.toTerms }, []⟩ :=
      (run_ensureOpen_opened _ (by exact h)).trans rfl
    rw [declare, Action.run_bind, first]
    simp only [second]
    rfl
  | _ => exact (run_ensureOpen_opened _ h).trans rfl

/-! ## Validation and resolution -/

theorem run_validate_unsupported (h : d.supported = ∅) :
    validate.run d = ⟨.error (.configuration .noSupportedTypes), d, []⟩ := by
  rw [validate, Action.run_bind, Action.run_state]
  simp only
  rw [if_pos (Std.ExtTreeMap.isEmpty_iff.2 h)]
  rfl

theorem run_validate_opened (h : d.supported ≠ ∅) (hs : d.state = .opened) :
    validate.run d =
      ⟨.ok (), { d with state := .validated }, [.validated d.supported.size]⟩ := by
  rw [validate, Action.run_bind, Action.run_state]
  simp only
  rw [if_neg (mt Std.ExtTreeMap.isEmpty_iff.1 h), if_pos hs]
  rfl

theorem run_validate_validated (h : d.supported ≠ ∅) (hs : d.state = .validated) :
    validate.run d = ⟨.ok (), d, []⟩ := by
  have hn : ¬ d.state = .opened := by rw [hs]; decide
  rw [validate, Action.run_bind, Action.run_state]
  simp only
  rw [if_neg (mt Std.ExtTreeMap.isEmpty_iff.1 h), if_neg hn]
  rfl

/-- The draft as it is after a successful validation. -/
def closed (d : PolicyDraft) : PolicyDraft := { d with state := .validated }

@[simp] theorem state_closed (d : PolicyDraft) : d.closed.state = .validated := rfl

@[simp] theorem toTerms_closed (d : PolicyDraft) : d.closed.toTerms = d.toTerms := rfl

theorem closed_of_validated (h : d.state = .validated) : d.closed = d := by
  rw [closed, ← h]

/-- **Validation closes exactly the drafts that support a type,** and leaves the others alone. -/
theorem answer_state_validate (d : PolicyDraft) :
    (d.supported = ∅ ∧ (validate.run d).answer = .error (.configuration .noSupportedTypes) ∧
        (validate.run d).state = d) ∨
      (d.supported ≠ ∅ ∧ (validate.run d).answer = .ok () ∧ (validate.run d).state = d.closed) := by
  by_cases h : d.supported = ∅
  · rw [run_validate_unsupported h]
    exact .inl ⟨h, rfl, rfl⟩
  · refine .inr ⟨h, ?_⟩
    cases hs : d.state with
    | opened =>
      rw [run_validate_opened h hs]
      exact ⟨rfl, rfl⟩
    | validated =>
      rw [run_validate_validated h hs, closed_of_validated hs]
      exact ⟨rfl, rfl⟩

/-- Only a validated draft is resolved, and its policy has the terms of the draft. -/
theorem resolve_opened (h : d.state = .opened) :
    d.resolve = .error (.configuration .notValidated) := by
  have hn : ¬ d.state = .validated := by rw [h]; decide
  rw [resolve, if_neg hn]

theorem resolve_validated (h : d.state = .validated) : d.resolve = .ok ⟨d.toTerms⟩ := by
  rw [resolve, if_pos h]

theorem resolve_eq_ok_iff {p : Policy} :
    d.resolve = .ok p ↔ d.state = .validated ∧ p.toTerms = d.toTerms := by
  cases h : d.state with
  | opened => simp [resolve_opened h]
  | validated =>
    rw [resolve_validated h]
    constructor
    · intro e
      cases e
      exact ⟨rfl, rfl⟩
    · rintro ⟨-, e⟩
      rw [← e]

end PolicyDraft

end IdentityStore
