import IdentityStore.Proofs.Action
import IdentityStore.Proofs.Policy.Declaration

/-!
# Steps on the draft of a store

What each step does to the two parts of a draft. Declarations and validation go to the policy and
leave the settings alone; settings are changed at any time and leave the policy alone; creating a
store changes nothing.

* `run_step_declare`, `run_step_set`, `run_step_create`: the outcomes.
* `answer_state_validate`: the two outcomes of validation.
* `StoreDraft.store`: the store that a validated draft creates.
* `StoreSettings.Hold`: settings of a store are those of a draft, value by value.
-/

namespace IdentityStore

namespace StoreSettings

/-- The settings of a store hold the values of settings of a type, and are of this type. -/
def Hold (x : StoreSettings) : {k : StoreType} → Settings k → Prop
  | .file, values => x = .file values
  | .jpa, values => x = .jpa values
  | .ldap, values => x = .ldap values

theorem hold_pack {k : StoreType} (values : Settings k) : values.pack.Hold values := by
  cases k <;> rfl

end StoreSettings

namespace StoreDraft

variable {k : StoreType}

theorem run_step_declare (x : Declaration) (s : StoreDraft k) :
    (step (.declare x)).run s =
      ⟨((PolicyDraft.declare x).run s.policy).answer.map fun _ => .done,
        { s with policy := ((PolicyDraft.declare x).run s.policy).state },
        ((PolicyDraft.declare x).run s.policy).events⟩ := by
  rw [step, Action.run_bind_return]
  rfl

theorem run_step_set (setting : Setting k) (s : StoreDraft k) :
    (step (.set setting)).run s =
      ⟨.ok .done, { s with settings := setting.apply s.settings }, []⟩ := rfl

theorem run_step_validate (s : StoreDraft k) :
    (step .validate).run s =
      ⟨(validate.run s).answer.map fun _ => .done, (validate.run s).state,
        (validate.run s).events⟩ := by
  rw [step, Action.run_bind_return]

theorem run_step_create (s : StoreDraft k) :
    (step .create).run s = ⟨s.create.map .created, s, []⟩ := by
  rw [step, Action.run_bind, Action.run_state]
  simp only
  cases s.create <;> rfl

/-- The draft as it is after a successful validation. -/
def closed (s : StoreDraft k) : StoreDraft k := { s with policy := s.policy.closed }

/-- The store of a draft as it is now. -/
def store (s : StoreDraft k) : Store := ⟨s.settings.pack, ⟨s.policy.toTerms⟩⟩

@[simp] theorem policy_closed (s : StoreDraft k) : s.closed.policy = s.policy.closed := rfl

@[simp] theorem closed_closed (s : StoreDraft k) : s.closed.closed = s.closed := rfl

@[simp] theorem store_closed (s : StoreDraft k) : s.closed.store = s.store := rfl

@[simp] theorem type_store (s : StoreDraft k) : s.store.type = k := StoreSettings.type_pack _

/-- **Validation closes exactly the drafts that support a type.** -/
theorem answer_state_validate (s : StoreDraft k) :
    (s.policy.supported = ∅ ∧
        (validate.run s).answer = .error (.configuration .noSupportedTypes) ∧
        (validate.run s).state = s) ∨
      (s.policy.supported ≠ ∅ ∧ (validate.run s).answer = .ok () ∧
        (validate.run s).state = s.closed) := by
  rw [validate, onPolicy, Action.run_focus]
  rcases PolicyDraft.answer_state_validate s.policy with ⟨h, ha, hs⟩ | ⟨h, ha, hs⟩
  · exact .inl ⟨h, ha, by simp only [hs]⟩
  · exact .inr ⟨h, ha, by simp only [hs]; rfl⟩

theorem create_of_validated {s : StoreDraft k} (h : s.policy.state = .validated) :
    s.create = .ok s.store := by
  rw [create, PolicyDraft.resolve_validated h]
  rfl

end StoreDraft

end IdentityStore
