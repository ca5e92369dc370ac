import IdentityStore.Proofs.Policy.History
import IdentityStore.Proofs.Policy.Ledger

/-!
# Permission over whole histories

Which operations a policy permits is decided by the declarations that its draft has taken, seen as
a set: an operation is permitted on a type when some declaration supports the type and none
disables the operation on it.

* **What one declaration says** (`Declaration.Supports`, `Declaration.Disables`).
* **One declaration** (`mem_supported_amend`, `contains_unsupported_amend`) adds what it says to
  the two ledgers; **a history** (`mem_supported_amendAll`, `contains_unsupported_amendAll`) adds
  what any of its declarations says.
* `full_supported_amendAll`: the ledger of supported types is full throughout, so that the types
  in it decide.
* `permits_iff_supported_and_not_disabled`: the law, and that neither the order of the
  declarations nor any later one gives back what was disabled.
-/

namespace IdentityStore

namespace Declaration

/-- The declaration supports a type. -/
def Supports : Declaration → ManagedType → Prop
  | supportTypes types, t => t ∈ types
  | supportGlobal types, t | supportSelf types, t => t ∈ types.map (·.managedType)
  | supportAllFeatures, t => t ∈ ManagedType.defaults
  | readFrom policy, t => t ∈ policy.supported
  | _, _ => False

/-- The declaration disables an operation on a type. -/
def Disables : Declaration → ManagedType → Operation → Prop
  | unsupportType type operations, t, o => type = t ∧ (operations = [] ∨ o ∈ operations)
  | readFrom policy, t, o => o ∈ policy.unsupportedOperations t
  | _, _, _ => False

instance : (x : Declaration) → (t : ManagedType) → Decidable (x.Supports t)
  | supportTypes types, t => inferInstanceAs (Decidable (t ∈ types))
  | supportGlobal types, t | supportSelf types, t =>
    inferInstanceAs (Decidable (t ∈ types.map (·.managedType)))
  | supportAllFeatures, t => inferInstanceAs (Decidable (t ∈ ManagedType.defaults))
  | readFrom policy, t => inferInstanceAs (Decidable (t ∈ policy.supported))
  | unsupportType _ _, _ | addInitializer _, _ | setProperty _ _, _ | addHandler _, _
  | supportCredentials _, _ => inferInstanceAs (Decidable False)

instance : (x : Declaration) → (t : ManagedType) → (o : Operation) → Decidable (x.Disables t o)
  | unsupportType type operations, t, o =>
    inferInstanceAs (Decidable (type = t ∧ (operations = [] ∨ o ∈ operations)))
  | readFrom policy, t, o => inferInstanceAs (Decidable (o ∈ policy.unsupportedOperations t))
  | supportTypes _, _, _ | supportGlobal _, _, _ | supportSelf _, _, _ | supportAllFeatures, _, _
  | addInitializer _, _, _ | setProperty _ _, _, _ | addHandler _, _, _
  | supportCredentials _, _, _ => inferInstanceAs (Decidable False)

end Declaration

namespace PolicyDraft

theorem contains_disabled {operations : List Operation} {o : Operation} :
    (disabled operations).contains o = true ↔ operations = [] ∨ o ∈ operations := by
  cases operations with
  | nil => simp [disabled]
  | cons p rest =>
    rw [disabled, if_neg (by simp), OperationSet.contains_ofList]
    simp

end PolicyDraft

namespace Terms

variable {t : Terms} {x : Declaration} {history : List Declaration} {m : ManagedType}
  {o : Operation}

/-! ## One declaration -/

theorem mem_supported_amend :
    m ∈ (x.amend t).supported ↔ m ∈ t.supported ∨ x.Supports m := by
  cases x with
  | supportTypes types => exact Ledger.mem_support
  | supportGlobal types => exact Ledger.mem_support
  | supportSelf types => exact Ledger.mem_support
  | supportAllFeatures => exact Ledger.mem_support
  | readFrom policy => exact Ledger.mem_merge
  | _ => exact (or_iff_left id).symm

theorem contains_unsupported_amend :
    ((x.amend t).unsupported.operations m).contains o = true ↔
      (t.unsupported.operations m).contains o = true ∨ x.Disables m o := by
  cases x with
  | unsupportType type operations =>
    refine Ledger.contains_operations_add.trans ?_
    rw [PolicyDraft.contains_disabled]
    rfl
  | readFrom policy => exact Ledger.contains_operations_merge
  | _ => exact (or_iff_left id).symm

theorem full_supported_amend (ht : t.supported.Full)
    (hx : ∀ p, x = .readFrom p → p.supported.Full) : (x.amend t).supported.Full := by
  cases x with
  | supportTypes types => exact ht.support _
  | supportGlobal types => exact ht.support _
  | supportSelf types => exact ht.support _
  | supportAllFeatures => exact ht.support _
  | readFrom policy => exact ht.merge (hx policy rfl)
  | _ => exact ht

/-! ## A history -/

theorem mem_supported_amendAll :
    m ∈ (t.amendAll history).supported ↔ m ∈ t.supported ∨ ∃ x ∈ history, x.Supports m :=
  amendAll_iff (P := fun t => m ∈ t.supported) (Q := fun x => x.Supports m)
    fun _ _ => mem_supported_amend

theorem contains_unsupported_amendAll :
    ((t.amendAll history).unsupported.operations m).contains o = true ↔
      (t.unsupported.operations m).contains o = true ∨ ∃ x ∈ history, x.Disables m o :=
  amendAll_iff (P := fun t => (t.unsupported.operations m).contains o = true)
    (Q := fun x => x.Disables m o) fun _ _ => contains_unsupported_amend

theorem full_supported_amendAll (ht : t.supported.Full)
    (hx : ∀ x ∈ history, ∀ p, x = .readFrom p → p.supported.Full) :
    (t.amendAll history).supported.Full :=
  amendAll_induction (P := fun t => t.supported.Full) ht
    fun x hm _ h => full_supported_amend h (hx x hm)

theorem mem_supported_amendAll_empty :
    m ∈ (amendAll ∅ history).supported ↔ ∃ x ∈ history, x.Supports m := by
  rw [mem_supported_amendAll]
  exact or_iff_right Std.ExtTreeMap.not_mem_empty

theorem contains_unsupported_amendAll_empty :
    ((amendAll ∅ history).unsupported.operations m).contains o = true ↔
      ∃ x ∈ history, x.Disables m o := by
  have he : ¬ ((∅ : Terms).unsupported.operations m).contains o = true := by
    have h : (∅ : Terms).unsupported.operations m = ∅ := rfl
    rw [h, OperationSet.contains_empty]
    decide
  rw [contains_unsupported_amendAll]
  exact or_iff_right he

end Terms

theorem Policy.Resolved.full_supported {p : Policy} (h : p.Resolved) : p.supported.Full := by
  obtain ⟨d, hd, hp⟩ := h
  have ht : p.toTerms = d.toTerms := (PolicyDraft.resolve_eq_ok_iff.1 hp).2
  rw [ht]
  exact hd.terms_induction (P := fun t => t.supported.Full) Ledger.full_empty
    (fun t x hx h => Terms.full_supported_amend h fun p e => absurd e (hx p))
    fun t u ht hu => ht.merge hu

namespace Policy

variable {p : Policy} {history : List Declaration} {t : ManagedType} {o : Operation}

/-! ## The law of permission -/

theorem supports_amendAll (hp : p.toTerms = Terms.amendAll ∅ history)
    (hx : ∀ x ∈ history, x.ReadsResolved) :
    p.supports t o = true ↔
      (∃ x ∈ history, x.Supports t) ∧ ¬ ∃ x ∈ history, x.Disables t o := by
  have hfull : (Terms.amendAll ∅ history).supported.Full :=
    Terms.full_supported_amendAll Ledger.full_empty fun x hm q e => (hx x hm q e).full_supported
  rw [supports_eq, Bool.and_eq_true, Bool.not_eq_true', ← Bool.not_eq_true, hp,
    hfull.contains_operations, Terms.mem_supported_amendAll_empty,
    Terms.contains_unsupported_amendAll_empty]

theorem ResultsFrom.supports_iff (hp : p.ResultsFrom history)
    (hx : ∀ x ∈ history, x.ReadsResolved) :
    p.supports t o = true ↔
      (∃ x ∈ Declaration.sound history, x.Supports t) ∧
        ¬ ∃ x ∈ Declaration.sound history, x.Disables t o :=
  supports_amendAll (resultsFrom_iff.1 hp).1 fun x hm => hx x (List.mem_filter.1 hm).1

theorem ResultsFrom.supports_eq_false {more : List Declaration} {x : Declaration}
    (hp : p.ResultsFrom (history ++ more)) (hm : x ∈ Declaration.sound history)
    (hd : x.Disables t o) : p.supports t o = false := by
  have hmem : x ∈ Declaration.sound (history ++ more) := by
    rw [Declaration.sound, List.filter_append]
    exact List.mem_append_left _ hm
  have hdisabled := Terms.contains_unsupported_amendAll_empty.2 ⟨x, hmem, hd⟩
  rw [← (resultsFrom_iff.1 hp).1] at hdisabled
  rw [supports_eq, hdisabled]
  exact Bool.and_false _

theorem ResultsFrom.perm {other : List Declaration} (hp : p.ResultsFrom history)
    (h : other.Perm history) : ∃ q : Policy, q.ResultsFrom other := by
  obtain ⟨ht, hs⟩ := resultsFrom_iff.1 hp
  refine ⟨⟨Terms.amendAll ∅ (Declaration.sound other)⟩, resultsFrom_iff.2 ⟨rfl, ?_⟩⟩
  rw [ht] at hs
  obtain ⟨m, hm⟩ := Ledger.ne_empty_iff.1 hs
  obtain ⟨x, hx, hxm⟩ := Terms.mem_supported_amendAll_empty.1 hm
  have hmem : m ∈ (Terms.amendAll ∅ (Declaration.sound other)).supported :=
    Terms.mem_supported_amendAll_empty.2 ⟨x, (h.filter _).mem_iff.2 hx, hxm⟩
  exact Ledger.ne_empty_iff.2 ⟨m, hmem⟩

end Policy

end IdentityStore
