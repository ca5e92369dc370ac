import IdentityStore.Policy.Ledger

/-!
# Laws of ledgers

What the three ways to write into a ledger do to the types that have a note and to the operations
that are noted.

* **Types** (`mem_support`, `support_append`, `mem_merge`): supporting and merging add types and
  take none away.
* **Operations** (`contains_operations_add`, `contains_operations_merge`): adding and merging add
  operations and take none away.
* **Full ledgers** (`Full`): every note is of all operations. Supporting and merging keep a ledger
  full, and in a full ledger the operations of a type are all or none (`contains_operations`).
-/

namespace IdentityStore.Ledger

/-! ## Types with a note -/

theorem ne_empty_iff {l : Ledger} : l ≠ ∅ ↔ ∃ t : ManagedType, t ∈ l := by
  rw [Ne, Std.ExtTreeMap.eq_empty_iff_forall_not_mem]
  exact Classical.not_forall_not

theorem mem_support {l : Ledger} {types : List ManagedType} {t : ManagedType} :
    t ∈ l.support types ↔ t ∈ l ∨ t ∈ types := by
  rw [Std.ExtTreeMap.mem_iff_isSome_getElem?, getElem?_support, Option.isSome_or, Bool.or_eq_true,
    ← Std.ExtTreeMap.mem_iff_isSome_getElem?]
  by_cases h : t ∈ types <;> simp [h]

theorem support_append (l : Ledger) (types more : List ManagedType) :
    l.support (types ++ more) = (l.support types).support more := List.foldl_append

theorem support_eq_empty_iff {l : Ledger} {types : List ManagedType} :
    l.support types = ∅ ↔ l = ∅ ∧ types = [] := by
  simp only [Std.ExtTreeMap.eq_empty_iff_forall_not_mem, mem_support, not_or, forall_and,
    List.eq_nil_iff_forall_not_mem]

theorem mem_merge {l other : Ledger} {t : ManagedType} :
    t ∈ l.merge other ↔ t ∈ l ∨ t ∈ other := by
  rw [Std.ExtTreeMap.mem_iff_isSome_getElem?, getElem?_merge, Option.isSome_or, Bool.or_eq_true,
    Option.isSome_map, ← Std.ExtTreeMap.mem_iff_isSome_getElem?,
    ← Std.ExtTreeMap.mem_iff_isSome_getElem?]
  exact or_comm

/-! ## Noted operations -/

theorem contains_operations_add {l : Ledger} {t u : ManagedType} {ops : OperationSet}
    {o : Operation} :
    ((l.add t ops).operations u).contains o = true ↔
      (l.operations u).contains o = true ∨ (t = u ∧ ops.contains o = true) := by
  rw [operations_add]
  by_cases h : t = u <;> simp [h]

theorem contains_operations_merge {l other : Ledger} {t : ManagedType} {o : Operation} :
    ((l.merge other).operations t).contains o = true ↔
      (l.operations t).contains o = true ∨ (other.operations t).contains o = true := by
  have h : (l.merge other).operations t =
      ((other[t]?.map fun ops => l.operations t ∪ ops).or l[t]?).getD ∅ := by
    rw [operations, getElem?_merge]
  rw [h]
  cases ho : other[t]? with
  | none => simp [operations, ho]
  | some ops => simp [operations, ho]

/-! ## Full ledgers -/

/-- Every note is of all operations. -/
def Full (l : Ledger) : Prop :=
  ∀ (t : ManagedType) (ops : OperationSet), l[t]? = some ops → ops = .all

theorem full_empty : Full ∅ := by
  intro t ops h
  rw [Std.ExtTreeMap.getElem?_empty] at h
  cases h

theorem Full.support {l : Ledger} (h : l.Full) (types : List ManagedType) :
    (l.support types).Full := by
  intro t ops ht
  rw [getElem?_support] at ht
  rcases Option.or_eq_some_iff.1 ht with hl | ⟨-, hm⟩
  · exact h t ops hl
  · split at hm
    · exact (Option.some.inj hm).symm
    · cases hm

theorem Full.merge {l other : Ledger} (h : l.Full) (ho : other.Full) : (l.merge other).Full := by
  intro t ops ht
  rw [getElem?_merge] at ht
  rcases Option.or_eq_some_iff.1 ht with hm | ⟨-, hl⟩
  · obtain ⟨ops', he, rfl⟩ := Option.map_eq_some_iff.1 hm
    obtain rfl := ho t ops' he
    cases hl : l[t]? with
    | none => simp only [operations, hl]; rfl
    | some ops'' =>
      obtain rfl := h t ops'' hl
      simp only [operations, hl]
      rfl
  · exact h t ops hl

/-- **In a full ledger** an operation is noted for a type exactly when the type has a note. -/
theorem Full.contains_operations {l : Ledger} (h : l.Full) {t : ManagedType} {o : Operation} :
    (l.operations t).contains o = true ↔ t ∈ l := by
  rw [Std.ExtTreeMap.mem_iff_isSome_getElem?, operations]
  cases hl : l[t]? with
  | none => simp
  | some ops =>
    obtain rfl := h t ops hl
    simp

end IdentityStore.Ledger
