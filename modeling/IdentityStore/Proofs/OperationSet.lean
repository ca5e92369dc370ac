import IdentityStore.OperationSet

/-!
# Sets of operations as words

Four bits of a word belong to no operation, so that a set can have bits and no member. The sets that
come about in policies have none of these bits.

* **Unions** (`union_assoc`, `union_empty`, `union_difference`): laws that hold of all words.
* **Known sets** (`Known`): every bit belongs to an operation. Sets of lists are known, and so are
  unions and differences of known sets.
* **Members** (`ofList_operations`, `Known.ext`): a known set is made again from the list of its
  members, so that it is told by them. It has one exactly when it has a bit
  (`Known.exists_contains_iff`).
* **Proper sets** (`Proper`): known sets with a member.
* **Sets of lists** (`ofList_eq_iff`, `ofList_append`, `ofList_difference`): what counts of a list is
  which operations occur in it. `Shows`: what a set shows of the list that it was made from.
* `made_from_list`: the law.
-/

namespace IdentityStore.OperationSet

variable {s t : OperationSet} {o : Operation}

/-! ## Unions -/

theorem union_assoc (s t u : OperationSet) : s ∪ t ∪ u = s ∪ (t ∪ u) :=
  congrArg mk (UInt8.or_assoc s.bits t.bits u.bits)

@[simp] theorem union_empty (s : OperationSet) : s ∪ ∅ = s := congrArg mk UInt8.or_zero

@[simp] theorem empty_union (s : OperationSet) : ∅ ∪ s = s := congrArg mk UInt8.zero_or

theorem union_difference (s t u : OperationSet) : (s ∪ t) \ u = s \ u ∪ t \ u :=
  congrArg mk (UInt8.toBitVec_inj.1 BitVec.and_or_distrib_right)

theorem difference_right_comm (s t u : OperationSet) : (s \ t) \ u = (s \ u) \ t := by
  refine congrArg mk ?_
  exact (UInt8.and_assoc ..).trans ((congrArg _ (UInt8.and_comm ..)).trans (UInt8.and_assoc ..).symm)

@[simp] theorem empty_difference (s : OperationSet) : ∅ \ s = ∅ := congrArg mk UInt8.zero_and

theorem isEmpty_eq_false_iff : s.isEmpty = false ↔ s ≠ ∅ := by
  rw [isEmpty, beq_eq_false_iff_ne]
  exact not_congr ⟨congrArg mk, congrArg bits⟩

/-! ## Known sets -/

/-- Every bit belongs to an operation. -/
def Known (s : OperationSet) : Prop := s \ all = ∅

instance (s : OperationSet) : Decidable s.Known := inferInstanceAs (Decidable (s \ all = ∅))

theorem known_empty : Known ∅ := empty_difference all

theorem known_all : Known all := rfl

theorem known_single (o : Operation) : (single o).Known := by
  cases o <;> rfl

theorem Known.union (hs : s.Known) (ht : t.Known) : (s ∪ t).Known := by
  unfold Known at *
  rw [union_difference, hs, ht, union_empty]

theorem Known.difference (hs : s.Known) (t : OperationSet) : (s \ t).Known := by
  unfold Known at *
  rw [difference_right_comm, hs, empty_difference]

theorem known_ofList (l : List Operation) : (ofList l).Known := by
  have step : ∀ s : OperationSet, s.Known → (l.foldl insert s).Known := by
    induction l with
    | nil => exact fun s hs => hs
    | cons o rest ih => exact fun s hs => ih _ (hs.union (known_single o))
  exact step ∅ known_empty

/-! ## Members -/

theorem mem_operations : o ∈ s.operations ↔ s.contains o = true := by
  have hall : o ∈ Operation.all := by cases o <;> decide
  exact List.mem_filter.trans (and_iff_right hall)

/-- **A known set is made again** from the list of its members. -/
theorem ofList_operations (hs : s.Known) : ofList s.operations = s := by
  -- only sixteen of the words are known
  have hwords : ∀ b : BitVec 8, Known ⟨⟨b⟩⟩ → ofList (operations ⟨⟨b⟩⟩) = ⟨⟨b⟩⟩ := by
    decide +kernel
  exact hwords s.bits.toBitVec hs

theorem Known.ext (hs : s.Known) (ht : t.Known)
    (h : ∀ o, s.contains o = true ↔ t.contains o = true) : s = t := by
  have hcontains : s.contains = t.contains := funext fun o => Bool.eq_iff_iff.2 (h o)
  calc s = ofList s.operations := (ofList_operations hs).symm
    _ = ofList t.operations := by rw [operations, operations, hcontains]
    _ = t := ofList_operations ht

theorem pairwise_operations (s : OperationSet) :
    s.operations.Pairwise fun a b => a.rank < b.rank :=
  List.Pairwise.filter _ (by decide)

/-- **A known set has a member exactly when it has a bit.** -/
theorem Known.exists_contains_iff (hs : s.Known) : (∃ o, s.contains o = true) ↔ s ≠ ∅ := by
  constructor
  · rintro ⟨o, ho⟩ rfl
    rw [contains_empty] at ho
    cases ho
  · intro hne
    have hmembers : s.operations ≠ [] := fun h => hne (by rw [← ofList_operations hs, h]; rfl)
    obtain ⟨o, ho⟩ := List.exists_mem_of_ne_nil _ hmembers
    exact ⟨o, mem_operations.1 ho⟩

/-! ## Proper sets -/

/-- Every bit belongs to an operation, and there is one. -/
structure Proper (s : OperationSet) : Prop where
  known : s.Known
  nonempty : s ≠ ∅

theorem Known.proper (hs : s.Known) (ho : s.contains o = true) : s.Proper :=
  ⟨hs, hs.exists_contains_iff.1 ⟨o, ho⟩⟩

theorem Proper.union_left (ht : t.Proper) (hs : s.Known) : (s ∪ t).Proper := by
  obtain ⟨o, ho⟩ := ht.known.exists_contains_iff.2 ht.nonempty
  have hmem : (s ∪ t).contains o = true := by rw [contains_union, ho, Bool.or_true]
  exact (hs.union ht.known).proper hmem

/-! ## Sets of lists -/

variable {l m : List Operation}

/-- **The set of a list** tells which operations occur in the list, and nothing else of it. -/
theorem ofList_eq_iff : ofList l = ofList m ↔ ∀ o, o ∈ l ↔ o ∈ m := by
  constructor
  · intro h o
    rw [← contains_ofList, h, contains_ofList]
  · intro h
    refine (known_ofList l).ext (known_ofList m) fun o => ?_
    rw [contains_ofList, contains_ofList, h o]

theorem ofList_append (l m : List Operation) : ofList (l ++ m) = ofList l ∪ ofList m := by
  refine (known_ofList _).ext ((known_ofList l).union (known_ofList m)) fun o => ?_
  rw [contains_ofList, List.mem_append, contains_union, Bool.or_eq_true, contains_ofList,
    contains_ofList]

theorem ofList_difference (l m : List Operation) :
    ofList l \ ofList m = ofList (l.filter (· ∉ m)) := by
  refine ((known_ofList l).difference _).ext (known_ofList _) fun o => ?_
  rw [contains_ofList, List.mem_filter, contains_difference, Bool.and_eq_true, contains_ofList,
    Bool.not_eq_true', decide_eq_true_eq, ← contains_ofList (l := m), Bool.not_eq_true]

theorem operations_ofList (l : List Operation) :
    (ofList l).operations = Operation.all.filter (· ∈ l) := by
  refine List.filter_congr fun o _ => ?_
  rw [Bool.eq_iff_iff, contains_ofList, decide_eq_true_eq]

/-- What a set shows of the list that it was made from: the operations that occur in the list, in
their order. -/
structure Shows (s : OperationSet) (l : List Operation) : Prop where
  known : s.Known
  contains_iff : ∀ o, s.contains o = true ↔ o ∈ l
  operations_eq : s.operations = Operation.all.filter (· ∈ l)
  increasing : s.operations.Pairwise fun a b => a.rank < b.rank
  ofList_operations : ofList s.operations = s
  display_eq : s.display =
    "[" ++ ", ".intercalate ((Operation.all.filter (· ∈ l)).map Operation.name) ++ "]"

theorem shows_ofList (l : List Operation) : (ofList l).Shows l where
  known := known_ofList l
  contains_iff _ := contains_ofList
  operations_eq := operations_ofList l
  increasing := pairwise_operations _
  ofList_operations := ofList_operations (known_ofList l)
  display_eq := by rw [display, Text.join_eq_intercalate, operations_ofList]

/-- **Sets of lists.** The set of a list shows the operations that occur in the list. Joining them
one by one, or inserting them one by one, gives this set, in whatever order they come. The set of
two lists together is the union, and the difference shows the operations that occur in the first
list and not in the second. -/
theorem made_from_list (l m : List Operation) :
    (ofList l).Shows l ∧
    (∀ l' : List Operation, l'.Perm l → ofList l' = ofList l ∧
      l'.foldl (fun s o => s ∪ single o) ∅ = ofList l ∧ l'.foldl insert ∅ = ofList l) ∧
    ofList (l ++ m) = ofList l ∪ ofList m ∧
    (ofList l \ ofList m).Shows (l.filter (· ∉ m)) ∧
    ∀ o, (ofList l \ ofList m).contains o = true ↔ o ∈ l ∧ o ∉ m := by
  have hdifference : (ofList l \ ofList m).Shows (l.filter (· ∉ m)) := by
    rw [ofList_difference]
    exact shows_ofList _
  refine ⟨shows_ofList l, fun l' h => ?_, ofList_append l m, hdifference, fun o => ?_⟩
  · have heq : ofList l' = ofList l := ofList_eq_iff.2 fun _ => h.mem_iff
    exact ⟨heq, heq, heq⟩
  · rw [hdifference.contains_iff, List.mem_filter, decide_eq_true_eq]

/-- A list with a repetition, in another order. -/
theorem made_from_list_of_repetition :
    let l : List Operation := [.update, .create, .update]
    let m : List Operation := [.delete, .update]
    [.update, .update, .create].Perm l ∧ [.update, .update, .create].foldl insert ∅ = ofList l ∧
      (ofList l).operations = [.create, .update] ∧
      (ofList l \ ofList m).operations = [.create] := by
  intro l m
  obtain ⟨hl, hperm, -, hdifference, -⟩ := made_from_list l m
  have hmoved : [Operation.update, .update, .create].Perm l := by decide
  exact ⟨hmoved, (hperm _ hmoved).2.2, hl.operations_eq.trans (by decide),
    hdifference.operations_eq.trans (by decide)⟩

end IdentityStore.OperationSet
