/-!
# Keyed lists

A keyed list is a list of pairs of a name and a value. It keeps the order in which its names were
first written, and a later value of a name takes the place of the earlier one.

* `get?_put`, `ofList_concat`: the last value written under a name is the one found.
* `get?_filter`, `get?_ofList_append`, `get?_map`, `get?_sorted`: what is found under a name after
  some names are left out, after others are written, after a conversion, and after sorting.
* `sorted_perm`, `pairwise_sorted`: sorting rearranges the pairs and puts the names in order, which
  is the order of their UTF-8 bytes.
-/

namespace IdentityStore.Keyed

variable {α β : Type}

def names (l : List (String × α)) : List String := l.map (·.1)

def get? (l : List (String × α)) (name : String) : Option α := l.lookup name

/-- Writes a value under a name: in the place of the value that is there, else at the end. -/
def put (l : List (String × α)) (name : String) (value : α) : List (String × α) :=
  match l with
  | [] => [(name, value)]
  | (n, v) :: rest => if n = name then (name, value) :: rest else (n, v) :: put rest name value

/-- The keyed list that a list of pairs writes, one after the other. -/
def ofList (pairs : List (String × α)) : List (String × α) :=
  pairs.foldl (fun l p => put l p.1 p.2) []

/-- Puts a pair in front of the first pair whose name is not smaller. -/
def insertSorted (p : String × α) : List (String × α) → List (String × α)
  | [] => [p]
  | q :: rest => if p.1 ≤ q.1 then p :: q :: rest else q :: insertSorted p rest

def sorted (l : List (String × α)) : List (String × α) := l.foldr insertSorted []

/-! ## The value under a name -/

@[simp] theorem get?_nil (name : String) : get? ([] : List (String × α)) name = none := rfl

theorem get?_cons (n : String) (v : α) (rest : List (String × α)) (name : String) :
    get? ((n, v) :: rest) name = if n = name then some v else get? rest name := by
  unfold get?
  rw [List.lookup_cons]
  by_cases h : n = name
  · subst h; simp
  · have : (name == n) = false := by simpa using fun e => h e.symm
    simp [this, h]

/-- **The value written last is found,** and every other name keeps its value. -/
theorem get?_put (l : List (String × α)) (name : String) (value : α) (other : String) :
    get? (put l name value) other = if name = other then some value else get? l other := by
  induction l with
  | nil => simp [put, get?_cons]
  | cons p rest ih =>
    obtain ⟨n, v⟩ := p
    unfold put
    by_cases h : n = name
    · subst h
      by_cases ho : n = other <;> simp [get?_cons, ho]
    · by_cases ho : n = other
      · subst ho
        simp [get?_cons, h, Ne.symm h]
      · simp [get?_cons, h, ho, ih]

theorem ofList_concat (pairs : List (String × α)) (name : String) (value : α) :
    ofList (pairs ++ [(name, value)]) = put (ofList pairs) name value := by
  simp [ofList]

theorem get?_filter (keep : String → Bool) (l : List (String × α)) (name : String) :
    get? (l.filter fun p => keep p.1) name = if keep name then get? l name else none := by
  induction l with
  | nil => simp
  | cons p rest ih =>
    obtain ⟨n, v⟩ := p
    by_cases hn : n = name
    · subst hn
      cases hk : keep n <;> simp [hk, ih, get?_cons]
    · cases hk : keep n <;> simp [hk, ih, get?_cons, hn]

theorem get?_ofList_append (pairs : List (String × α)) {more : List (String × α)} {name : String}
    (h : name ∉ names more) : get? (ofList (pairs ++ more)) name = get? (ofList pairs) name := by
  induction more generalizing pairs with
  | nil => rw [List.append_nil]
  | cons p rest ih =>
    obtain ⟨hp, hrest⟩ := not_or.1 (mt List.mem_cons.2 h)
    rw [List.append_cons, ih _ hrest, ofList_concat, get?_put, if_neg (Ne.symm hp)]

theorem get?_map (f : α → β) (l : List (String × α)) (name : String) :
    get? (l.map fun p => (p.1, f p.2)) name = (get? l name).map f := by
  induction l with
  | nil => rfl
  | cons p rest ih =>
    rw [List.map_cons, get?_cons, get?_cons, ih]
    split <;> rfl

theorem names_map (f : α → β) (l : List (String × α)) :
    names (l.map fun p => (p.1, f p.2)) = names l :=
  List.map_map

theorem mem_of_get? {l : List (String × α)} {name : String} {value : α}
    (h : get? l name = some value) : (name, value) ∈ l := by
  obtain ⟨before, after, rfl, -⟩ := List.lookup_eq_some_iff.1 h
  exact List.mem_append_right before List.mem_cons_self

theorem mem_names_iff {l : List (String × α)} {name : String} :
    name ∈ names l ↔ ∃ value, get? l name = some value := by
  rw [← Option.isSome_iff_exists, get?, List.lookup_isSome_iff, names, List.mem_map]
  exact exists_congr fun p => and_congr_right fun _ => by rw [beq_iff_eq, eq_comm]

theorem put_map (f : α → β) (l : List (String × α)) (name : String) (value : α) :
    put (l.map fun p => (p.1, f p.2)) name (f value) =
      (put l name value).map fun p => (p.1, f p.2) := by
  induction l with
  | nil => rfl
  | cons p rest ih =>
    rw [List.map_cons, put, put, ih]
    split <;> rfl

/-! ## Distinct names -/

def Distinct (l : List (String × α)) : Prop := (names l).Nodup

instance (l : List (String × α)) : Decidable (Distinct l) :=
  inferInstanceAs (Decidable (List.Nodup _))

theorem mem_names_put {l : List (String × α)} {name : String} {value : α} {other : String} :
    other ∈ names (put l name value) ↔ other = name ∨ other ∈ names l := by
  induction l with
  | nil => simp [put, names]
  | cons p rest ih =>
    obtain ⟨n, v⟩ := p
    unfold put
    by_cases h : n = name
    · subst h; simp [names]
    · simp only [names, h, if_false, List.map_cons, List.mem_cons] at ih ⊢
      rw [ih]
      exact or_left_comm

theorem distinct_put {l : List (String × α)} (h : Distinct l) (name : String) (value : α) :
    Distinct (put l name value) := by
  induction l with
  | nil => simp [Distinct, put, names]
  | cons p rest ih =>
    obtain ⟨n, v⟩ := p
    have hn : n ∉ names rest := (List.nodup_cons.1 h).1
    have hr : Distinct rest := (List.nodup_cons.1 h).2
    unfold put
    by_cases e : n = name
    · subst e
      simpa [Distinct, names] using h
    · simp only [e, if_false]
      refine List.nodup_cons.2 ⟨?_, ih hr⟩
      intro hm
      rcases mem_names_put.1 hm with e' | hm
      · exact e e'
      · exact hn hm

/-- **What a list of pairs writes has distinct names.** -/
theorem distinct_ofList (pairs : List (String × α)) : Distinct (ofList pairs) := by
  unfold ofList
  have step : ∀ (ps l : List (String × α)), Distinct l →
      Distinct (ps.foldl (fun l p => put l p.1 p.2) l) := by
    intro ps
    induction ps with
    | nil => exact fun l h => h
    | cons p rest ih => exact fun l h => ih _ (distinct_put h _ _)
  exact step pairs [] List.nodup_nil

theorem put_of_not_mem {l : List (String × α)} {name : String} (h : name ∉ names l) (value : α) :
    put l name value = l ++ [(name, value)] := by
  induction l with
  | nil => rfl
  | cons p rest ih =>
    obtain ⟨n, v⟩ := p
    obtain ⟨hn, hrest⟩ := not_or.1 (mt List.mem_cons.2 h)
    rw [put, if_neg (Ne.symm hn), ih hrest, List.cons_append]

/-- **Pairs with distinct names** are written as they are. -/
theorem ofList_of_distinct {l : List (String × α)} (h : Distinct l) : ofList l = l := by
  have step : ∀ ps done : List (String × α), (names (done ++ ps)).Nodup →
      ps.foldl (fun l p => put l p.1 p.2) done = done ++ ps := by
    intro ps
    induction ps with
    | nil => exact fun done _ => (List.append_nil done).symm
    | cons p rest ih =>
      intro done hd
      have hp : p.1 ∉ names done := by
        intro hm
        rw [names, List.map_append, List.map_cons, List.nodup_append] at hd
        exact hd.2.2 p.1 hm p.1 List.mem_cons_self rfl
      rw [List.foldl_cons, put_of_not_mem hp, ih _ (by simpa using hd), List.append_assoc,
        List.singleton_append]
  exact step l [] h

theorem get?_eq_some_iff {l : List (String × α)} (h : Distinct l) {name : String} {value : α} :
    get? l name = some value ↔ (name, value) ∈ l := by
  induction l with
  | nil => simp
  | cons p rest ih =>
    obtain ⟨n, v⟩ := p
    obtain ⟨hn, hrest⟩ := List.nodup_cons.1 h
    rw [get?_cons, List.mem_cons]
    by_cases e : n = name
    · subst e
      have hmem : (n, value) ∉ rest := fun hm => hn (List.mem_map.2 ⟨_, hm, rfl⟩)
      simp [hmem, eq_comm]
    · simp [e, Ne.symm e, ih hrest]

/-! ## Sorting -/

private theorem insertSorted_perm (p : String × α) (l : List (String × α)) :
    (insertSorted p l).Perm (p :: l) := by
  induction l with
  | nil => exact .refl _
  | cons q rest ih =>
    unfold insertSorted
    split
    · exact .refl _
    · exact (ih.cons q).trans (.swap p q rest)

theorem sorted_perm (l : List (String × α)) : (sorted l).Perm l := by
  induction l with
  | nil => exact .refl _
  | cons p rest ih => exact (insertSorted_perm p (sorted rest)).trans (ih.cons p)

theorem names_sorted_perm (l : List (String × α)) : (names (sorted l)).Perm (names l) :=
  (sorted_perm l).map Prod.fst

theorem distinct_sorted {l : List (String × α)} (h : Distinct l) : Distinct (sorted l) :=
  (names_sorted_perm l).nodup_iff.2 h

private theorem pairwise_insertSorted (p : String × α) {l : List (String × α)}
    (h : l.Pairwise fun a b => a.1 ≤ b.1) :
    (insertSorted p l).Pairwise fun a b => a.1 ≤ b.1 := by
  induction l with
  | nil => simp [insertSorted]
  | cons q rest ih =>
    obtain ⟨hq, hr⟩ := List.pairwise_cons.1 h
    unfold insertSorted
    split
    · next hpq =>
      refine List.pairwise_cons.2 ⟨?_, h⟩
      intro a ha
      rcases List.mem_cons.1 ha with rfl | ha
      · exact hpq
      · exact String.le_trans hpq (hq a ha)
    · next hpq =>
      refine List.pairwise_cons.2 ⟨?_, ih hr⟩
      intro a ha
      rcases List.mem_cons.1 ((insertSorted_perm p rest).mem_iff.1 ha) with rfl | ha
      · exact (String.le_total _ _).resolve_left hpq
      · exact hq a ha

/-- **Sorting puts the names in order.** -/
theorem pairwise_sorted (l : List (String × α)) :
    (sorted l).Pairwise fun a b => a.1 ≤ b.1 := by
  induction l with
  | nil => exact .nil
  | cons p rest ih => exact pairwise_insertSorted p ih

theorem pairwise_lt_sorted {l : List (String × α)} (h : Distinct l) :
    (sorted l).Pairwise fun a b => a.1 < b.1 := by
  refine ((pairwise_sorted l).and (List.pairwise_map.1 (distinct_sorted h))).imp fun hab => ?_
  exact String.not_le.1 fun hba => hab.2 (String.le_antisymm hab.1 hba)

/-- **Sorting forgets the order** of the pairs: what counts is which names there are, and which value
each of them has. -/
theorem sorted_eq_of_names {l m : List (String × α)} (hnames : (names l).Perm (names m))
    (hvalues : ∀ p ∈ l, ∀ q ∈ m, p.1 = q.1 → p.2 = q.2) : sorted l = sorted m := by
  have hperm : (names (sorted l)).Perm (names (sorted m)) :=
    (names_sorted_perm l).trans (hnames.trans (names_sorted_perm m).symm)
  have heq : names (sorted l) = names (sorted m) :=
    hperm.eq_of_pairwise (fun _ _ _ _ => String.le_antisymm)
      (List.pairwise_map.2 (pairwise_sorted l)) (List.pairwise_map.2 (pairwise_sorted m))
  have hlength : (sorted l).length = (sorted m).length := by
    simpa only [names, List.length_map] using congrArg List.length heq
  -- at each place stands the same name, so it has the same value
  refine List.ext_getElem hlength fun i hi hj => ?_
  have hname : (sorted l)[i].1 = (sorted m)[i].1 := by
    simpa only [names, List.getElem?_map, List.getElem?_eq_getElem hi, List.getElem?_eq_getElem hj,
      Option.map_some, Option.some.injEq] using congrArg (fun names => names[i]?) heq
  refine Prod.ext hname (hvalues _ ?_ _ ?_ hname)
  · exact (sorted_perm l).mem_iff.1 (List.getElem_mem hi)
  · exact (sorted_perm m).mem_iff.1 (List.getElem_mem hj)

theorem get?_sorted {l : List (String × α)} (h : Distinct l) (name : String) :
    get? (sorted l) name = get? l name := by
  refine Option.ext fun value => ?_
  rw [get?_eq_some_iff (distinct_sorted h), get?_eq_some_iff h, (sorted_perm l).mem_iff]

theorem sorted_of_pairwise {l : List (String × α)} (h : l.Pairwise fun a b => a.1 ≤ b.1) :
    sorted l = l := by
  induction l with
  | nil => rfl
  | cons p rest ih =>
    obtain ⟨hp, hrest⟩ := List.pairwise_cons.1 h
    rw [sorted, List.foldr_cons, ← sorted, ih hrest]
    cases rest with
    | nil => rfl
    | cons q rest => rw [insertSorted, if_pos (hp q List.mem_cons_self)]

private theorem insertSorted_map (f : α → β) (p : String × α) (l : List (String × α)) :
    insertSorted (p.1, f p.2) (l.map fun q => (q.1, f q.2)) =
      (insertSorted p l).map fun q => (q.1, f q.2) := by
  induction l with
  | nil => rfl
  | cons q rest ih =>
    simp only [List.map_cons, insertSorted]
    split
    · rfl
    · rw [ih, List.map_cons]

/-- **Sorting looks at the names alone:** values are converted before it or after it. -/
theorem sorted_map (f : α → β) (l : List (String × α)) :
    sorted (l.map fun p => (p.1, f p.2)) = (sorted l).map fun p => (p.1, f p.2) := by
  induction l with
  | nil => rfl
  | cons p rest ih =>
    rw [List.map_cons, sorted, List.foldr_cons, ← sorted, ih, insertSorted_map]
    rfl

end IdentityStore.Keyed
