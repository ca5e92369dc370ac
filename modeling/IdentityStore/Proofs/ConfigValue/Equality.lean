import IdentityStore.ConfigValue.Equality
import Mathlib.Data.List.Perm.Subperm

/-!
# Equality of configuration values is a partial equivalence

Equality of configuration values fails to be an equivalence only where a NaN occurs. Maps are
compared by their sizes and by what the names of the one give in the other. That this is symmetric
and transitive is read off the relation that it decides.

* **Alike values** (`Alike`): the same shape and the same leaves, doubles up to a relation and maps
  up to their order. `Alike.symm`, `Alike.trans`, `alike_self_iff`: it is as symmetric, transitive
  and reflexive as the relation of the doubles.
* `equal_iff_alike`: equality of values decides whether they are alike up to equality of doubles.
* `equal_iff`: two values are equal when they hold no NaN and are alike up to the sign of zeros.
* **Mismatches** (`Mismatched`): values of different variants at some place are never equal.
* `equal_partial_equivalence`: the law.
-/

namespace IdentityStore.ConfigValue

variable {R S : Binary64 → Binary64 → Prop} {a b c : ConfigValue}

/-! ## Alike values -/

/-- Two values have the same shape and the same leaves throughout, doubles up to a relation. At any
depth, lists agree item by item and maps name by name, in whatever order the names stand. -/
inductive Alike (R : Binary64 → Binary64 → Prop) : ConfigValue → ConfigValue → Prop where
  | null : Alike R .null .null
  | bool (b : Bool) : Alike R (.bool b) (.bool b)
  | integer (i : Int64) : Alike R (.integer i) (.integer i)
  | float {x y : Binary64} (related : R x y) : Alike R (.float x) (.float y)
  | string (s : String) : Alike R (.string s) (.string s)
  /-- The lists have the same length, and at each place the items agree. -/
  | array {items others : List ConfigValue} (length : items.length = others.length)
      (each : ∀ (i : Nat) v w, items[i]? = some v → others[i]? = some w → Alike R v w) :
      Alike R (.array items) (.array others)
  /-- The maps have the same names, and under each name the values agree. -/
  | map {entries others : List (String × ConfigValue)}
      (names : ∀ n, n ∈ Keyed.names entries ↔ n ∈ Keyed.names others)
      (each : ∀ n v w, Keyed.get? entries n = some v → Keyed.get? others n = some w → Alike R v w) :
      Alike R (.map entries) (.map others)

namespace Alike

protected theorem symm (hR : ∀ x y, R x y → R y x) (h : Alike R a b) : Alike R b a := by
  induction h with
  | null => exact .null
  | bool b => exact .bool b
  | integer i => exact .integer i
  | float related => exact .float (hR _ _ related)
  | string s => exact .string s
  | array length each ih => exact .array length.symm fun i v w hv hw => ih i w v hw hv
  | map names each ih =>
    exact .map (fun n => (names n).symm) fun n v w hv hw => ih n w v hw hv

protected theorem trans (hR : ∀ x y z, R x y → R y z → R x z) (h : Alike R a b)
    (h' : Alike R b c) : Alike R a c := by
  induction h generalizing c with
  | null => exact h'
  | bool b => exact h'
  | integer i => exact h'
  | float related =>
    cases h' with
    | float related' => exact .float (hR _ _ _ related related')
  | string s => exact h'
  | array length each ih =>
    cases h' with
    | array length' each' =>
      refine .array (length.trans length') fun i v w hv hw => ?_
      -- the list in the middle has an item at every place of the other two
      obtain ⟨hi, -⟩ := List.getElem?_eq_some_iff.1 hv
      have hu := List.getElem?_eq_getElem (length ▸ hi)
      exact ih i v _ hv hu (each' i _ w hu hw)
  | map names each ih =>
    cases h' with
    | map names' each' =>
      refine .map (fun n => (names n).trans (names' n)) fun n v w hv hw => ?_
      obtain ⟨u, hu⟩ := Keyed.mem_names_iff.1 ((names n).1 (Keyed.mem_names_iff.2 ⟨v, hv⟩))
      exact ih n v u hv hu (each' n u w hu hw)

/-- Only the doubles that occur in the first value count. -/
protected theorem imp (hRS : ∀ x y, a.HoldsFloat x → R x y → S x y) (h : Alike R a b) :
    Alike S a b := by
  induction h with
  | null => exact .null
  | bool b => exact .bool b
  | integer i => exact .integer i
  | float related => exact .float (hRS _ _ .float related)
  | string s => exact .string s
  | array length each ih =>
    refine .array length fun i v w hv hw => ih i v w hv hw fun x y hx => ?_
    exact hRS x y (.item (List.mem_of_getElem? hv) hx)
  | map names each ih =>
    refine .map names fun n v w hv hw => ih n v w hv hw fun x y hx => ?_
    exact hRS x y (.entry (Keyed.mem_of_get? hv) hx)

end Alike

/-- **A value is alike to itself** when the doubles in it are related to themselves. -/
theorem alike_self_iff (h : a.WellFormed) : Alike R a a ↔ ∀ x, a.HoldsFloat x → R x x := by
  constructor
  · intro hself x hx
    induction hx with
    | float =>
      cases hself with
      | float related => exact related
    | item mem holds ih =>
      cases h with
      | array wellFormed =>
      cases hself with
      | array length each =>
        obtain ⟨i, hi⟩ := List.getElem?_of_mem mem
        exact ih (wellFormed _ mem) (each i _ _ hi hi)
    | entry mem holds ih =>
      cases h with
      | map distinct wellFormed =>
      cases hself with
      | map names each =>
        have hfound := (Keyed.get?_eq_some_iff distinct).2 mem
        exact ih (wellFormed _ mem) (each _ _ _ hfound hfound)
  · intro hR
    induction h with
    | null => exact .null
    | bool b => exact .bool b
    | integer i => exact .integer i
    | float x => exact .float (hR x .float)
    | string s => exact .string s
    | array wellFormed ih =>
      refine .array rfl fun i v w hv hw => ?_
      obtain rfl := Option.some.inj (hv.symm.trans hw)
      have hmem := List.mem_of_getElem? hv
      exact ih v hmem fun x hx => hR x (.item hmem hx)
    | map distinct wellFormed ih =>
      refine .map (fun n => .rfl) fun n v w hv hw => ?_
      obtain rfl := Option.some.inj (hv.symm.trans hw)
      have hmem := Keyed.mem_of_get? hv
      exact ih _ hmem fun x hx => hR x (.entry hmem hx)

/-! ## What equality decides -/

theorem equalItems_iff {items others : List ConfigValue} :
    equalItems items others ↔ items.length = others.length ∧
      ∀ (i : Nat) v w, items[i]? = some v → others[i]? = some w → v.equal w := by
  induction items generalizing others with
  | nil => cases others <;> simp [equalItems]
  | cons v items ih =>
    cases others with
    | nil => simp [equalItems]
    | cons w others =>
      rw [equalItems, Bool.and_eq_true, ih]
      constructor
      · rintro ⟨hv, hlength, heach⟩
        refine ⟨congrArg (· + 1) hlength, fun i => ?_⟩
        cases i with
        | zero =>
          rintro _ _ ⟨⟩ ⟨⟩
          exact hv
        | succ i => exact heach i
      · rintro ⟨hlength, heach⟩
        exact ⟨heach 0 v w rfl rfl, Nat.succ.inj hlength, fun i => heach (i + 1)⟩

theorem equalEntries_iff {entries others : List (String × ConfigValue)} :
    equalEntries entries others ↔
      ∀ p ∈ entries, ∃ w, Keyed.get? others p.1 = some w ∧ p.2.equal w := by
  induction entries with
  | nil => simp [equalEntries]
  | cons p rest ih =>
    obtain ⟨n, v⟩ := p
    rw [equalEntries, Bool.and_eq_true, ih, List.forall_mem_cons]
    refine and_congr_left fun _ => ?_
    cases Keyed.get? others n <;> simp

/-- **Maps are equal** when they have the same names and equal values under them. The sizes and one
direction of the lookups suffice, because no name occurs twice. -/
theorem equal_map_iff {entries others : List (String × ConfigValue)}
    (h : Keyed.Distinct entries) (h' : Keyed.Distinct others) :
    (map entries).equal (map others) ↔
      (∀ n, n ∈ Keyed.names entries ↔ n ∈ Keyed.names others) ∧
        ∀ n v w, Keyed.get? entries n = some v → Keyed.get? others n = some w → v.equal w := by
  have hlengths : entries.length = others.length ↔
      (Keyed.names entries).length = (Keyed.names others).length := by
    rw [Keyed.names, Keyed.names, List.length_map, List.length_map]
  rw [equal, Bool.and_eq_true, beq_iff_eq, equalEntries_iff, hlengths]
  constructor
  · rintro ⟨hlength, hfound⟩
    have hsubset : Keyed.names entries ⊆ Keyed.names others := by
      intro n hn
      obtain ⟨v, hv⟩ := Keyed.mem_names_iff.1 hn
      obtain ⟨w, hw, -⟩ := hfound _ (Keyed.mem_of_get? hv)
      exact Keyed.mem_names_iff.2 ⟨w, hw⟩
    have hperm : (Keyed.names entries).Perm (Keyed.names others) :=
      (List.subperm_of_subset h hsubset).perm_of_length_le (Nat.le_of_eq hlength.symm)
    refine ⟨fun n => hperm.mem_iff, fun n v w hv hw => ?_⟩
    obtain ⟨u, hu, hequal⟩ := hfound _ (Keyed.mem_of_get? hv)
    obtain rfl := Option.some.inj (hu.symm.trans hw)
    exact hequal
  · rintro ⟨hnames, heach⟩
    refine ⟨((List.perm_ext_iff_of_nodup h h').2 hnames).length_eq, fun p hp => ?_⟩
    have hv := (Keyed.get?_eq_some_iff h).2 hp
    obtain ⟨w, hw⟩ := Keyed.mem_names_iff.1 ((hnames p.1).1 (Keyed.mem_names_iff.2 ⟨_, hv⟩))
    exact ⟨w, hw, heach _ _ _ hv hw⟩

theorem alike_of_equal (ha : a.WellFormed) (hb : b.WellFormed) (h : a.equal b) :
    Alike (fun x y => x.equal y) a b := by
  induction ha generalizing b with
  | null =>
    cases hb with
    | null => exact .null
    | _ => cases h
  | bool x =>
    cases hb with
    | bool y =>
      obtain rfl := beq_iff_eq.1 h
      exact .bool x
    | _ => cases h
  | integer i =>
    cases hb with
    | integer j =>
      obtain rfl := beq_iff_eq.1 h
      exact .integer i
    | _ => cases h
  | float x =>
    cases hb with
    | float y => exact .float h
    | _ => cases h
  | string s =>
    cases hb with
    | string t =>
      obtain rfl := beq_iff_eq.1 h
      exact .string s
    | _ => cases h
  | array wellFormed ih =>
    cases hb with
    | array wellFormed' =>
      obtain ⟨hlength, heach⟩ := equalItems_iff.1 h
      exact .array hlength fun i v w hv hw => ih v (List.mem_of_getElem? hv)
        (wellFormed' w (List.mem_of_getElem? hw)) (heach i v w hv hw)
    | _ => cases h
  | map distinct wellFormed ih =>
    cases hb with
    | map distinct' wellFormed' =>
      obtain ⟨hnames, heach⟩ := (equal_map_iff distinct distinct').1 h
      exact .map hnames fun n v w hv hw => ih _ (Keyed.mem_of_get? hv)
        (wellFormed' _ (Keyed.mem_of_get? hw)) (heach n v w hv hw)
    | _ => cases h

theorem equal_of_alike (ha : a.WellFormed) (hb : b.WellFormed)
    (h : Alike (fun x y => x.equal y) a b) : a.equal b := by
  induction h with
  | null => rfl
  | bool x => exact beq_iff_eq.2 rfl
  | integer i => exact beq_iff_eq.2 rfl
  | float related => exact related
  | string s => exact beq_iff_eq.2 rfl
  | array length each ih =>
    cases ha with
    | array wellFormed =>
    cases hb with
    | array wellFormed' =>
      refine equalItems_iff.2 ⟨length, fun i v w hv hw => ih i v w hv hw ?_ ?_⟩
      · exact wellFormed v (List.mem_of_getElem? hv)
      · exact wellFormed' w (List.mem_of_getElem? hw)
  | map names each ih =>
    cases ha with
    | map distinct wellFormed =>
    cases hb with
    | map distinct' wellFormed' =>
      refine (equal_map_iff distinct distinct').2 ⟨names, fun n v w hv hw => ih n v w hv hw ?_ ?_⟩
      · exact wellFormed _ (Keyed.mem_of_get? hv)
      · exact wellFormed' _ (Keyed.mem_of_get? hw)

/-- **Equality decides** whether two values are alike, up to equality of doubles. -/
theorem equal_iff_alike (ha : a.WellFormed) (hb : b.WellFormed) :
    a.equal b ↔ Alike (fun x y => x.equal y) a b :=
  ⟨alike_of_equal ha hb, equal_of_alike ha hb⟩

/-! ## NaNs and zeros -/

/-- No NaN occurs in the value, at any depth. -/
def NanFree (v : ConfigValue) : Prop := ∀ x, v.HoldsFloat x → x.isNaN = false

/-- Two doubles are the same up to the sign of a zero. -/
def SameOrZeros (x y : Binary64) : Prop := x = y ∨ x.isZero ∧ y.isZero

theorem float_equal_iff {x y : Binary64} :
    x.equal y ↔ x.isNaN = false ∧ SameOrZeros x y := by
  have hzero : ∀ z : Binary64, z.isZero → z.isNaN = false := by
    intro z hz
    rw [Binary64.isNaN, beq_iff_eq.1 hz]
    rfl
  simp only [Binary64.equal, SameOrZeros, Bool.and_eq_true, Bool.not_eq_true', Bool.or_eq_true,
    beq_iff_eq]
  constructor
  · rintro ⟨⟨hx, -⟩, hsame⟩
    exact ⟨hx, hsame⟩
  · rintro ⟨hx, rfl | hzeros⟩
    · exact ⟨⟨hx, hx⟩, .inl rfl⟩
    · exact ⟨⟨hx, hzero y hzeros.2⟩, .inr hzeros⟩

theorem equal_self_iff (h : a.WellFormed) : a.equal a ↔ a.NanFree := by
  rw [equal_iff_alike h h, alike_self_iff h]
  exact forall₂_congr fun x _ => x.equal_self_iff

theorem equal_symm (ha : a.WellFormed) (hb : b.WellFormed) (h : a.equal b) : b.equal a := by
  rw [equal_iff_alike ha hb] at h
  exact (equal_iff_alike hb ha).2 (h.symm fun x y => Binary64.equal_symm)

theorem equal_trans (ha : a.WellFormed) (hb : b.WellFormed) (hc : c.WellFormed) (h : a.equal b)
    (h' : b.equal c) : a.equal c := by
  rw [equal_iff_alike ha hb] at h
  rw [equal_iff_alike hb hc] at h'
  exact (equal_iff_alike ha hc).2 (h.trans (fun x y z => Binary64.equal_trans) h')

/-- **What equality means:** no NaN occurs, and the values are alike up to the sign of zeros. -/
theorem equal_iff (ha : a.WellFormed) (hb : b.WellFormed) :
    a.equal b ↔ a.NanFree ∧ Alike SameOrZeros a b := by
  constructor
  · intro h
    refine ⟨(equal_self_iff ha).1 (equal_trans ha hb ha h (equal_symm ha hb h)), ?_⟩
    exact (alike_of_equal ha hb h).imp fun x y _ hxy => (float_equal_iff.1 hxy).2
  · rintro ⟨hfree, halike⟩
    exact equal_of_alike ha hb (halike.imp fun x y hx hxy => float_equal_iff.2 ⟨hfree x hx, hxy⟩)

/-! ## Mismatches -/

/-- At some place, two values have parts of different variants. -/
inductive Mismatched : ConfigValue → ConfigValue → Prop where
  | here {a b : ConfigValue} (variants : a.ctorIdx ≠ b.ctorIdx) : Mismatched a b
  | item {items others : List ConfigValue} {i : Nat} {v w : ConfigValue}
      (first : items[i]? = some v) (second : others[i]? = some w) (parts : Mismatched v w) :
      Mismatched (.array items) (.array others)
  | entry {entries others : List (String × ConfigValue)} {n : String} {v w : ConfigValue}
      (first : Keyed.get? entries n = some v) (second : Keyed.get? others n = some w)
      (parts : Mismatched v w) : Mismatched (.map entries) (.map others)

theorem Mismatched.not_alike (h : Mismatched a b) : ¬ Alike R a b := by
  induction h with
  | here variants =>
    intro halike
    cases halike <;> exact variants rfl
  | item first second parts ih =>
    rintro (_ | _ | _ | _ | _ | ⟨-, each⟩)
    exact ih (each _ _ _ first second)
  | entry first second parts ih =>
    rintro (_ | _ | _ | _ | _ | _ | ⟨-, each⟩)
    exact ih (each _ _ _ first second)

/-- **Mismatched values are never equal.** -/
theorem equal_of_mismatched (ha : a.WellFormed) (hb : b.WellFormed) (h : Mismatched a b) :
    a.equal b = false :=
  Bool.eq_false_iff.2 fun hequal => h.not_alike (alike_of_equal ha hb hequal)

/-- **Equality of configuration values is a partial equivalence that fails only on NaN.** It is
symmetric and transitive, and a value equals itself exactly when no NaN occurs in it. Values are
equal exactly when no NaN occurs and they are the same up to the order of maps and the sign of
zeros. Values that have parts of different variants at some place are never equal, and so an integer
never equals a double. -/
theorem equal_partial_equivalence (ha : a.WellFormed) (hb : b.WellFormed) (hc : c.WellFormed) :
    (a.equal b → b.equal a) ∧ (a.equal b → b.equal c → a.equal c) ∧ (a.equal a ↔ a.NanFree) ∧
      (a.equal b ↔ a.NanFree ∧ Alike SameOrZeros a b) ∧
      (Mismatched a b → a.equal b = false) ∧
      ∀ i x, (integer i).equal (float x) = false ∧ (float x).equal (integer i) = false :=
  ⟨equal_symm ha hb, equal_trans ha hb hc, equal_self_iff ha, equal_iff ha hb,
    equal_of_mismatched ha hb, fun _ _ => ⟨rfl, rfl⟩⟩

/-- Two maps in different orders with zeros of different signs, and a third one that has an integer
for a double. -/
theorem equal_of_reordered_zeros :
    let zero : ConfigValue := .float .zero
    let negative : ConfigValue := .float ⟨0x8000000000000000⟩
    let a : ConfigValue := .map [("x", zero), ("y", .array [.integer 1, .null])]
    let b : ConfigValue := .map [("y", .array [.integer 1, .null]), ("x", negative)]
    let c : ConfigValue := .map [("x", .integer 0), ("y", .array [.integer 1, .null])]
    a.WellFormed ∧ b.WellFormed ∧ c.WellFormed ∧ a.equal b ∧ b.equal a ∧ Mismatched a c ∧
      a.equal c = false := by
  intro zero negative a b c
  have hitems : (ConfigValue.array [.integer 1, .null]).WellFormed :=
    .array (List.forall_mem_cons.2 ⟨.integer _, List.forall_mem_singleton.2 .null⟩)
  have ha : a.WellFormed :=
    .map (by decide) (List.forall_mem_cons.2 ⟨.float _, List.forall_mem_singleton.2 hitems⟩)
  have hb : b.WellFormed :=
    .map (by decide) (List.forall_mem_cons.2 ⟨hitems, List.forall_mem_singleton.2 (.float _)⟩)
  have hc : c.WellFormed :=
    .map (by decide) (List.forall_mem_cons.2 ⟨.integer _, List.forall_mem_singleton.2 hitems⟩)
  have hmismatched : Mismatched a c :=
    .entry (n := "x") rfl rfl (.here (a := zero) (b := .integer 0) nofun)
  have hequal : a.equal b := by decide
  exact ⟨ha, hb, hc, hequal, (equal_partial_equivalence ha hb hc).1 hequal, hmismatched,
    (equal_partial_equivalence ha hc hb).2.2.2.2.1 hmismatched⟩

end IdentityStore.ConfigValue
