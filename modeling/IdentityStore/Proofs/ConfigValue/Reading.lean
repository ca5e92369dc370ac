import IdentityStore.ConfigValue.Json

/-!
# The two ways to read configuration values

A configuration value is read from JSON by its shape or by trial of one shape after the other. Both
ways give the same value for every JSON value, and it is the one that the JSON value denotes.

* **Numbers** (`Json.Number.cases_integer_double`): a number is an integer of 64 bits, signed or
  unsigned, or a finite double. `ofNumber_ofInt64`, `ofNumber_ofUInt64`: how the integers are read.
* **By trial** (`read?_eq`): at every position the first shape that fits is the shape of the JSON
  value.
* **Denotations** (`Denotes`): the shapes position by position. `denotes_ofJson`,
  `Denotes.eq_ofJson`: every JSON value denotes what is read from it, and nothing else.
* `decode_eq_and_denotes_iff`: the law.
-/

namespace IdentityStore

/-! ## Numbers -/

namespace Json.Number

theorem cases_integer_double (n : Number) :
    (∃ i, n = ofInt64 i) ∨ (∃ u : UInt64, 0x8000000000000000 ≤ u.toNat ∧ n = ofUInt64 u) ∨
      ∃ x finite, n = .double x finite := by
  cases n with
  | integer n inRange =>
    by_cases h : n < 0x8000000000000000
    · have hi : (Int64.ofInt n).toInt = n := Int64.toInt_ofInt_of_le inRange.1 h
      refine .inl ⟨.ofInt n, ?_⟩
      simp only [ofInt64, hi]
    · have hu : (UInt64.ofNat n.toNat).toNat = n.toNat :=
        UInt64.toNat_ofNat_of_lt' (show n.toNat < 2 ^ 64 by omega)
      refine .inr (.inl ⟨.ofNat n.toNat, by omega, ?_⟩)
      have hn : (n.toNat : Int) = n := by omega
      simp only [ofUInt64, hu, hn]
  | double x finite => exact .inr (.inr ⟨x, finite, rfl⟩)

theorem int64?_ofUInt64 {u : UInt64} (h : 0x8000000000000000 ≤ u.toNat) :
    (ofUInt64 u).int64? = none := by
  have hn : ¬ (u.toNat : Int) < 0x8000000000000000 := by omega
  rw [ofUInt64, int64?, if_neg hn]

end Json.Number

namespace ConfigValue

open Json.Number (int64?_ofInt64 int64?_ofUInt64)

@[simp] theorem ofNumber_ofInt64 (i : Int64) : ofNumber (.ofInt64 i) = .integer i := by
  rw [ofNumber, int64?_ofInt64]

theorem ofNumber_ofUInt64 {u : UInt64} (h : 0x8000000000000000 ≤ u.toNat) :
    ofNumber (.ofUInt64 u) = .float (.ofInt u.toNat) := by
  rw [ofNumber, int64?_ofUInt64 h]
  rfl

/-! ## By trial -/

/-- Numbers are tried as integers first and as doubles next. -/
theorem read?_number (n : Json.Number) : read? (.number n) = some (ofNumber n) := by
  rw [read?, ofNumber]
  · cases h : n.int64? <;> simp [readNull?, readBool?, readInteger?, readFloat?, h]
  · rintro _ ⟨⟩
  · rintro _ ⟨⟩

mutual

/-- **By trial** a JSON value is read as the value of the same shape. -/
theorem read?_eq : ∀ j : Json, read? j = some (ofJson j)
  | .null | .bool _ | .string _ => rfl
  | .number n => read?_number n
  | .array items => by
    -- no shape that is tried before the lists fits an array
    have hitems := readItems?_eq items
    simp [read?, readNull?, readBool?, readInteger?, readFloat?, readString?, hitems, ofJson]
  | .object fields => by
    have hfields := readFields?_eq fields
    simp [read?, readNull?, readBool?, readInteger?, readFloat?, readString?, hfields, ofJson]

theorem readItems?_eq : ∀ items : List Json, readItems? items = some (ofItems items)
  | [] => rfl
  | j :: rest => by
    rw [readItems?, read?_eq j, readItems?_eq rest]
    rfl

theorem readFields?_eq : ∀ fields : List (String × Json),
    readFields? fields = some (ofFields fields)
  | [] => rfl
  | (name, j) :: rest => by
    rw [readFields?, read?_eq j, readFields?_eq rest]
    rfl

end

/-! ## Item by item -/

theorem eq_map_iff_forall_zip {α β : Type} {f : α → β} {items : List α} {values : List β} :
    values = items.map f ↔
      values.length = items.length ∧ ∀ p ∈ items.zip values, p.2 = f p.1 := by
  constructor
  · rintro rfl
    refine ⟨List.length_map .., fun p hp => ?_⟩
    rw [← List.map_prod_left_eq_zip] at hp
    obtain ⟨a, -, rfl⟩ := List.mem_map.1 hp
    rfl
  · rintro ⟨length, each⟩
    have hfst : (items.zip values).map Prod.fst = items :=
      List.map_fst_zip (Nat.le_of_eq length.symm)
    have hsnd : (items.zip values).map Prod.snd = values :=
      List.map_snd_zip (Nat.le_of_eq length)
    calc values = (items.zip values).map Prod.snd := hsnd.symm
      _ = (items.zip values).map fun p => f p.1 := List.map_congr_left each
      _ = ((items.zip values).map Prod.fst).map f := List.map_map.symm
      _ = items.map f := by rw [hfst]

theorem ofItems_eq_map (items : List Json) : ofItems items = items.map ofJson := by
  induction items with
  | nil => rfl
  | cons j rest ih => rw [ofItems, ih, List.map_cons]

theorem ofFields_eq_map (fields : List (String × Json)) :
    ofFields fields = fields.map fun p => (p.1, ofJson p.2) := by
  induction fields with
  | nil => rfl
  | cons p rest ih => rw [ofFields, ih, List.map_cons]

/-- Fields in order have distinct names, so that none of them is lost. -/
theorem ofJson_object {fields : List (String × Json)} (h : Json.Ordered fields) :
    ofJson (.object fields) =
      .map ((Keyed.names fields).zip (fields.map fun p => ofJson p.2)) := by
  have hfields : ofFields fields = (Keyed.names fields).zip (fields.map fun p => ofJson p.2) := by
    rw [ofFields_eq_map, Keyed.names, List.zip_map']
  have hnames : Keyed.names (ofFields fields) = Keyed.names fields := by
    rw [ofFields_eq_map, Keyed.names_map]
  have hdistinct : Keyed.Distinct (ofFields fields) := by
    rw [Keyed.Distinct, hnames]
    exact h.imp fun hlt => String.ne_of_lt hlt
  rw [ofJson, ofEntries, Keyed.ofList_of_distinct hdistinct, hfields]

/-! ## Denotations -/

/-- **What a JSON value denotes,** position by position. Integers of the signed range stay integers,
and all other numbers are doubles: an integer above this range the nearest one, a number that is
held as a double the same one, bit by bit. -/
inductive Denotes : Json → ConfigValue → Prop where
  | null : Denotes .null .null
  | bool (b : Bool) : Denotes (.bool b) (.bool b)
  | integer (i : Int64) : Denotes (.ofInt64 i) (.integer i)
  /-- An integer above the signed range. -/
  | large {u : UInt64} (above : 0x8000000000000000 ≤ u.toNat) :
      Denotes (.ofUInt64 u) (.float (.ofInt u.toNat))
  /-- A number that is held as a double. -/
  | double (x : Binary64) (finite : x.isFinite) : Denotes (.number (.double x finite)) (.float x)
  | string (s : String) : Denotes (.string s) (.string s)
  | array {items : List Json} {values : List ConfigValue} (length : values.length = items.length)
      (each : ∀ p ∈ items.zip values, Denotes p.1 p.2) : Denotes (.array items) (.array values)
  | object {fields : List (String × Json)} {values : List ConfigValue}
      (length : values.length = fields.length)
      (each : ∀ p ∈ fields.zip values, Denotes p.1.2 p.2) :
      Denotes (.object fields) (.map ((Keyed.names fields).zip values))

theorem denotes_ofNumber (n : Json.Number) : Denotes (.number n) (ofNumber n) := by
  rcases n.cases_integer_double with ⟨i, rfl⟩ | ⟨u, hu, rfl⟩ | ⟨x, hx, rfl⟩
  · rw [ofNumber_ofInt64]
    exact .integer i
  · rw [ofNumber_ofUInt64 hu]
    exact .large hu
  · exact .double x hx

/-- **A JSON value denotes what is read from it.** -/
theorem denotes_ofJson {j : Json} (h : j.WellFormed) : Denotes j (ofJson j) := by
  induction h with
  | null => exact .null
  | bool b => exact .bool b
  | number n => exact denotes_ofNumber n
  | string s => exact .string s
  | @array items _ ih =>
    rw [ofJson, ofItems_eq_map]
    obtain ⟨length, each⟩ := eq_map_iff_forall_zip.1 (Eq.refl (items.map ofJson))
    refine .array length fun p hp => ?_
    rw [each p hp]
    exact ih p.1 (List.of_mem_zip hp).1
  | @object fields ordered _ ih =>
    rw [ofJson_object ordered]
    obtain ⟨length, each⟩ := eq_map_iff_forall_zip.1 (Eq.refl (fields.map fun p => ofJson p.2))
    refine .object length fun p hp => ?_
    rw [each p hp]
    exact ih p.1 (List.of_mem_zip hp).1

/-- **A JSON value denotes nothing else.** -/
theorem Denotes.eq_ofJson {j : Json} {v : ConfigValue} (h : Denotes j v) (hj : j.WellFormed) :
    v = ofJson j := by
  -- the induction is on the denotation; that a part is well formed follows from the whole
  induction h with
  | null | bool b | double x hx | string s => rfl
  | integer i => exact (ofNumber_ofInt64 i).symm
  | large hu => exact (ofNumber_ofUInt64 hu).symm
  | @array items values length _ ih =>
    cases hj with
    | array each =>
      have hvalues : values = items.map ofJson :=
        eq_map_iff_forall_zip.2 ⟨length, fun p hp => ih p hp (each p.1 (List.of_mem_zip hp).1)⟩
      rw [ofJson, ofItems_eq_map, hvalues]
  | @object fields values length _ ih =>
    cases hj with
    | object ordered each =>
      have hvalues : values = fields.map fun p => ofJson p.2 :=
        eq_map_iff_forall_zip.2 ⟨length, fun p hp => ih p hp (each p.1 (List.of_mem_zip hp).1)⟩
      rw [ofJson_object ordered, hvalues]

/-- **The two ways to read a configuration value agree.** From every JSON value the way by trial
reads something, and it is what the direct way reads. It is what the JSON value denotes. -/
theorem decode_eq_and_denotes_iff (j : Json) :
    decode j = .ok (ofJson j) ∧ (j.WellFormed → ∀ v, Denotes j v ↔ v = ofJson j) := by
  refine ⟨?_, fun hj v => ⟨fun h => h.eq_ofJson hj, ?_⟩⟩
  · rw [decode, read?_eq]
  · rintro rfl
    exact denotes_ofJson hj

/-- Numbers around the bounds of the signed range, and doubles without a fraction, in an object. -/
theorem reads_numbers_at_bounds :
    let zero : Json.Number := .double ⟨0x8000000000000000⟩ rfl
    let two : Json.Number := .double ⟨0x4000000000000000⟩ rfl
    let j : Json := .object [
      ("doubles", .array [.number zero, .number two]),
      ("integers", .array [.ofInt64 0x7FFFFFFFFFFFFFFF, .ofUInt64 0x8000000000000000,
        .ofInt64 (-0x8000000000000000)])]
    let v : ConfigValue := .map [
      ("doubles", .array [.float ⟨0x8000000000000000⟩, .float ⟨0x4000000000000000⟩]),
      ("integers", .array [.integer 0x7FFFFFFFFFFFFFFF, .float ⟨0x43E0000000000000⟩,
        .integer (-0x8000000000000000)])]
    j.WellFormed ∧ decode j = .ok v ∧ Denotes j v := by
  intro zero two j v
  have hnumbers : ∀ ns : List Json.Number, (Json.array (ns.map .number)).WellFormed := by
    refine fun ns => .array fun i hi => ?_
    obtain ⟨n, -, rfl⟩ := List.mem_map.1 hi
    exact .number n
  have hj : j.WellFormed := .object (by decide) (List.forall_mem_cons.2 ⟨hnumbers [zero, two],
    List.forall_mem_singleton.2 (hnumbers [.ofInt64 0x7FFFFFFFFFFFFFFF,
      .ofUInt64 0x8000000000000000, .ofInt64 (-0x8000000000000000)])⟩)
  have hrounded : Binary64.ofInt 0x8000000000000000 = ⟨0x43E0000000000000⟩ := by decide +kernel
  have hlarge : ofNumber (.ofUInt64 0x8000000000000000) = .float ⟨0x43E0000000000000⟩ :=
    (ofNumber_ofUInt64 (by decide)).trans (congrArg ConfigValue.float hrounded)
  have hv : v = ofJson j := by
    simp only [v, j, ofJson, ofFields, ofItems, Json.ofInt64, Json.ofUInt64, ofNumber_ofInt64,
      hlarge]
    rfl
  obtain ⟨hdecode, hdenotes⟩ := decode_eq_and_denotes_iff j
  exact ⟨hj, hv ▸ hdecode, (hdenotes hj v).2 hv⟩

end ConfigValue

end IdentityStore
