import IdentityStore.Context
import IdentityStore.Proofs.ConfigValue.Reading
import IdentityStore.Proofs.Number.Nearest
import Mathlib.Data.List.Nodup

/-!
# Configuration values and contexts survive JSON

Both directions lose something in one place only. JSON has no infinities and no NaN; configuration
values have no integers above the signed range.

* **What is lost** (`ConfigValue.dropNonFinite`, `Json.roundLarge`): `null` in the place of every
  double that is not finite, the nearest double in the place of every integer above the range.
  `dropNonFinite_of_finite`: nothing changes where all doubles are finite.
* **There and back** (`reordered_ofJson_toJson`): the value comes back, the order of the entries in
  its maps apart. `toJson_ofJson`: the JSON value comes back as it was.
* **Contexts** (`IdentityContext.decode_toJson`): the partition is kept, and each attribute comes
  back as a configuration value does.
* `json_round_trips`: the law.
-/

namespace IdentityStore

/-! ## Integers above the signed range -/

namespace Json

theorem Number.isFinite_ofInt {n : Int} (above : ¬ n < 0x8000000000000000)
    (inRange : -0x8000000000000000 ≤ n ∧ n < 0x10000000000000000) :
    (Binary64.ofInt n).isFinite := by
  obtain ⟨u, rfl⟩ := Int.eq_ofNat_of_zero_le (show 0 ≤ n by omega)
  exact (Binary64.value_ofInt (by omega) (by omega)).1

/-- An integer above the signed range as the nearest double, and every other number as it is. -/
def Number.roundLarge : Number → Number
  | .integer n inRange =>
    if h : n < 0x8000000000000000 then .integer n inRange
    else .double (.ofInt n) (isFinite_ofInt h inRange)
  | .double x finite => .double x finite

mutual

/-- The value with every number, at any depth, rounded by `Number.roundLarge`. -/
def roundLarge : Json → Json
  | .null => .null
  | .bool b => .bool b
  | .number n => .number n.roundLarge
  | .string s => .string s
  | .array items => .array (roundItems items)
  | .object fields => .object (roundFields fields)

def roundItems : List Json → List Json
  | [] => []
  | j :: rest => roundLarge j :: roundItems rest

def roundFields : List (String × Json) → List (String × Json)
  | [] => []
  | (name, j) :: rest => (name, roundLarge j) :: roundFields rest

end

theorem roundItems_eq_map (items : List Json) : roundItems items = items.map roundLarge := by
  induction items with
  | nil => rfl
  | cons j rest ih => rw [roundItems, ih, List.map_cons]

theorem roundFields_eq_map (fields : List (String × Json)) :
    roundFields fields = fields.map fun p => (p.1, roundLarge p.2) := by
  induction fields with
  | nil => rfl
  | cons p rest ih => rw [roundFields, ih, List.map_cons]

theorem Number.roundLarge_ofInt64 (i : Int64) : (ofInt64 i).roundLarge = ofInt64 i := by
  have hsmall : i.toInt < 0x8000000000000000 := i.toInt_lt
  rw [ofInt64, roundLarge, dif_pos hsmall]

theorem Number.roundLarge_ofUInt64 {u : UInt64} (h : 0x8000000000000000 ≤ u.toNat) :
    ∃ finite, (ofUInt64 u).roundLarge = .double (.ofInt u.toNat) finite := by
  have hlarge : ¬ (u.toNat : Int) < 0x8000000000000000 := by omega
  rw [ofUInt64, roundLarge, dif_neg hlarge]
  exact ⟨_, rfl⟩

end Json

namespace ConfigValue

/-! ## Doubles that are not finite -/

mutual

/-- The value with `null` in the place of every infinity and every NaN, at any depth. -/
def dropNonFinite : ConfigValue → ConfigValue
  | null => null
  | bool b => bool b
  | integer i => integer i
  | float x => if x.isFinite then float x else null
  | string s => string s
  | array items => array (dropItems items)
  | map entries => map (dropEntries entries)

def dropItems : List ConfigValue → List ConfigValue
  | [] => []
  | v :: rest => dropNonFinite v :: dropItems rest

def dropEntries : List (String × ConfigValue) → List (String × ConfigValue)
  | [] => []
  | (name, v) :: rest => (name, dropNonFinite v) :: dropEntries rest

end

theorem dropItems_eq_map (items : List ConfigValue) :
    dropItems items = items.map dropNonFinite := by
  induction items with
  | nil => rfl
  | cons v rest ih => rw [dropItems, ih, List.map_cons]

theorem dropEntries_eq_map (entries : List (String × ConfigValue)) :
    dropEntries entries = entries.map fun p => (p.1, dropNonFinite p.2) := by
  induction entries with
  | nil => rfl
  | cons p rest ih => rw [dropEntries, ih, List.map_cons]

mutual

/-- **Nothing is lost** of a value that holds finite doubles only. -/
theorem dropNonFinite_of_finite : ∀ v : ConfigValue,
    (∀ x, v.HoldsFloat x → x.isFinite) → v.dropNonFinite = v
  | null, _ | bool _, _ | integer _, _ | string _, _ => rfl
  | float x, h => if_pos (h x .float)
  | array items, h => by
    rw [dropNonFinite, dropItems_of_finite items fun _ hv x hx => h x (.item hv hx)]
  | map entries, h => by
    rw [dropNonFinite, dropEntries_of_finite entries fun _ hp x hx => h x (.entry hp hx)]

theorem dropItems_of_finite : ∀ items : List ConfigValue,
    (∀ v ∈ items, ∀ x, v.HoldsFloat x → x.isFinite) → dropItems items = items
  | [], _ => rfl
  | v :: rest, h => by
    obtain ⟨hv, hrest⟩ := List.forall_mem_cons.1 h
    rw [dropItems, dropNonFinite_of_finite v hv, dropItems_of_finite rest hrest]

theorem dropEntries_of_finite : ∀ entries : List (String × ConfigValue),
    (∀ p ∈ entries, ∀ x, p.2.HoldsFloat x → x.isFinite) → dropEntries entries = entries
  | [], _ => rfl
  | (name, v) :: rest, h => by
    obtain ⟨hv, hrest⟩ := List.forall_mem_cons.1 h
    rw [dropEntries, dropNonFinite_of_finite v hv, dropEntries_of_finite rest hrest]

end

/-! ## There and back -/

theorem toItems_eq_map (items : List ConfigValue) : toItems items = items.map toJson := by
  induction items with
  | nil => rfl
  | cons v rest ih => rw [toItems, ih, List.map_cons]

theorem toFields_eq_map (entries : List (String × ConfigValue)) :
    toFields entries = entries.map fun p => (p.1, toJson p.2) := by
  induction entries with
  | nil => rfl
  | cons p rest ih => rw [toFields, ih, List.map_cons]

theorem ofJson_toJson_float (x : Binary64) :
    ofJson (toJson (.float x)) = dropNonFinite (.float x) := by
  unfold toJson dropNonFinite Json.ofDouble
  split <;> rfl

theorem ofJson_toJson_map {entries : List (String × ConfigValue)} (h : Keyed.Distinct entries) :
    ofJson (toJson (.map entries)) =
      .map ((Keyed.sorted entries).map fun p => (p.1, ofJson (toJson p.2))) := by
  have hfields : ofFields (Keyed.sorted (toFields entries)) =
      (Keyed.sorted entries).map fun p => (p.1, ofJson (toJson p.2)) := by
    rw [toFields_eq_map, Keyed.sorted_map, ofFields_eq_map, List.map_map]
    rfl
  have hdistinct :
      Keyed.Distinct ((Keyed.sorted entries).map fun p => (p.1, ofJson (toJson p.2))) := by
    rw [Keyed.Distinct, Keyed.names_map fun v => ofJson (toJson v)]
    exact Keyed.distinct_sorted h
  rw [toJson, ofJson, ofEntries, hfields, Keyed.ofList_of_distinct hdistinct]

/-- **A value comes back from JSON** without its infinities and NaNs. -/
theorem reordered_ofJson_toJson {v : ConfigValue} (h : v.WellFormed) :
    Reordered v.dropNonFinite (ofJson v.toJson) := by
  induction h with
  | null => exact .null
  | bool b => exact .bool b
  | integer i =>
    have hi : ofJson (toJson (.integer i)) = .integer i := ofNumber_ofInt64 i
    rw [hi]
    exact .integer i
  | float x =>
    rw [ofJson_toJson_float, dropNonFinite]
    split
    · exact .float x
    · exact .null
  | string s => exact .string s
  | @array items _ ih =>
    rw [dropNonFinite, dropItems_eq_map, toJson, toItems_eq_map, ofJson, ofItems_eq_map,
      List.map_map]
    refine .array (by simp only [List.length_map]) fun p hp => ?_
    rw [List.zip_map'] at hp
    obtain ⟨v, hv, rfl⟩ := List.mem_map.1 hp
    exact ih v hv
  | @map entries distinct _ ih =>
    rw [dropNonFinite, dropEntries_eq_map, ofJson_toJson_map distinct]
    have hperm := Keyed.sorted_perm entries
    refine .map ?_ fun p hp q hq hname => ?_
    · rw [Keyed.names_map, Keyed.names_map fun v => ofJson (toJson v)]
      exact (Keyed.names_sorted_perm entries).symm
    · obtain ⟨a, ha, rfl⟩ := List.mem_map.1 hp
      obtain ⟨b, hb, rfl⟩ := List.mem_map.1 hq
      -- names are distinct, so both sides come from one entry
      obtain rfl : a = b := List.inj_on_of_nodup_map distinct ha (hperm.mem_iff.1 hb) hname
      exact ih a ha

theorem toJson_ofNumber (n : Json.Number) : toJson (ofNumber n) = .number n.roundLarge := by
  rcases n.cases_integer_double with ⟨i, rfl⟩ | ⟨u, hu, rfl⟩ | ⟨x, hx, rfl⟩
  · rw [ofNumber_ofInt64, Json.Number.roundLarge_ofInt64]
    rfl
  · obtain ⟨finite, hround⟩ := Json.Number.roundLarge_ofUInt64 hu
    rw [ofNumber_ofUInt64 hu, hround]
    exact dif_pos finite
  · exact dif_pos hx

/-- **A JSON value comes back from a configuration value** with its large integers rounded. -/
theorem toJson_ofJson {j : Json} (h : j.WellFormed) : toJson (ofJson j) = j.roundLarge := by
  induction h with
  | null | bool b | string s => rfl
  | number n => exact toJson_ofNumber n
  | @array items _ ih =>
    rw [ofJson, ofItems_eq_map, toJson, toItems_eq_map, List.map_map, Json.roundLarge,
      Json.roundItems_eq_map]
    exact congrArg Json.array (List.map_congr_left ih)
  | @object fields ordered _ ih =>
    rw [ofJson_object ordered, Keyed.names, List.zip_map', toJson, toFields_eq_map, List.map_map]
    calc Json.object (Keyed.sorted (fields.map fun p => (p.1, toJson (ofJson p.2))))
        = .object (fields.map fun p => (p.1, toJson (ofJson p.2))) := by
          rw [Keyed.sorted_map fun j => toJson (ofJson j), ordered.sorted_eq]
      _ = .object (fields.map fun p => (p.1, p.2.roundLarge)) :=
          congrArg Json.object (List.map_congr_left fun p hp => by rw [ih p hp])
      _ = (Json.object fields).roundLarge := by rw [Json.roundLarge, Json.roundFields_eq_map]

/-! ## Tables -/

theorem decode_eq_ofJson (j : Json) : decode j = .ok (ofJson j) := by
  rw [decode, read?_eq]

theorem decodeFields_toFields (entries : List (String × ConfigValue)) :
    decodeFields (toFields entries) = .ok (entries.map fun p => (p.1, ofJson (toJson p.2))) := by
  induction entries with
  | nil => rfl
  | cons p rest ih =>
    rw [toFields, decodeFields, decode_eq_ofJson, ih]
    rfl

end ConfigValue

namespace ConfigTable

theorem ofList_toList (t : ConfigTable) : Std.ExtTreeMap.ofList t.toList = t := by
  refine Std.ExtTreeMap.ext_getElem? fun name => ?_
  cases h : t[name]? with
  | some v =>
    exact Std.ExtTreeMap.getElem?_ofList_of_mem Std.ReflCmp.compare_self
      Std.ExtTreeMap.distinct_keys_toList (Std.ExtTreeMap.mem_toList_iff_getElem?_eq_some.2 h)
  | none =>
    refine Std.ExtTreeMap.getElem?_ofList_of_contains_eq_false ?_
    rw [Std.ExtTreeMap.map_fst_toList_eq_keys]
    simpa using h

theorem decode_toJson (t : ConfigTable) :
    decode t.toJson = .ok (t.map fun _ v => .ofJson v.toJson) := by
  have hlist : t.toList.map (fun p => (p.1, ConfigValue.ofJson p.2.toJson)) =
      (t.map fun _ v => ConfigValue.ofJson v.toJson).toList :=
    (Std.ExtTreeMap.toList_map (f := fun _ (v : ConfigValue) => ConfigValue.ofJson v.toJson)).symm
  rw [toJson, decode, ConfigValue.decodeFields_toFields, hlist]
  exact congrArg Except.ok (ofList_toList _)

end ConfigTable

/-! ## Contexts -/

namespace IdentityContext

/-- **A context comes back from JSON:** its partition as it was, and its attributes each as a
configuration value does. -/
theorem decode_toJson (c : IdentityContext) :
    decode c.toJson =
      .ok { c with attributes := c.attributes.map fun _ v => .ofJson v.toJson } := by
  have hfields : c.toJson = .object [("attributes", c.attributes.toJson),
      ("partition", .ofOption c.partition)] := by
    rw [toJson, Json.ofFields, Keyed.ofList_of_distinct (by simp [Keyed.Distinct, Keyed.names])]
    simp [Keyed.sorted, Keyed.insertSorted]
  have hpartition : Json.Decoder.optional Json.Decoder.string (.ofOption c.partition) =
      .ok c.partition := by
    cases c.partition <;> rfl
  rw [hfields, decode, Json.RecordReader.decode, reader]
  simp only [Json.Decoder.field?, Keyed.get?_cons, String.reduceEq, if_true, if_false,
    ConfigTable.decode_toJson, hpartition]
  rfl

end IdentityContext

namespace ConfigValue

/-- **Configuration values, JSON values and contexts make the round trip.** A configuration value
that is written and read, in either way, has `null` for its infinities and NaNs and is else the
same, bit by bit; one that holds finite doubles only is the same throughout. A JSON value that is
read and written has the nearest double for each integer above the signed range and is else the
same. A context keeps its partition, and its attributes fare as configuration values do. -/
theorem json_round_trips :
    (∀ v : ConfigValue, v.WellFormed →
      decode v.toJson = .ok (ofJson v.toJson) ∧ Reordered v.dropNonFinite (ofJson v.toJson) ∧
        ((∀ x, v.HoldsFloat x → x.isFinite) → Reordered v (ofJson v.toJson))) ∧
    (∀ j : Json, j.WellFormed → (ofJson j).toJson = j.roundLarge) ∧
    (∀ u : UInt64, 0x8000000000000000 ≤ u.toNat → ∃ x finite,
      Json.roundLarge (.ofUInt64 u) = .number (.double x finite) ∧ x.IsNearest u.toNat) ∧
    ∀ c : IdentityContext, ∃ c', IdentityContext.decode c.toJson = .ok c' ∧
      c'.partition = c.partition ∧
      ∀ name, c'.attribute? name = (c.attribute? name).map fun v => ofJson v.toJson := by
  refine ⟨fun v hv => ?_, fun j hj => toJson_ofJson hj, fun u hu => ?_, fun c => ?_⟩
  · have hback := reordered_ofJson_toJson hv
    refine ⟨decode_eq_ofJson v.toJson, hback, fun hfinite => ?_⟩
    rwa [dropNonFinite_of_finite v hfinite] at hback
  · obtain ⟨finite, hround⟩ := Json.Number.roundLarge_ofUInt64 hu
    exact ⟨_, finite, congrArg Json.number hround, Binary64.isNearest_ofInt hu u.toNat_lt⟩
  · exact ⟨_, c.decode_toJson, rfl, fun name => Std.ExtTreeMap.getElem?_map⟩

/-- A NaN and a negative zero in a map, and an integer between two doubles in an object. -/
theorem json_round_trips_of_nested :
    let zero : ConfigValue := .float ⟨0x8000000000000000⟩
    let v : ConfigValue := .map [("b", .array [.float .nan, zero]), ("a", .integer (-1))]
    let w : ConfigValue := .map [("a", .integer (-1)), ("b", .array [.null, zero])]
    let x : Binary64 := ⟨0x43E0000000000001⟩
    let u : UInt64 := 0x8000000000000401
    let j : Json := .object [("n", .array [.ofUInt64 u, .ofInt64 2])]
    let k : Json := .object [("n", .array [.number (.double x rfl), .ofInt64 2])]
    (v.WellFormed ∧ decode v.toJson = .ok w ∧ Reordered v.dropNonFinite w) ∧
    (zero.WellFormed ∧ (∀ y, zero.HoldsFloat y → y.isFinite) ∧
      Reordered zero (ofJson zero.toJson)) ∧
    (j.WellFormed ∧ (ofJson j).toJson = k) ∧
    0x8000000000000000 ≤ u.toNat ∧ x.IsNearest u.toNat := by
  intro zero v w x u j k
  obtain ⟨hvalues, hjson, hlarge, -⟩ := json_round_trips
  have hv : v.WellFormed := by
    refine .map (by decide) (List.forall_mem_cons.2 ⟨?_, List.forall_mem_singleton.2 (.integer _)⟩)
    exact .array (List.forall_mem_cons.2 ⟨.float _, List.forall_mem_singleton.2 (.float _)⟩)
  have hw : ofJson v.toJson = w := by
    have hfields : v.toJson = .object [("a", .ofInt64 (-1)), ("b", .array [.null, toJson zero])] := by
      have hnames : ¬ ("b" : String) ≤ "a" := by decide
      simp only [v, toJson, toFields, Keyed.sorted, List.foldr, Keyed.insertSorted, if_neg hnames]
      rfl
    rw [hfields]
    rfl
  have hzero : ∀ y, zero.HoldsFloat y → y.isFinite := by
    intro y hy
    change HoldsFloat y (.float _) at hy
    cases hy
    rfl
  have hj : j.WellFormed := by
    refine .object (by decide) (List.forall_mem_singleton.2 (.array ?_))
    exact List.forall_mem_cons.2 ⟨.number _, List.forall_mem_singleton.2 (.number _)⟩
  have hu : 0x8000000000000000 ≤ u.toNat := by decide
  have hround : (Json.Number.ofUInt64 u).roundLarge = .double x rfl := by decide +kernel
  have hk : j.roundLarge = k := by
    simp only [j, Json.ofUInt64, Json.roundLarge, Json.roundFields, Json.roundItems, hround]
    rfl
  obtain ⟨hdecode, hback, -⟩ := hvalues v hv
  rw [hw] at hdecode hback
  obtain ⟨y, finite, hy, hnearest⟩ := hlarge u hu
  have hxy : x = y :=
    Json.Number.double.inj (hround.symm.trans (Json.number.inj hy))
  exact ⟨⟨hv, hdecode, hback⟩, ⟨.float _, hzero, (hvalues zero (.float _)).2.2 hzero⟩,
    ⟨hj, hk ▸ hjson j hj⟩, hu, hxy ▸ hnearest⟩

end ConfigValue

end IdentityStore
