import IdentityStore.ConfigValue.Printer
import IdentityStore.Proofs.Text.ByteOrder

/-!
# The text of a configuration value does not tell the order of maps

A map is written with its names sorted, and sorting forgets in which order the entries came there.

* **Lists and maps** (`display_array`, `display_map`): the texts of the parts between brackets, with
  a separator between neighbours.
* **Reordered values** (`Reordered.display_eq`) have one text. Maps that were written entry by entry
  are reordered when they give the same under each name (`reordered_ofEntries`).
* **Sorted maps** (`ByName`): each entry once, the bytes of the names strictly increasing. This is
  how the entries of a map are written (`byName_sorted`).
* `display_ignores_order`: the law.
-/

namespace IdentityStore.ConfigValue

open Text (join_eq_intercalate)
open Text.Utf8 (bytes bytes_lt_iff)

variable {a b : ConfigValue}

/-! ## Lists and maps -/

theorem displayItems_eq_map (items : List ConfigValue) :
    displayItems items = items.map display := by
  induction items with
  | nil => rfl
  | cons v rest ih => rw [displayItems, ih, List.map_cons]

theorem displayEntries_eq_map (entries : List (String × ConfigValue)) :
    displayEntries entries = entries.map fun p => (p.1, p.2.display) := by
  induction entries with
  | nil => rfl
  | cons p rest ih => rw [displayEntries, ih, List.map_cons]

theorem display_array (items : List ConfigValue) :
    (array items).display = "[" ++ ", ".intercalate (items.map display) ++ "]" := by
  rw [display, join_eq_intercalate, displayItems_eq_map]

theorem display_map (entries : List (String × ConfigValue)) :
    (map entries).display = "\x7b" ++ ", ".intercalate ((Keyed.sorted entries).map fun p =>
      "\"" ++ p.1 ++ "\": " ++ p.2.display) ++ "\x7d" := by
  rw [display, join_eq_intercalate, displayEntries_eq_map, Keyed.sorted_map, List.map_map]
  rfl

/-! ## Reordered values -/

/-- **Reordered values have one text.** -/
theorem Reordered.display_eq (h : Reordered a b) : a.display = b.display := by
  induction h with
  | null => rfl
  | bool b => rfl
  | integer i => rfl
  | float x => rfl
  | string s => rfl
  | @array items others length each ih =>
    have hitems : items.map display = others.map display := by
      calc items.map display
          = ((items.zip others).map Prod.fst).map display := by
            rw [List.map_fst_zip (Nat.le_of_eq length.symm)]
        _ = ((items.zip others).map Prod.snd).map display := by
            rw [List.map_map, List.map_map]
            exact List.map_congr_left ih
        _ = others.map display := by rw [List.map_snd_zip (Nat.le_of_eq length)]
    rw [display_array, display_array, hitems]
  | @map entries others names each ih =>
    have hsorted : Keyed.sorted (displayEntries entries) = Keyed.sorted (displayEntries others) := by
      rw [displayEntries_eq_map, displayEntries_eq_map]
      refine Keyed.sorted_eq_of_names ?_ ?_
      · rwa [Keyed.names_map, Keyed.names_map]
      · simp only [List.forall_mem_map]
        exact ih
    rw [display, display, hsorted]

theorem reordered_ofEntries {pairs others : List (String × ConfigValue)}
    (h : ∀ name, Option.Rel Reordered ((ofEntries pairs).get? name) ((ofEntries others).get? name)) :
    Reordered (ofEntries pairs) (ofEntries others) := by
  have hl : Keyed.Distinct (Keyed.ofList pairs) := Keyed.distinct_ofList pairs
  have hm : Keyed.Distinct (Keyed.ofList others) := Keyed.distinct_ofList others
  have hsome : ∀ {v w : Option ConfigValue}, Option.Rel Reordered v w →
      ((∃ x, v = some x) ↔ ∃ y, w = some y) := by
    rintro _ _ (_ | _) <;> simp
  refine .map ((List.perm_ext_iff_of_nodup hl hm).2 fun name => ?_) fun p hp q hq hname => ?_
  · exact Keyed.mem_names_iff.trans ((hsome (h name)).trans Keyed.mem_names_iff.symm)
  · have hp' : (ofEntries pairs).get? p.1 = some p.2 := (Keyed.get?_eq_some_iff hl).2 hp
    have hq' : (ofEntries others).get? p.1 = some q.2 :=
      (Keyed.get?_eq_some_iff hm).2 (hname ▸ hq)
    have hrel := h p.1
    rw [hp', hq'] at hrel
    cases hrel with
    | some hrel => exact hrel

/-! ## Sorted maps -/

/-- Entries of a map, each of them once, with the bytes of the names strictly increasing. -/
structure ByName (entries sorted : List (String × ConfigValue)) : Prop where
  perm : sorted.Perm entries
  increasing : sorted.Pairwise fun p q => bytes p.1 < bytes q.1

theorem byName_sorted {entries : List (String × ConfigValue)} (h : Keyed.Distinct entries) :
    ByName entries (Keyed.sorted entries) where
  perm := Keyed.sorted_perm entries
  increasing := (Keyed.pairwise_lt_sorted h).imp bytes_lt_iff.2

/-- **The text of a value does not tell the order of maps.** Reordered values have one text, and so
have maps that were written in different ways and give reordered values under each name. A map is
written with each of its entries once, the bytes of the names strictly increasing and the text of
its own value behind each name. A list is written item by item. In both, a separator stands between
neighbours and nowhere else. -/
theorem display_ignores_order :
    (∀ a b : ConfigValue, Reordered a b → a.display = b.display) ∧
    (∀ pairs others : List (String × ConfigValue),
      (∀ name, Option.Rel Reordered ((ofEntries pairs).get? name)
        ((ofEntries others).get? name)) → (ofEntries pairs).display = (ofEntries others).display) ∧
    (∀ entries : List (String × ConfigValue), Keyed.Distinct entries → ∃ sorted,
      ByName entries sorted ∧ (map entries).display =
        "\x7b" ++ ", ".intercalate (sorted.map fun p => "\"" ++ p.1 ++ "\": " ++ p.2.display) ++
          "\x7d") ∧
    ∀ items : List ConfigValue,
      (array items).display = "[" ++ ", ".intercalate (items.map display) ++ "]" := by
  refine ⟨fun a b => Reordered.display_eq, fun pairs others h => ?_, fun entries h => ?_,
    display_array⟩
  · exact (reordered_ofEntries h).display_eq
  · exact ⟨Keyed.sorted entries, byName_sorted h, display_map entries⟩

/-- Names are sorted by their bytes, at every depth: a character of three bytes comes before one of
four. -/
example :
    (map [("😀", .array [.map [("b", .integer 1), ("a", .string "x")], .null]),
      ("\uff61", .bool true), ("", .array [])]).display =
    "\x7b\"\": [], \"\uff61\": true, \"😀\": [\x7b\"a\": \"x\", \"b\": 1\x7d, null]\x7d" := by
  decide +kernel

/-- Maps inside a list inside a map are stored in another order, and one of the maps was written
with another value under a name first. -/
theorem one_text_of_nested_maps :
    let inner : ConfigValue := .map [("b", .integer 1), ("a", .null)]
    let other : ConfigValue := .map [("a", .null), ("b", .integer 1)]
    let entries : List (String × ConfigValue) := [("😀", .array [inner]), ("\uff61", .bool true)]
    let others : List (String × ConfigValue) := [("\uff61", .bool true), ("😀", .array [other])]
    let pairs : List (String × ConfigValue) := ("😀", .null) :: others
    (Reordered (map entries) (map others) ∧ (map entries).display = (map others).display) ∧
    ((∀ name, Option.Rel Reordered ((ofEntries entries).get? name) ((ofEntries pairs).get? name)) ∧
      (ofEntries entries).display = (ofEntries pairs).display) ∧
    Keyed.Distinct entries ∧ ∃ sorted, ByName entries sorted ∧ (map entries).display =
        "\x7b" ++ ", ".intercalate (sorted.map fun p => "\"" ++ p.1 ++ "\": " ++ p.2.display) ++
          "\x7d" := by
  intro inner other entries others pairs
  obtain ⟨hreordered, hwritten, hmaps, -⟩ := display_ignores_order
  have hinner : Reordered inner other := by
    refine .map (.swap _ _ _) ?_
    simp [Reordered.null, Reordered.integer]
  have hitems : Reordered (.array [inner]) (.array [other]) := by
    refine .array rfl ?_
    simpa using hinner
  have hmap : Reordered (map entries) (map others) := by
    refine .map (.swap _ _ _) ?_
    simp [entries, others, Reordered.bool, hitems]
  have hfound : ∀ name, Option.Rel Reordered ((ofEntries entries).get? name)
      ((ofEntries pairs).get? name) := by
    intro name
    have hl : (ofEntries entries).get? name = Keyed.get? entries name := rfl
    have hm : (ofEntries pairs).get? name =
      Keyed.get? [("😀", .array [other]), ("\uff61", .bool true)] name := rfl
    rw [hl, hm]
    simp only [entries, Keyed.get?_cons, Keyed.get?_nil]
    split
    · exact .some hitems
    split
    · exact .some (.bool true)
    · exact .none
  have hdistinct : Keyed.Distinct entries := by decide
  exact ⟨⟨hmap, hreordered _ _ hmap⟩, ⟨hfound, hwritten _ _ hfound⟩, hdistinct, hmaps _ hdistinct⟩

end IdentityStore.ConfigValue
