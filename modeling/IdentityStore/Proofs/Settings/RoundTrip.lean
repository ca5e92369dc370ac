import IdentityStore.Settings.Json

/-!
# Settings survive their JSON

The settings of a store are an object with the type of the store beside their fields. They are read
back from this object, and from every object that differs from it as far as readers tolerate it:
fields of other names come in, and fields with the value that a missing field is read as go out.

* **Defaults** (`StoreSettings.defaults`): the fields that may be left out.
* **Tolerated objects** (`StoreSettings.Tolerates`): what the fields of an object have to have in
  common with those of the settings.
* `StoreSettings.decode_of_tolerates`: from such an object the settings are read.
* **Rewritten objects** (`StoreSettings.rewritten`): the object of settings with fields added and
  left out.
* `StoreSettings.tag_of_decode`: the type of settings that were read is the one that was named.
* `StoreSettings.settings_survive_json`: the law.
-/

namespace IdentityStore

open Json (Decoder DecodeError)
open Json.Decoder

/-! ## Fields that may be left out -/

namespace Json.Decoder

variable {α : Type} {fields : List (String × Json)} {name : String} {decode : Decoder α} {j : Json}
  {a d : α}

theorem field?_of_get? (h : Keyed.get? fields name = some j) (hj : decode j = .ok a) :
    field? fields name decode = .ok (some a) := by
  rw [field?, h]
  simp only [hj]
  rfl

/-- **A field with a default** gives its value, whether it is there or was left out. -/
theorem exists_field?_getD
    (h : Keyed.get? fields name = some j ∨ Keyed.get? fields name = none ∧ a = d)
    (hj : decode j = .ok a) : ∃ o, field? fields name decode = .ok o ∧ o.getD d = a := by
  rcases h with h | ⟨h, rfl⟩
  · exact ⟨some a, field?_of_get? h hj, rfl⟩
  · refine ⟨none, ?_, rfl⟩
    rw [field?, h]

/-! ## Values that are written and read -/

theorem size_ofUInt64 (n : UInt64) : size (.ofUInt64 n) = .ok n := by
  have hn : (0 : Int) ≤ n.toNat := Int.natCast_nonneg _
  simp only [size, Json.ofUInt64, Json.Number.ofUInt64, if_pos hn, Int.toNat_natCast,
    UInt64.ofNat_toNat]

theorem ofUInt64_inj {m n : UInt64} (h : Json.ofUInt64 m = .ofUInt64 n) : m = n := by
  have := (congrArg size h).symm.trans (size_ofUInt64 m)
  exact (Except.ok.inj ((size_ofUInt64 n).symm.trans this)).symm

theorem optional_ofOption (o : Option String) : optional string (.ofOption o) = .ok o := by
  cases o <;> rfl

theorem strings_array (l : List String) : strings (.array (l.map .string)) = .ok l := by
  rw [strings]
  induction l with
  | nil => rfl
  | cons s rest ih =>
    rw [List.map_cons, List.mapM_cons, string, ok_bind, ih]
    rfl

end Json.Decoder

/-! ## Fields that readers tolerate -/

namespace StoreSettings

/-- The fields that may be left out, with the values that they are read as when they are missing. -/
def defaults : StoreType → List (String × Json)
  | .file => [("preserve_state", .bool false), ("async_write", .bool false),
      ("async_thread_pool", .ofUInt64 5)]
  | .jpa => [("mapped_entities", .array [])]
  | .ldap => [("url", .null), ("base_dn", .null), ("bind_dn", .null), ("bind_credential", .null)]

theorem defaults_subset (k : StoreType) (tmp : Text.Path) :
    defaults k ⊆ (Settings.default k tmp).pack.toFields := by
  cases k <;> simp [defaults, Settings.default, Settings.pack, toFields, FileSettings.toFields,
    JpaSettings.toFields, LdapSettings.toFields, Json.ofOption]

/-- **Fields that readers tolerate** for settings: the type is there, and so is each field of the
settings, unless it is left out and has its default. Fields of other names do not matter. -/
structure Tolerates (s : StoreSettings) (fields : List (String × Json)) : Prop where
  type : Keyed.get? fields tag = some s.type.toJson
  field : ∀ p ∈ s.toFields, Keyed.get? fields p.1 = some p.2 ∨
    Keyed.get? fields p.1 = none ∧ p ∈ defaults s.type

end StoreSettings

namespace StoreSettings.Tolerates

variable {s : StoreSettings} {fields : List (String × Json)} {name : String} {j : Json} {α : Type}
  {a d : α}

theorem get?_filter (h : s.Tolerates fields) (mem : (name, j) ∈ s.toFields) (hname : name ≠ tag) :
    Keyed.get? (fields.filter (·.1 != tag)) name = some j ∨
      Keyed.get? (fields.filter (·.1 != tag)) name = none ∧ (name, j) ∈ defaults s.type := by
  rw [Keyed.get?_filter (· != tag), if_pos (bne_iff_ne.2 hname)]
  exact h.field _ mem

theorem field?_eq (h : s.Tolerates fields) (name : String) (j : Json) (decode : Decoder α)
    (hname : name ≠ tag) (mem : (name, j) ∈ s.toFields) (hj : decode j = .ok a)
    (required : (name, j) ∉ defaults s.type) :
    field? (fields.filter (·.1 != tag)) name decode = .ok (some a) :=
  field?_of_get? ((h.get?_filter mem hname).resolve_right fun hd => required hd.2) hj

theorem exists_field? (h : s.Tolerates fields) (name : String) (j : Json) (decode : Decoder α)
    (hname : name ≠ tag) (mem : (name, j) ∈ s.toFields) (hj : decode j = .ok a)
    (default : (name, j) ∈ defaults s.type → a = d) :
    ∃ o, field? (fields.filter (·.1 != tag)) name decode = .ok o ∧ o.getD d = a :=
  exists_field?_getD ((h.get?_filter mem hname).imp_right fun hd => ⟨hd.1, default hd.2⟩) hj

end StoreSettings.Tolerates

/-! ## Reading -/

section

variable {fields : List (String × Json)}

open StoreSettings (Tolerates defaults tag)

theorem FileSettings.ofFields_of_tolerates {s : FileSettings} (h : Tolerates (.file s) fields) :
    reader.ofFields (fields.filter (·.1 != tag)) = .ok s := by
  have hdirectory := h.field?_eq "working_directory" (.string s.workingDirectory.text) path
    (by decide) (by simp [StoreSettings.toFields, toFields]) rfl
    (by simp [StoreSettings.type, defaults])
  obtain ⟨keep, hkeep, hkeep'⟩ := h.exists_field? "preserve_state" (.bool s.preserveState) bool
    (d := false) (by decide) (by simp [StoreSettings.toFields, toFields]) rfl
    (by simp [StoreSettings.type, defaults])
  obtain ⟨background, hbackground, hbackground'⟩ := h.exists_field? "async_write"
    (.bool s.asyncWrite) bool (d := false) (by decide)
    (by simp [StoreSettings.toFields, toFields]) rfl (by simp [StoreSettings.type, defaults])
  obtain ⟨threads, hthreads, hthreads'⟩ := h.exists_field? "async_thread_pool"
    (.ofUInt64 s.asyncThreadPool) size (d := 5) (by decide)
    (by simp [StoreSettings.toFields, toFields]) (size_ofUInt64 _)
    (fun hd => ofUInt64_inj (by simpa [StoreSettings.type, defaults] using hd))
  simp only [reader, hdirectory, hkeep, hbackground, hthreads, ok_bind, require, hkeep',
    hbackground', hthreads']
  rfl

theorem JpaSettings.ofFields_of_tolerates {s : JpaSettings} (h : Tolerates (.jpa s) fields) :
    reader.ofFields (fields.filter (·.1 != tag)) = .ok s := by
  obtain ⟨names, hnames, hnames'⟩ := h.exists_field? "mapped_entities"
    (.array (s.mappedEntities.map .string)) strings (d := []) (by decide)
    (by simp [StoreSettings.toFields, toFields]) (strings_array _)
    (by simp [StoreSettings.type, defaults])
  simp only [reader, hnames, ok_bind, hnames']
  rfl

theorem LdapSettings.ofFields_of_tolerates {s : LdapSettings} (h : Tolerates (.ldap s) fields) :
    reader.ofFields (fields.filter (·.1 != tag)) = .ok s := by
  have read (name : String) (o : Option String) (hname : name ≠ tag)
      (mem : (name, .ofOption o) ∈ s.toFields) :
      ∃ o', field? (fields.filter (·.1 != tag)) name (optional string) = .ok o' ∧
        o'.join = o := by
    have missing : (name, Json.ofOption o) ∈ defaults .ldap → o = none := by
      cases o <;> simp [defaults, Json.ofOption]
    obtain ⟨o', ho', rfl⟩ := h.exists_field? name (.ofOption o) (optional string) hname mem
      (optional_ofOption o) missing
    exact ⟨o', ho', by cases o' <;> rfl⟩
  obtain ⟨url, hurl, hurl'⟩ := read "url" s.url (by decide) (by simp [toFields])
  obtain ⟨base, hbase, hbase'⟩ := read "base_dn" s.baseDn (by decide) (by simp [toFields])
  obtain ⟨bind, hbind, hbind'⟩ := read "bind_dn" s.bindDn (by decide) (by simp [toFields])
  obtain ⟨secret, hsecret, hsecret'⟩ := read "bind_credential" s.bindCredential (by decide)
    (by simp [toFields])
  simp only [reader, hurl, hbase, hbind, hsecret, ok_bind, hurl', hbase', hbind', hsecret']
  rfl

end

namespace StoreSettings

variable {s : StoreSettings} {fields : List (String × Json)}

theorem decodeTag_toJson (k : StoreType) : decodeTag k.toJson = .ok k := by
  cases k <;> rfl

/-- **Settings are read from every tolerated object.** -/
theorem decode_of_tolerates (h : s.Tolerates fields) : decode (.object fields) = .ok s := by
  rw [decode, h.type]
  simp only [decodeTag_toJson, ok_bind]
  cases s with
  | file s => rw [type, ofFields, FileSettings.ofFields_of_tolerates h]; rfl
  | jpa s => rw [type, ofFields, JpaSettings.ofFields_of_tolerates h]; rfl
  | ldap s => rw [type, ofFields, LdapSettings.ofFields_of_tolerates h]; rfl

/-! ## Writing -/

theorem distinct_toFields (s : StoreSettings) :
    Keyed.Distinct ((tag, s.type.toJson) :: s.toFields) := by
  cases s <;> simp +decide [Keyed.Distinct, Keyed.names, toFields, FileSettings.toFields,
    JpaSettings.toFields, LdapSettings.toFields]

/-- **What may be written instead:** fields of other names come in, and fields with their default
go out. -/
def rewritten (s : StoreSettings) (dropped : String → Bool) (added : List (String × Json)) : Json :=
  .ofFields ((tag, s.type.toJson) :: s.toFields.filter (fun p => !dropped p.1) ++ added)

theorem decode_rewritten {dropped : String → Bool} {added : List (String × Json)}
    (hadded : ∀ p ∈ added, p.1 ≠ tag ∧ p.1 ∉ Keyed.names s.toFields)
    (hdropped : ∀ p ∈ s.toFields, dropped p.1 → p ∈ defaults s.type) :
    decode (s.rewritten dropped added) = .ok s := by
  obtain ⟨hnotTag, hdistinct⟩ := List.nodup_cons.1 s.distinct_toFields
  -- What is added does not reach the names of the settings.
  have htag : tag ∉ Keyed.names added := fun hm => by
    obtain ⟨p, hp, e⟩ := List.mem_map.1 hm
    exact (hadded p hp).1 e
  have hfield : ∀ n ∈ Keyed.names s.toFields, n ∉ Keyed.names added := fun n hn hm => by
    obtain ⟨p, hp, rfl⟩ := List.mem_map.1 hm
    exact (hadded p hp).2 hn
  let kept := (tag, s.type.toJson) :: s.toFields.filter fun p => !dropped p.1
  have hkept : Keyed.Distinct kept :=
    s.distinct_toFields.sublist ((List.filter_sublist.cons_cons _).map _)
  have found {n : String} (hn : n ∉ Keyed.names added) :
      Keyed.get? (Keyed.sorted (Keyed.ofList (kept ++ added))) n = Keyed.get? kept n := by
    rw [Keyed.get?_sorted (Keyed.distinct_ofList _), Keyed.get?_ofList_append _ hn,
      Keyed.ofList_of_distinct hkept]
  refine decode_of_tolerates ⟨?type, ?field⟩
  case type => rw [found htag, Keyed.get?_cons, if_pos rfl]
  case field =>
    intro p hp
    have hn : p.1 ∈ Keyed.names s.toFields := List.mem_map_of_mem hp
    have hne : tag ≠ p.1 := fun e => hnotTag (e ▸ hn)
    rw [found (hfield _ hn), Keyed.get?_cons, if_neg hne, Keyed.get?_filter (fun n => !dropped n)]
    cases hd : dropped p.1 with
    | false => exact .inl ((Keyed.get?_eq_some_iff hdistinct).2 hp)
    | true => exact .inr ⟨rfl, hdropped p hp hd⟩

/-! ## The type that was named -/

theorem eq_toJson_of_decodeTag {j : Json} {k : StoreType} (h : decodeTag j = .ok k) :
    j = k.toJson := by
  cases j with
  | string name =>
    rw [decodeTag, named] at h
    split at h
    case h_1 k' found =>
      obtain rfl := Except.ok.inj h
      have mem : (name, k') ∈ StoreType.choices :=
        (Keyed.get?_eq_some_iff (by decide)).1 found
      obtain ⟨_, _, e⟩ := List.mem_map.1 mem
      cases e
      rfl
    case h_2 => cases h
  | _ => cases h

theorem type_of_map {α : Type} {x : Except DecodeError α} {f : α → StoreSettings} {k : StoreType}
    (hf : ∀ a, (f a).type = k) (h : x.map f = .ok s) : s.type = k := by
  cases x with
  | error e => cases h
  | ok a =>
    obtain rfl := Except.ok.inj h
    exact hf a

theorem type_of_ofFields {k : StoreType} (h : ofFields fields k = .ok s) : s.type = k := by
  cases k <;> exact type_of_map (fun _ => rfl) h

theorem type_of_ofItems {items : List Json} {k : StoreType} (h : ofItems items k = .ok s) :
    s.type = k := by
  cases k <;> exact type_of_map (fun _ => rfl) h

/-- **The type of settings that were read** is the one that was named: under the field for the type
of an object, or in front of an array. -/
theorem tag_of_decode {j : Json} (h : decode j = .ok s) :
    (∃ fields, j = .object fields ∧ Keyed.get? fields tag = some s.type.toJson) ∨
      ∃ items, j = .array (s.type.toJson :: items) := by
  cases j with
  | object fields =>
    rw [decode] at h
    split at h
    case h_1 => cases h
    case h_2 j hj =>
      obtain ⟨k, hk, hs⟩ := bind_eq_ok_iff.1 h
      exact .inl ⟨fields, rfl, by rw [hj, eq_toJson_of_decodeTag hk, type_of_ofFields hs]⟩
  | array items =>
    cases items with
    | nil => cases h
    | cons j items =>
      obtain ⟨k, hk, hs⟩ := bind_eq_ok_iff.1 h
      exact .inr ⟨items, by rw [eq_toJson_of_decodeTag hk, type_of_ofItems hs]⟩
  | _ => cases h

/-! ## The law -/

/-- **Settings survive their JSON.** They are read back from their object, and from every object
that comes from it when fields of other names are added, whatever their values, and when fields that
hold the value of a missing field are left out. The type of settings that were read is always the
one that was named. -/
theorem settings_survive_json :
    (∀ s, decode s.toJson = .ok s) ∧
    (∀ (s : StoreSettings) (dropped : String → Bool) (added : List (String × Json)),
      (∀ p ∈ added, p.1 ≠ tag ∧ p.1 ∉ Keyed.names s.toFields) →
      (∀ p ∈ s.toFields, dropped p.1 → p ∈ defaults s.type) →
      decode (s.rewritten dropped added) = .ok s) ∧
    (∀ (j : Json) (s : StoreSettings), decode j = .ok s →
      (∃ fields, j = .object fields ∧ Keyed.get? fields tag = some s.type.toJson) ∨
        ∃ items, j = .array (s.type.toJson :: items)) := by
  refine ⟨fun s => ?whole, fun s dropped added hadded hdropped => decode_rewritten hadded hdropped,
    fun j s h => tag_of_decode h⟩
  have all : s.toFields.filter (fun _ => !false) = s.toFields :=
    List.filter_eq_self.2 fun _ _ => rfl
  have unchanged : s.toJson = s.rewritten (fun _ => false) [] := by
    rw [rewritten, all, List.append_nil, toJson]
  rw [unchanged]
  exact decode_rewritten (by simp) (by simp)

/-- The settings of a directory without its missing fields, and with fields of other types of
stores. -/
theorem sparse_directory_read :
    let s : StoreSettings := .ldap { url := some "ldap://a", bindDn := some "" }
    let added := [("working_directory", .null), ("Type", .array [.bool true, .object []])]
    let j := s.rewritten (fun n => n = "base_dn" || n = "bind_credential") added
    decode j = .ok s ∧
      ((∃ fields, j = .object fields ∧ Keyed.get? fields tag = some s.type.toJson) ∨
        ∃ items, j = .array (s.type.toJson :: items)) := by
  intro s added j
  have read : decode j = .ok s := settings_survive_json.2.1 s _ added
    (by simp [added, s, tag, Keyed.names, toFields, LdapSettings.toFields])
    (by simp [s, toFields, LdapSettings.toFields, type, defaults, Json.ofOption])
  exact ⟨read, settings_survive_json.2.2 j s read⟩

end StoreSettings

end IdentityStore
