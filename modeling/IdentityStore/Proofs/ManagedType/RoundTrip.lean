import IdentityStore.RelationshipType

/-!
# Types survive their texts and their JSON

However a managed type or a relationship type is come by, its name is in order, and the type is
recovered from its kind and name, from its text and from its JSON value.

* **Texts** (`ManagedType.parse_append`): a text is cut at its first colon, and the name of a kind
  holds none, so the name of a type may hold as many as it likes. `ManagedType.parse_display`: the
  text of a type denotes it.
* **JSON** (`ManagedType.decode_ofFields`): an object with a kind and a name is read as what the two
  make. `ManagedType.decode_toJson`: the JSON value of a type is read as the type.
* **Ways to come by a type** (`ManagedType.Obtained`, `RelationshipType.Obtained`). Each of them goes
  through `ManagedType.make` (`Obtained.exists_make`), which trims the name and refuses blanks.
* `identifiers_round_trip`: the law.
-/

namespace IdentityStore

open Json.Decoder (bind_eq_ok_iff ok_bind)
open Text (Trimmed trim)

namespace ManagedType

/-! ## Texts -/

/-- **A text is cut at its first colon.** -/
theorem parse_append {word : String} (h : ':' ∉ word.toList) (name : String) :
    parse (word ++ ":" ++ name) = TypeKind.parse word >>= fun kind => make kind name := by
  have htext : (word ++ ":" ++ name).toList = word.toList ++ ':' :: name.toList := by simp
  have hword : ∀ c ∈ word.toList, (c != ':') = true := by
    intro c hc
    have hne : c ≠ ':' := fun e => h (e ▸ hc)
    simpa using hne
  rw [parse, htext, List.dropWhile_append_of_pos hword, List.takeWhile_append_of_pos hword]
  simp

theorem parse_display (t : ManagedType) : parse t.display = .ok t := by
  rw [display, parse_append t.kind.colon_not_mem_name, TypeKind.parse_of_eqIgnoringCase rfl,
    ok_bind, make_name]

theorem exists_make_of_parse {text : String} {t : ManagedType} (h : parse text = .ok t) :
    ∃ name, make t.kind name = .ok t := by
  unfold parse at h
  split at h
  · cases h
  · next name _ =>
    obtain ⟨kind, -, hmake⟩ := bind_eq_ok_iff.1 h
    obtain ⟨rfl, -⟩ := make_eq_ok_iff.1 hmake
    exact ⟨_, hmake⟩

/-! ## JSON -/

/-- **An object with a kind and a name** is read as what the two make. -/
theorem decode_ofFields (kind : TypeKind) (name : String) :
    decode (.ofFields [("kind", kind.toJson), ("name", .string name)]) =
      Json.Decoder.refuse (make kind name) := by
  have hordered : Json.Ordered [("kind", kind.toJson), ("name", .string name)] := by
    change ["kind", "name"].Pairwise (· < ·)
    decide
  have hfields : reader.decode (.object [("kind", kind.toJson), ("name", .string name)]) =
      .ok (kind, name) := by
    simp only [Json.RecordReader.decode, reader, Json.Decoder.field?, Keyed.get?_cons,
      String.reduceEq, if_true, if_false, TypeKind.decode_toJson]
    rfl
  rw [Json.ofFields_of_ordered hordered, decode, hfields, ok_bind]

theorem decode_toJson (t : ManagedType) : decode t.toJson = .ok t := by
  rw [toJson, decode_ofFields, make_name]
  rfl

theorem exists_make_of_decode {j : Json} {t : ManagedType} (h : decode j = .ok t) :
    ∃ name, make t.kind name = .ok t := by
  obtain ⟨⟨kind, name⟩, -, hrefuse⟩ := bind_eq_ok_iff.1 h
  have hmake : make kind name = .ok t := Json.Decoder.refuse_eq_ok_iff.1 hrefuse
  obtain ⟨rfl, -⟩ := make_eq_ok_iff.1 hmake
  exact ⟨name, hmake⟩

end ManagedType

namespace RelationshipType

theorem parse_display (r : RelationshipType) : parse r.display = .ok r := by
  rw [parse, display, ManagedType.parse_display]
  exact ofManagedType_managedType r

theorem decode_toJson (r : RelationshipType) : decode r.toJson = .ok r := by
  rw [decode, toJson, ManagedType.decode_toJson]
  exact congrArg Json.Decoder.refuse (ofManagedType_managedType r)

end RelationshipType

/-! ## Ways to come by a type -/

mutual

/-- The managed types that can be come by. -/
inductive ManagedType.Obtained : ManagedType → Prop where
  | make {kind : TypeKind} {name : String} {t : ManagedType}
      (made : ManagedType.make kind name = .ok t) : t.Obtained
  | parse {text : String} {t : ManagedType} (parsed : ManagedType.parse text = .ok t) : t.Obtained
  | builtin {t : ManagedType} (mem : t ∈ ManagedType.defaults) : t.Obtained
  /-- From any JSON value that is read as a type, whatever its shape. -/
  | decode {j : Json} {t : ManagedType} (decoded : ManagedType.decode j = .ok t) : t.Obtained
  | unwrap {r : RelationshipType} (obtained : r.Obtained) : r.managedType.Obtained

/-- The relationship types that can be come by. -/
inductive RelationshipType.Obtained : RelationshipType → Prop where
  | make {name : String} {r : RelationshipType} (made : RelationshipType.make name = .ok r) :
      r.Obtained
  | generic : RelationshipType.generic.Obtained
  | ofManagedType {t : ManagedType} {r : RelationshipType} (obtained : t.Obtained)
      (converted : RelationshipType.ofManagedType t = .ok r) : r.Obtained
  | decode {j : Json} {r : RelationshipType} (decoded : RelationshipType.decode j = .ok r) :
      r.Obtained

end

theorem RelationshipType.exists_make_of_ofManagedType {t : ManagedType} {r : RelationshipType}
    (converted : ofManagedType t = .ok r) (made : ∃ name, ManagedType.make t.kind name = .ok t) :
    ∃ name, ManagedType.make .relationship name = .ok r.managedType := by
  obtain rfl := ofManagedType_eq_ok_iff.1 converted
  obtain ⟨name, hmake⟩ := made
  exact ⟨name, r.isRelationship ▸ hmake⟩

mutual

/-- **Every way to a managed type makes it** from its kind and some name. -/
theorem ManagedType.Obtained.exists_make {t : ManagedType} :
    t.Obtained → ∃ name, ManagedType.make t.kind name = .ok t
  | .make made => by
    obtain ⟨rfl, -⟩ := ManagedType.make_eq_ok_iff.1 made
    exact ⟨_, made⟩
  | .parse parsed => ManagedType.exists_make_of_parse parsed
  | .builtin _ => ⟨t.name, t.make_name⟩
  | .decode decoded => ManagedType.exists_make_of_decode decoded
  | .unwrap obtained => by
    obtain ⟨name, hmake⟩ := obtained.exists_make
    obtain ⟨hkind, -⟩ := ManagedType.make_eq_ok_iff.1 hmake
    exact ⟨name, hkind ▸ hmake⟩

theorem RelationshipType.Obtained.exists_make {r : RelationshipType} :
    r.Obtained → ∃ name, ManagedType.make .relationship name = .ok r.managedType
  | .make made => by
    obtain ⟨t, hmake, hconvert⟩ := bind_eq_ok_iff.1 made
    exact ⟨_, RelationshipType.ofManagedType_eq_ok_iff.1 hconvert ▸ hmake⟩
  | .generic => ⟨_, ManagedType.relationship.make_name⟩
  | .ofManagedType obtained converted =>
    RelationshipType.exists_make_of_ofManagedType converted obtained.exists_make
  | .decode decoded => by
    obtain ⟨t, hdecode, hrefuse⟩ := bind_eq_ok_iff.1 decoded
    exact RelationshipType.exists_make_of_ofManagedType (Json.Decoder.refuse_eq_ok_iff.1 hrefuse)
      (ManagedType.exists_make_of_decode hdecode)

end

/-- **Types survive.** The name of a managed type that can be come by is not empty, and no blank
stands at its ends. The type is made again from its kind and its name, is the one that its text
denotes, and is read from its JSON value; so no two types have one text. A relationship type that
can be come by is of relationship kind and survives its JSON value and its text likewise. -/
theorem identifiers_round_trip :
    (∀ t : ManagedType, t.Obtained →
      (t.name ≠ "" ∧ Trimmed t.name) ∧ ManagedType.make t.kind t.name = .ok t ∧
        ManagedType.parse t.display = .ok t ∧ ManagedType.decode t.toJson = .ok t) ∧
    (∀ t u : ManagedType, t.display = u.display → t = u) ∧
    ∀ r : RelationshipType, r.Obtained →
      r.managedType.kind = .relationship ∧ RelationshipType.decode r.toJson = .ok r ∧
        (ManagedType.parse r.display >>= RelationshipType.ofManagedType) = .ok r := by
  refine ⟨fun t ht => ?_, fun t u h => ?_, fun r hr => ?_⟩
  · obtain ⟨name, hmake⟩ := ht.exists_make
    obtain ⟨-, hname⟩ := ManagedType.make_eq_ok_iff.1 hmake
    have htrimmed : Trimmed t.name := hname ▸ Text.trimmed_trim name
    exact ⟨⟨t.nonempty, htrimmed⟩, t.make_name, t.parse_display, t.decode_toJson⟩
  · have hparse : (.ok t : Except Error ManagedType) = .ok u := by
      rw [← t.parse_display, h, u.parse_display]
    exact Except.ok.inj hparse
  · obtain ⟨name, hmake⟩ := hr.exists_make
    exact ⟨(ManagedType.make_eq_ok_iff.1 hmake).1, r.decode_toJson, r.parse_display⟩

/-- A type whose name holds a colon and blanks, from a text, and a relationship type from an
array. -/
theorem round_trip_of_colon_in_name :
    let t : ManagedType := ⟨.identity, "a:b c", by decide, by decide⟩
    let r : RelationshipType := ⟨⟨.relationship, "Grant", by decide, by decide⟩, rfl⟩
    let j : Json := .array [.object [("relationship", .null)], .string "\u2003Grant "]
    (ManagedType.parse "IDENTITY: a:b c\u00a0" = .ok t ∧ t.Obtained ∧
      ManagedType.parse "identity:a:b c" = .ok t ∧ ManagedType.decode t.toJson = .ok t) ∧
    (RelationshipType.decode j = .ok r ∧ r.Obtained ∧ RelationshipType.decode r.toJson = .ok r) ∧
    ∀ u : ManagedType, u.display = "identity:a:b c" → u = t := by
  intro t r j
  obtain ⟨htypes, htexts, hrelationships⟩ := identifiers_round_trip
  have hparsed : ManagedType.parse "IDENTITY: a:b c\u00a0" = .ok t :=
    calc ManagedType.parse "IDENTITY: a:b c\u00a0"
        = ManagedType.parse ("IDENTITY" ++ ":" ++ " a:b c\u00a0") := rfl
      _ = ManagedType.make .identity " a:b c\u00a0" := by
        rw [ManagedType.parse_append (by decide),
          TypeKind.parse_of_eqIgnoringCase (k := .identity) (by decide)]
        rfl
      _ = .ok t := ManagedType.make_eq_ok_iff.2 ⟨rfl, by decide⟩
  have hdecoded : RelationshipType.decode j = .ok r := by rfl
  obtain ⟨-, -, htext, hjson⟩ := htypes t (.parse hparsed)
  obtain ⟨-, hback, -⟩ := hrelationships r (.decode hdecoded)
  exact ⟨⟨hparsed, .parse hparsed, htext, hjson⟩, ⟨hdecoded, .decode hdecoded, hback⟩,
    fun u hu => htexts u t hu⟩

end IdentityStore
