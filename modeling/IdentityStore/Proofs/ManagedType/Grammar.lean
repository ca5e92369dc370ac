import IdentityStore.Operation
import IdentityStore.Proofs.ManagedType.RoundTrip
import IdentityStore.Proofs.Text.Lowercase
import Mathlib.Logic.Function.Defs

/-!
# The grammar of identifier texts

Which texts are read as a kind of type, as an operation and as a managed type, and what is said
about all the others.

* **Names** (`ReadsNames`): a reader of names takes the texts that equal one of the names up to the
  case of ASCII letters. `readsNames_of_find?`: lowercasing a text and looking it up among keywords
  is such a reader. `TypeKind.readsNames_parse`, `Operation.readsNames_parse`: the two readers.
* **Managed types** (`ManagedType.parse_eq_ok_iff`, `ManagedType.parse_eq_error_iff`): the text is
  cut at its first colon, the kind is read before the name, and the name is trimmed.
* `identifier_grammar`: the law.
-/

namespace IdentityStore

open Json.Decoder (bind_eq_ok_iff ok_bind)
open Text (EqIgnoringCase Keyword Pads Trimmed isBlank lowercase trim)

/-! ## Names -/

/-- A reader of names. -/
structure ReadsNames {α : Type} (name : α → String) (unknown : String → ArgumentFault)
    (lead : String) (parse : String → Except Error α) : Prop where
  /-- Taken are the texts as long as a name that equal it up to the case of ASCII letters. -/
  ok_iff : ∀ text a, parse text = .ok a ↔
    text.length = (name a).length ∧ EqIgnoringCase text (name a)
  /-- Every other text is refused, and the error holds its lowercase. -/
  error_iff : ∀ text e, parse text = .error e ↔
    (∀ a, ¬ EqIgnoringCase text (name a)) ∧ e = .invalidArgument (unknown (lowercase text))
  /-- The lowercase stands in the wording of the error between quotes. -/
  message : ∀ word, (Error.invalidArgument (unknown word)).message =
    "Invalid argument: " ++ (lead ++ " '" ++ word ++ "'")
  /-- No character from outside ASCII and no blank is taken anywhere in a text. -/
  plain : ∀ text a, parse text = .ok a → ∀ c ∈ text.toList, c.toNat < 128 ∧ isBlank c = false

/-- **A text is looked up by its lowercase.** If the names are keywords, the texts that are found
are those that equal a name up to the case of ASCII letters. -/
theorem readsNames_of_find? {α : Type} (all : List α) {name : α → String}
    {unknown : String → ArgumentFault} {lead : String} {parse : String → Except Error α}
    (complete : ∀ a, a ∈ all) (injective : Function.Injective name)
    (keyword : ∀ a, Keyword (name a))
    (found : ∀ text a, all.find? (fun b => name b == lowercase text) = some a → parse text = .ok a)
    (missing : ∀ text, all.find? (fun b => name b == lowercase text) = none →
      parse text = .error (.invalidArgument (unknown (lowercase text))))
    (message : ∀ word, (unknown word).message = lead ++ " '" ++ word ++ "'") :
    ReadsNames name unknown lead parse := by
  have hcase : ∀ {text a}, EqIgnoringCase text (name a) ↔ lowercase text = name a :=
    fun {_ a} => (Text.lowercase_eq_iff (keyword a)).symm
  have outcome : ∀ text, (∃ a, lowercase text = name a ∧ parse text = .ok a) ∨
      (∀ a, lowercase text ≠ name a) ∧
        parse text = .error (.invalidArgument (unknown (lowercase text))) := by
    intro text
    cases hfind : all.find? fun b => name b == lowercase text with
    | none =>
      refine .inr ⟨fun a ha => ?_, missing text hfind⟩
      simpa [ha] using List.find?_eq_none.1 hfind a (complete a)
    | some a =>
      have hbeq := List.find?_some hfind
      exact .inl ⟨a, (beq_iff_eq.1 hbeq).symm, found text a hfind⟩
  have hok : ∀ {text a}, parse text = .ok a ↔ EqIgnoringCase text (name a) := by
    intro text a
    rw [hcase]
    rcases outcome text with ⟨b, hb, hparse⟩ | ⟨hnone, hparse⟩
    · rw [hparse, hb, injective.eq_iff, Except.ok.injEq]
    · rw [hparse]
      exact ⟨nofun, fun h => absurd h (hnone a)⟩
  refine ⟨fun text a => ?_, fun text e => ?_, fun word => ?_, fun text a h => ?_⟩
  · rw [hok]
    refine ⟨fun h => ⟨?_, h⟩, And.right⟩
    have hlength := congrArg List.length h
    rwa [List.length_map, List.length_map, String.length_toList, String.length_toList] at hlength
  · rcases outcome text with ⟨b, hb, hparse⟩ | ⟨hnone, hparse⟩
    · rw [hparse]
      exact ⟨nofun, fun h => absurd (hcase.2 hb) (h.1 b)⟩
    · rw [hparse]
      constructor
      · intro h
        exact ⟨fun a ha => hnone a (hcase.1 ha), (Except.error.inj h).symm⟩
      · rintro ⟨-, rfl⟩
        rfl
  · exact congrArg ("Invalid argument: " ++ ·) (message word)
  · exact (keyword a).ascii_and_not_blank (hok.1 h)

theorem TypeKind.readsNames_parse :
    ReadsNames TypeKind.name .unknownTypeKind "unknown type kind" TypeKind.parse := by
  refine readsNames_of_find? TypeKind.all ?_ ?_ ?_ ?_ ?_ fun _ => rfl
  · intro k
    cases k <;> decide
  · intro k l h
    cases k <;> cases l <;> simp_all [TypeKind.name]
  · intro k
    cases k <;> simp [Keyword, TypeKind.name]
  · intro text k h
    simp only [TypeKind.parse, h]
  · intro text h
    simp only [TypeKind.parse, h]

theorem Operation.readsNames_parse :
    ReadsNames Operation.name .unknownOperation "unknown identity operation" Operation.parse := by
  refine readsNames_of_find? Operation.all ?_ ?_ ?_ ?_ ?_ fun _ => rfl
  · intro o
    cases o <;> decide
  · intro o p h
    cases o <;> cases p <;> simp_all [Operation.name]
  · intro o
    cases o <;> simp [Keyword, Operation.name]
  · intro text o h
    simp only [Operation.parse, h]
  · intro text h
    simp only [Operation.parse, h]

/-! ## Managed types -/

namespace ManagedType

variable {text word rest : String}

/-- The parts of a text before and behind its first colon. -/
structure CutAtColon (text word rest : String) : Prop where
  eq : text = word ++ ":" ++ rest
  first : ':' ∉ word.toList

theorem exists_cutAtColon (h : ':' ∈ text.toList) : ∃ word rest, CutAtColon text word rest := by
  obtain ⟨word, rest, htext, hword⟩ := List.eq_append_cons_of_mem h
  refine ⟨.ofList word, .ofList rest, ?_, by simpa using hword⟩
  rw [← String.toList_inj, htext]
  simp

theorem CutAtColon.parse_eq (h : CutAtColon text word rest) :
    parse text = TypeKind.parse word >>= fun kind => make kind rest := by
  rw [h.eq, parse_append h.first]

theorem CutAtColon.mem (h : CutAtColon text word rest) : ':' ∈ text.toList := by
  rw [h.eq]
  simp

theorem parse_of_not_mem (h : ':' ∉ text.toList) :
    parse text = .error (.invalidArgument (.notKindAndName text)) := by
  have hnone : text.toList.dropWhile (· != ':') = [] := by
    have hne : ∀ c ∈ text.toList, (c != ':') = true := by
      intro c hc
      have hc' : c ≠ ':' := fun e => h (e ▸ hc)
      simpa using hc'
    rw [← List.append_nil text.toList, List.dropWhile_append_of_pos hne, List.dropWhile_nil]
  rw [parse, hnone]

/-- **The texts that denote a type.** The name is what the first colon leaves, without the blanks
at its ends. -/
theorem parse_eq_ok_iff {kind : TypeKind} {name : String} :
    (∃ t, parse text = .ok t ∧ t.kind = kind ∧ t.name = name) ↔
      ∃ word rest, CutAtColon text word rest ∧ TypeKind.parse word = .ok kind ∧
        name ≠ "" ∧ Trimmed name ∧ Pads rest name := by
  constructor
  · rintro ⟨t, hparse, rfl, rfl⟩
    by_cases hcolon : ':' ∈ text.toList
    · obtain ⟨word, rest, hcut⟩ := exists_cutAtColon hcolon
      rw [hcut.parse_eq] at hparse
      obtain ⟨kind, hkind, hmake⟩ := bind_eq_ok_iff.1 hparse
      obtain ⟨rfl, hname⟩ := make_eq_ok_iff.1 hmake
      exact ⟨word, rest, hcut, hkind, t.nonempty, Text.trim_eq_iff.1 hname.symm⟩
    · rw [parse_of_not_mem hcolon] at hparse
      cases hparse
  · rintro ⟨word, rest, hcut, hkind, hnonempty, htrimmed, hpads⟩
    refine ⟨⟨kind, name, htrimmed, hnonempty⟩, ?_, rfl, rfl⟩
    rw [hcut.parse_eq, hkind, ok_bind]
    exact make_eq_ok_iff.2 ⟨rfl, (Text.trim_eq_iff.2 ⟨htrimmed, hpads⟩).symm⟩

/-- **The texts that denote no type,** in the order in which the faults are looked for: the missing
colon, the kind, the blank name. -/
theorem parse_eq_error_iff {e : Error} :
    parse text = .error e ↔
      (':' ∉ text.toList ∧ e = .invalidArgument (.notKindAndName text)) ∨
      ∃ word rest, CutAtColon text word rest ∧
        (TypeKind.parse word = .error e ∨
          (∃ kind, TypeKind.parse word = .ok kind) ∧ (∀ c ∈ rest.toList, isBlank c) ∧
            e = .invalidArgument .blankTypeName) := by
  by_cases hcolon : ':' ∈ text.toList
  · constructor
    · intro h
      obtain ⟨word, rest, hcut⟩ := exists_cutAtColon hcolon
      rw [hcut.parse_eq] at h
      refine .inr ⟨word, rest, hcut, ?_⟩
      cases hkind : TypeKind.parse word with
      | error f =>
        rw [hkind] at h
        exact .inl (congrArg Except.error (Except.error.inj h))
      | ok kind =>
        rw [hkind, ok_bind] at h
        exact .inr ⟨⟨kind, rfl⟩, make_eq_error_iff.1 h⟩
    · rintro (⟨hnone, -⟩ | ⟨word, rest, hcut, hkind | ⟨⟨kind, hkind⟩, hblank⟩⟩)
      · exact absurd hcolon hnone
      · rw [hcut.parse_eq, hkind]
        rfl
      · rw [hcut.parse_eq, hkind, ok_bind]
        exact make_eq_error_iff.2 hblank
  · rw [parse_of_not_mem hcolon]
    constructor
    · rintro ⟨⟩
      exact .inl ⟨hcolon, rfl⟩
    · rintro (⟨-, rfl⟩ | ⟨word, rest, hcut, -⟩)
      · rfl
      · exact absurd hcut.mem hcolon

end ManagedType

/-- **The grammar of identifier texts.** A kind and an operation are read from the texts that equal
their name up to the case of ASCII letters, and from no others; what is refused is shown in
lowercase. A managed type is read from a text with a colon: what stands before the first one is read
as the kind, and what stands behind it, without the blanks at its ends, is the name. Without a colon
the form of the text is refused, next an unknown kind, even before a blank name, and last a blank
name. -/
theorem identifier_grammar :
    ReadsNames TypeKind.name .unknownTypeKind "unknown type kind" TypeKind.parse ∧
    ReadsNames Operation.name .unknownOperation "unknown identity operation" Operation.parse ∧
    (∀ text kind name,
      (∃ t, ManagedType.parse text = .ok t ∧ t.kind = kind ∧ t.name = name) ↔
        ∃ word rest, ManagedType.CutAtColon text word rest ∧ TypeKind.parse word = .ok kind ∧
          name ≠ "" ∧ Trimmed name ∧ Pads rest name) ∧
    ∀ text e, ManagedType.parse text = .error e ↔
      (':' ∉ text.toList ∧ e = .invalidArgument (.notKindAndName text)) ∨
      ∃ word rest, ManagedType.CutAtColon text word rest ∧
        (TypeKind.parse word = .error e ∨
          (∃ kind, TypeKind.parse word = .ok kind) ∧ (∀ c ∈ rest.toList, isBlank c) ∧
            e = .invalidArgument .blankTypeName) :=
  ⟨TypeKind.readsNames_parse, Operation.readsNames_parse,
    fun _ _ _ => ManagedType.parse_eq_ok_iff, fun _ _ => ManagedType.parse_eq_error_iff⟩

/-- Capital letters are taken, foreign letters are not, however they look in lowercase, and of two
faults in one text the kind is told. -/
theorem grammar_of_foreign_letters :
    Operation.parse "dElEtE" = .ok .delete ∧
    TypeKind.parse "\u0130dentity" =
      .error (.invalidArgument (.unknownTypeKind "i\u0307dentity")) ∧
    (∃ t, ManagedType.parse "PARTITION:\u2003a:b " = .ok t ∧ t.kind = .partition ∧
      t.name = "a:b") ∧
    ManagedType.parse "identity :" = .error (.invalidArgument (.unknownTypeKind "identity ")) ∧
    ManagedType.parse "identity:\u2003" = .error (.invalidArgument .blankTypeName) := by
  obtain ⟨hkinds, hoperations, hok, herror⟩ := identifier_grammar
  have hidentity : TypeKind.parse "identity" = .ok .identity :=
    (hkinds.ok_iff _ _).2 (by decide)
  have hpadded : TypeKind.parse "identity " =
      .error (.invalidArgument (.unknownTypeKind "identity ")) :=
    (hkinds.error_iff _ _).2 ⟨fun k => by cases k <;> decide, by decide +kernel⟩
  refine ⟨(hoperations.ok_iff _ _).2 (by decide), ?_, ?_, ?_, ?_⟩
  · exact (hkinds.error_iff _ _).2 ⟨fun k => by cases k <;> decide, by decide +kernel⟩
  · exact (hok _ _ _).2 ⟨"PARTITION", "\u2003a:b ", ⟨rfl, by decide⟩,
      (hkinds.ok_iff _ _).2 (by decide), by decide, by decide, "\u2003", " ", rfl,
      by simp [isBlank], by simp [isBlank]⟩
  · exact (herror _ _).2 (.inr ⟨"identity ", "", ⟨rfl, by decide⟩, .inl hpadded⟩)
  · exact (herror _ _).2 (.inr ⟨"identity", "\u2003", ⟨rfl, by decide⟩,
      .inr ⟨⟨_, hidentity⟩, by simp [isBlank], rfl⟩⟩)

end IdentityStore
