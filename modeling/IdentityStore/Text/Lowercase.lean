import IdentityStore.Text.Lowercase.Table

/-!
# Lowercasing

Full lowercasing of a text, as the Unicode standard defines it without a language: every
character becomes its lowercase, the capital I with a dot above becomes two characters, and a
capital sigma at the end of a word becomes the final small sigma.
-/

namespace IdentityStore.Text

open Lowercase

def isCased (c : Char) : Bool := casedRanges.any (·.covers c.toNat)

def isCaseIgnorable (c : Char) : Bool := caseIgnorableRanges.any (·.covers c.toNat)

/-- Whether the first character that is not case-ignorable is there and is cased. -/
def meetsCased (cs : List Char) : Bool :=
  match cs.dropWhile isCaseIgnorable with
  | [] => false
  | c :: _ => isCased c

def lowerChar (c : Char) : List Char :=
  if c = '\u0130' then ['i', '\u0307']
  else match lowercaseRuns.find? (·.covers c.toNat) with
    | some r => [Char.ofNat (c.toNat + r.offset).toNat]
    | none => [c]

/-- The lowercase of the characters that follow `before`, which is held backwards. A capital
sigma is **final** when a cased character comes before it and none after it, the case-ignorable
characters in between apart. -/
def lowerAfter (before : List Char) : List Char → List Char
  | [] => []
  | c :: rest =>
    (if c = 'Σ' then [if meetsCased before && !meetsCased rest then 'ς' else 'σ']
     else lowerChar c) ++ lowerAfter (c :: before) rest

def lowercase (s : String) : String := .ofList (lowerAfter [] s.toList)

/-! ## ASCII -/

theorem forall_ascii {P : Char → Prop} (h : ∀ n : Fin 128, P (Char.ofNat n)) {c : Char}
    (hc : c.toNat < 128) : P c := by
  have hP := h ⟨c.toNat, hc⟩
  rwa [show Char.ofNat (⟨c.toNat, hc⟩ : Fin 128) = c from Char.ofNat_toNat c] at hP

/-- **On ASCII only the capital letters change.** -/
theorem lowerChar_of_ascii {c : Char} (h : c.toNat < 128) : lowerChar c = [c.toLower] :=
  forall_ascii (P := fun c => lowerChar c = [c.toLower]) (by decide +kernel) h

private theorem lowerAfter_of_ascii (before cs : List Char) (h : ∀ c ∈ cs, c.toNat < 128) :
    lowerAfter before cs = cs.map Char.toLower := by
  induction cs generalizing before with
  | nil => rfl
  | cons c r ih =>
    have hc := h c (by simp)
    have hs : c ≠ 'Σ' := by
      rintro rfl
      exact absurd hc (by decide)
    simp [lowerAfter, hs, lowerChar_of_ascii hc, ih _ (fun d hd => h d (by simp [hd]))]

theorem lowercase_of_ascii {s : String} (h : ∀ c ∈ s.toList, c.toNat < 128) :
    lowercase s = .ofList (s.toList.map Char.toLower) := by
  rw [lowercase, lowerAfter_of_ascii [] _ h]

/-- Two texts are equal up to the case of ASCII letters. -/
def EqIgnoringCase (s t : String) : Prop :=
  s.toList.map Char.toLower = t.toList.map Char.toLower

instance (s t : String) : Decidable (EqIgnoringCase s t) :=
  inferInstanceAs (Decidable (_ = _))

theorem toNat_toLower_lt_iff {c : Char} : c.toLower.toNat < 128 ↔ c.toNat < 128 := by
  constructor
  · intro h
    by_cases hupper : 'A'.val ≤ c.val ∧ c.val ≤ 'Z'.val
    · have hle : c.toNat ≤ 'Z'.toNat := hupper.2
      exact Nat.lt_of_le_of_lt hle (by decide)
    · have hsame : c.toLower = c := dif_neg hupper
      rwa [hsame] at h
  · exact forall_ascii (P := fun c => c.toLower.toNat < 128) (by decide)

/-- **A text that equals an ASCII text up to case** has the same lowercase. No character from
outside ASCII can stand in for a letter. -/
theorem lowercase_of_eqIgnoringCase {s t : String} (ht : ∀ c ∈ t.toList, c.toNat < 128)
    (h : EqIgnoringCase s t) : lowercase s = lowercase t := by
  have hs : ∀ c ∈ s.toList, c.toNat < 128 := by
    intro c hc
    have hmem : c.toLower ∈ t.toList.map Char.toLower := h ▸ List.mem_map_of_mem hc
    obtain ⟨d, hd, hdc⟩ := List.mem_map.1 hmem
    exact toNat_toLower_lt_iff.1 (hdc ▸ toNat_toLower_lt_iff.2 (ht d hd))
  rw [lowercase_of_ascii hs, lowercase_of_ascii ht, h]

end IdentityStore.Text
