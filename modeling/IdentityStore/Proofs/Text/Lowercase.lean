import IdentityStore.Text.Blank
import IdentityStore.Text.Lowercase

/-!
# Texts with a given lowercase

Lowercasing goes through the case data of the whole of Unicode. Where the result is a lowercase
ASCII text, the original can still hold a character from outside ASCII in one place only: the
lowercase of the Kelvin sign `U+212A` is the letter `k`.

* **Runs** (`offset_of_foreign_run`): a run of the case data that begins outside ASCII stays
  outside, the Kelvin sign apart. `lowerChar_of_foreign`: the same for one character.
* **Keywords** (`Keyword`): texts of small ASCII letters without the letter `k`.
* `lowercase_eq_iff`: the texts whose lowercase is a keyword are those that equal it up to the case
  of ASCII letters.
-/

namespace IdentityStore.Text

open Lowercase

/-! ## Characters from outside ASCII -/

/-- **A run that begins outside ASCII stays outside,** within the range of the characters. The only
run that leads back holds the Kelvin sign alone. -/
theorem offset_of_foreign_run : ∀ r ∈ lowercaseRuns, 128 ≤ r.first →
    r = ⟨0x212A, 0x212A, 1, -8383⟩ ∨
      128 ≤ r.first + r.offset ∧ (r.last + r.offset < 0xD800 ∨
        0xE000 ≤ r.first + r.offset ∧ r.last + r.offset < 0x110000) := by
  decide +kernel

theorem last_of_ascii_run : ∀ r ∈ lowercaseRuns, r.first < 128 → r.last < 128 := by
  decide +kernel

theorem toNat_ofNat_of_valid {n : Nat} (h : n < 0xD800 ∨ 0xE000 ≤ n ∧ n < 0x110000) :
    (Char.ofNat n).toNat = n := by
  have hvalid : n.isValidChar := h.imp_right fun ⟨hlo, hhi⟩ => ⟨by omega, hhi⟩
  rw [Char.ofNat, dif_pos hvalid]
  rfl

/-- **A character from outside ASCII** is the Kelvin sign, or its lowercase holds such a character
as well. -/
theorem lowerChar_of_foreign {c : Char} (h : 128 ≤ c.toNat) :
    lowerChar c = ['k'] ∨ ∃ d ∈ lowerChar c, 128 ≤ d.toNat := by
  unfold lowerChar
  split
  · exact .inr ⟨'\u0307', by decide, by decide⟩
  split
  · next r hr =>
    have hcovers := List.find?_some hr
    have hmem : r ∈ lowercaseRuns := List.mem_of_find?_eq_some hr
    simp only [Run.covers, Bool.and_eq_true, decide_eq_true_eq] at hcovers
    obtain ⟨⟨hfirst, hlast⟩, -⟩ := hcovers
    have hforeign : 128 ≤ r.first := by
      have := last_of_ascii_run r hmem
      omega
    rcases offset_of_foreign_run r hmem hforeign with rfl | ⟨hlow, hvalid⟩
    · have hkelvin : c.toNat = 0x212A := by
        simp only at hfirst hlast
        omega
      rw [hkelvin]
      exact .inl (by decide)
    · refine .inr ⟨_, List.mem_singleton_self _, ?_⟩
      rw [toNat_ofNat_of_valid (by omega)]
      omega
  · exact .inr ⟨c, List.mem_singleton_self c, h⟩

private theorem lowerAfter_of_foreign {c : Char} (h : 128 ≤ c.toNat) (before cs : List Char)
    (hc : c ∈ cs) :
    'k' ∈ lowerAfter before cs ∨ ∃ d ∈ lowerAfter before cs, 128 ≤ d.toNat := by
  induction cs generalizing before with
  | nil => cases hc
  | cons e rest ih =>
    rw [lowerAfter]
    rcases List.mem_cons.1 hc with rfl | hrest
    · split
      · -- both small sigmas are outside ASCII
        refine .inr ⟨_, List.mem_append_left _ (List.mem_singleton_self _), ?_⟩
        split <;> decide
      · rcases lowerChar_of_foreign h with hk | ⟨d, hd, hforeign⟩
        · exact .inl (List.mem_append_left _ (hk ▸ List.mem_singleton_self _))
        · exact .inr ⟨d, List.mem_append_left _ hd, hforeign⟩
    · rcases ih (e :: before) hrest with hk | ⟨d, hd, hforeign⟩
      · exact .inl (List.mem_append_right _ hk)
      · exact .inr ⟨d, List.mem_append_right _ hd, hforeign⟩

/-! ## Keywords -/

/-- A **keyword** is a text of small ASCII letters in which the letter `k` does not occur. -/
def Keyword (t : String) : Prop := ∀ c ∈ t.toList, c.isLower ∧ c ≠ 'k'

theorem toNat_lt_of_isLower {c : Char} (h : c.isLower) : c.toNat < 128 := by
  have hle : c.toNat ≤ 'z'.toNat := of_decide_eq_true (Bool.and_eq_true_iff.1 h).2
  exact Nat.lt_of_le_of_lt hle (by decide)

theorem toLower_of_isLower {c : Char} (h : c.isLower) : c.toLower = c :=
  forall_ascii (P := fun c => c.isLower → c.toLower = c) (by decide) (toNat_lt_of_isLower h) h

namespace Keyword

variable {s t : String}

theorem ascii (h : Keyword t) : ∀ c ∈ t.toList, c.toNat < 128 :=
  fun c hc => toNat_lt_of_isLower (h c hc).1

theorem map_toLower (h : Keyword t) : t.toList.map Char.toLower = t.toList :=
  (List.map_congr_left fun c hc => toLower_of_isLower (h c hc).1).trans (List.map_id _)

theorem lowercase_eq (h : Keyword t) : lowercase t = t := by
  rw [lowercase_of_ascii h.ascii, h.map_toLower, String.ofList_toList]

theorem ascii_and_not_blank (h : Keyword t) (hs : EqIgnoringCase s t) :
    ∀ c ∈ s.toList, c.toNat < 128 ∧ isBlank c = false := by
  intro c hc
  have hmem : c.toLower ∈ s.toList.map Char.toLower := List.mem_map_of_mem hc
  rw [hs, h.map_toLower] at hmem
  have hletter : c.toLower.isLower := (h _ hmem).1
  have hascii : c.toNat < 128 := toNat_toLower_lt_iff.1 (toNat_lt_of_isLower hletter)
  exact ⟨hascii, forall_ascii (P := fun c => c.toLower.isLower → isBlank c = false) (by decide)
    hascii hletter⟩

end Keyword

/-- **Nothing from outside ASCII can spell a keyword.** A text has the keyword as its lowercase
exactly when it equals the keyword up to the case of ASCII letters. -/
theorem lowercase_eq_iff {s t : String} (h : Keyword t) :
    lowercase s = t ↔ EqIgnoringCase s t := by
  constructor
  · intro hlower
    have hlist : lowerAfter [] s.toList = t.toList := by
      rw [← hlower, lowercase, String.toList_ofList]
    have hascii : ∀ c ∈ s.toList, c.toNat < 128 := by
      intro c hc
      refine Nat.lt_of_not_le fun hforeign => ?_
      rcases lowerAfter_of_foreign hforeign [] s.toList hc with hk | ⟨d, hd, hd'⟩
      · exact (h 'k' (hlist ▸ hk)).2 rfl
      · exact absurd (h.ascii d (hlist ▸ hd)) (by omega)
    rw [lowercase_of_ascii hascii] at hlower
    rw [EqIgnoringCase, h.map_toLower, ← hlower, String.toList_ofList]
  · intro hcase
    rw [lowercase_of_eqIgnoringCase h.ascii hcase, h.lowercase_eq]

end IdentityStore.Text
