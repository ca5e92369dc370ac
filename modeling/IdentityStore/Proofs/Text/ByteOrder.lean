import Mathlib.Tactic.SplitIfs

/-!
# The order of texts is the order of their bytes

Texts are compared character by character, and the bytes that write them in UTF-8 byte by byte. Both
orders are the same, because of how a character is written: its first byte tells how many bytes
follow and holds the highest bits, and the bytes that follow hold the lower bits, six in each.

* **One character** (`utf8EncodeChar_eq`): the first byte (`lead`) and the digits to base 64 that
  follow it (`digits`).
* `utf8EncodeChar_append_lt`: of two characters, the smaller one has the smaller bytes, whatever
  follows. Either the first bytes tell them apart (`lead_lt_of_width_ne`), or they have the same
  width and the digits do (`digits_append_lt`).
* `bytes_lt_iff`: the law for texts.
-/

namespace IdentityStore.Text.Utf8

open String (utf8EncodeChar)

/-! ## One character -/

/-- How many bytes follow the first byte of a code point. -/
def width (v : Nat) : Nat :=
  if v ≤ 0x7F then 0 else if v ≤ 0x7FF then 1 else if v ≤ 0xFFFF then 2 else 3

/-- What the first byte has set to tell how many bytes follow. -/
def mark : Nat → Nat
  | 0 => 0
  | 1 => 0xC0
  | 2 => 0xE0
  | _ => 0xF0

/-- A number without its last digits to base 64. -/
def high : Nat → Nat → Nat
  | 0, v => v
  | k + 1, v => high k (v / 64)

/-- The last digits of a number to base 64, each in a byte. -/
def digits : Nat → Nat → List UInt8
  | 0, _ => []
  | k + 1, v => digits k (v / 64) ++ [.ofNat (v % 64 + 0x80)]

/-- The first byte of a code point. -/
def lead (v : Nat) : Nat := high (width v) v + mark (width v)

theorem toNat_lt (c : Char) : c.toNat < 0x110000 := by
  rcases c.valid with h | ⟨-, h⟩
  · exact Nat.lt_trans h (by decide)
  · exact h

theorem lead_lt_size {v : Nat} (h : v < 0x110000) : lead v < 0x100 := by
  unfold lead width
  split_ifs <;> simp only [high, mark] <;> omega

/-- **The bytes of a character** are its first byte and the digits that follow. -/
theorem utf8EncodeChar_eq (c : Char) :
    utf8EncodeChar c = .ofNat (lead c.toNat) :: digits (width c.toNat) c.toNat := by
  have hc : c.val.toNat < 0x110000 := toNat_lt c
  unfold utf8EncodeChar lead Char.toNat
  generalize c.val.toNat = v at *
  dsimp only
  unfold width
  -- the bits that the highest digit is cut to are all that it has
  split_ifs
  · rfl
  · simp only [high, mark, digits, List.nil_append]
    rw [Nat.mod_eq_of_lt (b := 0x20) (by omega)]
  · simp only [high, mark, digits, List.nil_append, List.singleton_append, Nat.div_div_eq_div_mul,
      Nat.reduceMul]
    rw [Nat.mod_eq_of_lt (b := 0x10) (by omega)]
  · simp only [high, mark, digits, List.nil_append, List.cons_append, Nat.div_div_eq_div_mul,
      Nat.reduceMul]
    rw [Nat.mod_eq_of_lt (b := 0x08) (by omega)]

/-! ## Two characters -/

variable {v w : Nat}

theorem high_mono {k : Nat} (h : v ≤ w) : high k v ≤ high k w := by
  induction k generalizing v w with
  | zero => exact h
  | succ k ih => exact ih (Nat.div_le_div_right h)

theorem lead_lt_of_width_ne (h : v < w) (hwidth : width v ≠ width w) : lead v < lead w := by
  revert hwidth
  unfold lead width
  split_ifs <;> simp only [high, mark] <;> omega

theorem digits_append_lt {k : Nat} (h : v < w) (hhigh : high k v = high k w) (s t : List UInt8) :
    digits k v ++ s < digits k w ++ t := by
  induction k generalizing v w s t with
  | zero => exact absurd hhigh (Nat.ne_of_lt h)
  | succ k ih =>
    simp only [digits, List.append_assoc, List.singleton_append]
    by_cases hdiv : v / 64 = w / 64
    · -- only the last digits differ
      rw [hdiv]
      refine List.append_left_lt (List.cons_lt_cons_iff.2 (.inl ?_))
      rw [UInt8.lt_iff_toNat_lt, UInt8.toNat_ofNat', UInt8.toNat_ofNat']
      omega
    · exact ih (by omega) hhigh _ _

/-- **The smaller character has the smaller bytes,** whatever follows them. -/
theorem utf8EncodeChar_append_lt {c d : Char} (h : c < d) (s t : List UInt8) :
    utf8EncodeChar c ++ s < utf8EncodeChar d ++ t := by
  have hcd : c.toNat < d.toNat := h
  have hlead : ∀ e : Char, (UInt8.ofNat (lead e.toNat)).toNat = lead e.toNat := fun e => by
    rw [UInt8.toNat_ofNat', Nat.mod_eq_of_lt (lead_lt_size (toNat_lt e))]
  rw [utf8EncodeChar_eq, utf8EncodeChar_eq]
  refine List.cons_lt_cons_iff.2 ?_
  rw [UInt8.lt_iff_toNat_lt, ← UInt8.toNat_inj, hlead, hlead]
  by_cases hwidth : width c.toNat = width d.toNat
  · rw [lead, lead, hwidth]
    have hle : high (width d.toNat) c.toNat ≤ high (width d.toNat) d.toNat :=
      high_mono (Nat.le_of_lt hcd)
    rcases Nat.lt_or_eq_of_le hle with hlt | heq
    · exact .inl (Nat.add_lt_add_right hlt _)
    · exact .inr ⟨by rw [heq], digits_append_lt hcd heq s t⟩
  · exact .inl (lead_lt_of_width_ne hcd hwidth)

/-! ## Texts -/

/-- The bytes of a text. -/
def bytes (s : String) : List UInt8 := s.toUTF8.data.toList

theorem bytes_eq_flatMap (s : String) : bytes s = s.toList.flatMap utf8EncodeChar := by
  have h : s.toByteArray = s.toList.utf8Encode := by
    rw [← String.toByteArray_ofList, String.ofList_toList]
  rw [bytes, String.toUTF8_eq_toByteArray, h, List.utf8Encode, List.toList_data_toByteArray]

theorem flatMap_utf8EncodeChar_lt {l m : List Char} (h : l < m) :
    l.flatMap utf8EncodeChar < m.flatMap utf8EncodeChar := by
  induction h with
  | nil =>
    rw [List.flatMap_nil, List.flatMap_cons, utf8EncodeChar_eq]
    exact List.nil_lt_cons _ _
  | rel hlt =>
    rw [List.flatMap_cons, List.flatMap_cons]
    exact utf8EncodeChar_append_lt hlt _ _
  | cons _ ih =>
    rw [List.flatMap_cons, List.flatMap_cons]
    exact List.append_left_lt ih

theorem bytes_lt_of_lt {s t : String} (h : s < t) : bytes s < bytes t := by
  rw [bytes_eq_flatMap, bytes_eq_flatMap]
  exact flatMap_utf8EncodeChar_lt h

/-- **The order of texts is the order of their bytes.** -/
theorem bytes_lt_iff {s t : String} : bytes s < bytes t ↔ s < t := by
  refine ⟨fun h => String.not_le.1 fun hle => ?_, bytes_lt_of_lt⟩
  by_cases hlt : t < s
  · exact List.lt_asymm h (bytes_lt_of_lt hlt)
  · obtain rfl := String.le_antisymm hle (String.not_lt.1 hlt)
    exact List.lt_irrefl _ h

end IdentityStore.Text.Utf8
