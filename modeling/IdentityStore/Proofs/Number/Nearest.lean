import IdentityStore.Number.Rounding
import Mathlib.Algebra.Order.Field.Basic
import Mathlib.Algebra.Order.Field.Rat
import Mathlib.Algebra.Order.Group.Unbundled.Abs
import Mathlib.Tactic.Linarith
import Mathlib.Tactic.NormNum

/-!
# The nearest double

Integers of 64 bits above the signed range are rounded to the nearest double. Values are the exact
rationals of `Binary64.toRat?`.

* **Nearest** (`IsNearest`): no finite double is nearer, and of two that are equally near the one
  with the even significand is meant.
* **Quotients** (`roundQuotient_nearest`): a rounded quotient is the nearest point of the grid of
  all multiples of the divisor, a tie going to the even multiple.
* **The grid** (`lt_or_multiple_of_toRat?`): from `2^63` on the doubles are multiples of `2048`.
* `isNearest_ofInt`: between `2^63` and `2^64` the double of an integer is the nearest one.
-/

namespace IdentityStore.Binary64

/-- The double is the one nearest to a rational number, a tie going to the even significand. -/
def IsNearest (x : Binary64) (q : Rat) : Prop :=
  ∃ r, x.toRat? = some r ∧ ∀ (y : Binary64) (s : Rat), y.toRat? = some s →
    |r - q| ≤ |s - q| ∧ (|r - q| = |s - q| → s = r ∨ x.significand % 2 = 0)

/-! ## Fields -/

theorem magnitude_ofMagnitude {m : Nat} (negative : Bool) (h : m < 0x8000000000000000) :
    (ofMagnitude negative m).magnitude = m := by
  have hbits : m + (if negative then 0x8000000000000000 else 0) < 2 ^ 64 := by split <;> omega
  rw [magnitude, ofMagnitude, UInt64.toNat_ofNat_of_lt' hbits]
  split <;> omega

theorem negative_ofMagnitude {m : Nat} (negative : Bool) (h : m < 0x8000000000000000) :
    (ofMagnitude negative m).negative = negative := by
  have hbits : m + (if negative then 0x8000000000000000 else 0) < 2 ^ 64 := by split <;> omega
  rw [Binary64.negative, ofMagnitude, UInt64.toNat_ofNat_of_lt' hbits]
  cases negative
  · simp only [Bool.false_eq_true, if_false, decide_eq_false_iff_not]
    omega
  · simp

theorem significand_lt (x : Binary64) : x.significand < 2 ^ 53 := by
  have hfraction : x.fraction < 0x10000000000000 := Nat.mod_lt _ (by decide)
  unfold significand
  split <;> omega

/-! ## Quotients -/

theorem even_roundQuotient_of_tie {n d : Nat} (hd : 0 < d)
    (h : 2 * (roundQuotient n d * d) = 2 * n + d ∨ 2 * n = 2 * (roundQuotient n d * d) + d) :
    roundQuotient n d % 2 = 0 := by
  have hn := Nat.div_add_mod n d
  have hr := Nat.mod_lt n hd
  rw [Nat.mul_comm] at hn
  have hsucc : (n / d + 1) * d = n / d * d + d := Nat.succ_mul _ _
  unfold roundQuotient at h ⊢
  simp only [] at h ⊢
  by_cases hdown : 2 * (n % d) < d
  · rw [if_pos hdown] at h
    omega
  · rw [if_neg hdown] at h ⊢
    by_cases hup : d < 2 * (n % d)
    · rw [if_pos hup] at h
      omega
    · rw [if_neg hup]
      omega

/-- **A rounded quotient is the nearest multiple,** and of two equally near ones the even. -/
theorem roundQuotient_nearest {n d : Nat} (hd : 0 < d) (k : Nat) :
    ((roundQuotient n d * d : Nat) - n : Int).natAbs ≤ ((k * d : Nat) - n : Int).natAbs ∧
      (((roundQuotient n d * d : Nat) - n : Int).natAbs = ((k * d : Nat) - n : Int).natAbs →
        k = roundQuotient n d ∨ roundQuotient n d % 2 = 0) := by
  have hbounds := roundQuotient_bounds (n := n) hd
  have htie := even_roundQuotient_of_tie (n := n) hd
  generalize roundQuotient n d = m at *
  -- two different multiples are a whole `d` apart, and `m * d` is within half of it
  rcases Nat.lt_trichotomy k m with hlt | rfl | hgt
  · have hgap : (k + 1) * d ≤ m * d := Nat.mul_le_mul_right d hlt
    rw [Nat.succ_mul] at hgap
    exact ⟨by omega, fun he => .inr (htie (by omega))⟩
  · exact ⟨Nat.le_refl _, fun _ => .inl rfl⟩
  · have hgap : (m + 1) * d ≤ k * d := Nat.mul_le_mul_right d hgt
    rw [Nat.succ_mul] at hgap
    exact ⟨by omega, fun he => .inr (htie (by omega))⟩

/-! ## Values -/

theorem toRat?_of_integral {x : Binary64} (hfinite : x.isFinite) (hpos : x.negative = false)
    (hfield : 1075 ≤ x.exponentField) :
    x.toRat? = some ((x.significand * 2 ^ (x.exponentField - 1075) : Nat) : Rat) := by
  have hexp : x.exponent = ((x.exponentField - 1075 : Nat) : Int) := by
    unfold exponent
    omega
  have hneg : (-x.exponent).toNat = 0 := by omega
  rw [toRat?, if_pos hfinite, hpos, hneg, hexp]
  simp only [Int.toNat_natCast, Nat.shiftLeft_eq, Bool.false_eq_true, if_false]
  rw [Nat.pow_zero, Nat.mul_one, Rat.mkRat_one, Int.cast_natCast]

theorem lt_of_toRat? {x : Binary64} {s : Rat} (h : x.toRat? = some s)
    (hfield : x.negative = false → x.exponentField < 1086) : s < 0x8000000000000000 := by
  unfold toRat? at h
  split at h
  · rw [← Option.some.inj h, Rat.mkRat_eq_div]
    have hsize : x.negative = false →
        x.significand <<< x.exponent.toNat < 0x8000000000000000 := by
      intro hpos
      have hexp : x.exponent.toNat ≤ 10 := by
        have := hfield hpos
        unfold exponent
        omega
      rw [Nat.shiftLeft_eq]
      calc x.significand * 2 ^ x.exponent.toNat
          ≤ x.significand * 2 ^ 10 :=
            Nat.mul_le_mul_left _ (Nat.pow_le_pow_right (by decide) hexp)
        _ < 2 ^ 53 * 2 ^ 10 := Nat.mul_lt_mul_of_pos_right x.significand_lt (by decide)
    have hunit : (1 : Rat) ≤ ((1 <<< (-x.exponent).toNat : Nat) : Rat) := by
      rw [Nat.one_shiftLeft]
      exact_mod_cast Nat.one_le_two_pow
    generalize x.significand <<< x.exponent.toNat = size at hsize ⊢
    generalize 1 <<< (-x.exponent).toNat = unit at hunit ⊢
    have hnonneg : (0 : Rat) ≤ size := Nat.cast_nonneg size
    cases hneg : x.negative with
    | true =>
      have hnum : ((-(size : Int) : Int) : Rat) ≤ 0 := by
        push_cast
        linarith
      have hquotient := div_nonpos_of_nonpos_of_nonneg hnum (show (0 : Rat) ≤ unit by linarith)
      exact lt_of_le_of_lt hquotient (by norm_num)
    | false =>
      refine lt_of_le_of_lt (div_le_self hnonneg hunit) ?_
      simp only [Bool.false_eq_true, if_false]
      exact_mod_cast hsize hneg
  · cases h

/-- **From `2^63` on the doubles are multiples of `2048`.** -/
theorem lt_or_multiple_of_toRat? {x : Binary64} {s : Rat} (h : x.toRat? = some s) :
    s < 0x8000000000000000 ∨ ∃ k : Nat, s = (k * 2048 : Nat) := by
  by_cases hfield : x.negative = false → x.exponentField < 1086
  · exact .inl (lt_of_toRat? h hfield)
  · obtain ⟨hpos, hge⟩ := Classical.not_imp.1 hfield
    have hfinite : x.isFinite := by
      by_contra hinfinite
      simp [toRat?, hinfinite] at h
    rw [toRat?_of_integral hfinite hpos (by omega)] at h
    refine .inr ⟨x.significand * 2 ^ (x.exponentField - 1086), ?_⟩
    have hpow : 2 ^ (x.exponentField - 1075) = 2 ^ (x.exponentField - 1086) * 2048 := by
      rw [show x.exponentField - 1075 = x.exponentField - 1086 + 11 by omega, Nat.pow_add]
    rw [← Option.some.inj h, hpow, Nat.mul_assoc]

/-! ## Integers above the signed range -/

variable {u : Nat}

theorem ofInt_eq_ofMagnitude (hlo : 0x8000000000000000 ≤ u) (hhi : u < 0x10000000000000000) :
    ofInt u = ofMagnitude false (roundQuotient u 2048 + 1085 * 0x10000000000000) := by
  have hlog : u.log2 = 63 := (Nat.log2_eq_iff (by omega)).2 ⟨hlo, hhi⟩
  have hfloor : floorLog2 u 1 = 63 := by
    have hone : Nat.log2 1 = 0 := by decide
    simp [floorLog2, hlog, hone, hlo]
  have hscale : max ((63 : Int) - 52) (-1074) = 11 := by decide
  have hsign : decide ((u : Int) < 0) = false := by simp
  have hfits : min (roundQuotient u 2048 + 1085 * 0x10000000000000) infinityMagnitude =
      roundQuotient u 2048 + 1085 * 0x10000000000000 := by
    have hbounds := roundQuotient_bounds (n := u) (show 0 < 2048 by decide)
    unfold infinityMagnitude
    omega
  rw [ofInt, ofRatio, if_neg (by simp; omega), hsign]
  simp only [Int.natAbs_natCast, hfloor]
  rw [hscale, ← hfits]
  rfl

theorem value_ofInt (hlo : 0x8000000000000000 ≤ u) (hhi : u < 0x10000000000000000) :
    (ofInt u).isFinite ∧ (ofInt u).toRat? = some ((roundQuotient u 2048 * 2048 : Nat) : Rat) ∧
      (ofInt u).significand % 2 = roundQuotient u 2048 % 2 := by
  obtain ⟨hbelow, habove⟩ := roundQuotient_bounds (n := u) (show 0 < 2048 by decide)
  rw [ofInt_eq_ofMagnitude hlo hhi]
  generalize roundQuotient u 2048 = m at *
  have hlt : m + 1085 * 0x10000000000000 < 0x8000000000000000 := by omega
  have hmag := magnitude_ofMagnitude false hlt
  have hneg := negative_ofMagnitude false hlt
  generalize ofMagnitude false (m + 1085 * 0x10000000000000) = x at *
  have hfinite : x.isFinite := by
    simp only [isFinite, infinityMagnitude, hmag, decide_eq_true_eq]
    omega
  -- rounding up to `2^53` carries into the exponent and leaves the significand of a power of two
  have hfield : x.exponentField = if m = 0x20000000000000 then 1087 else 1086 := by
    rw [exponentField, hmag]
    split <;> omega
  have hsig : x.significand = if m = 0x20000000000000 then 0x10000000000000 else m := by
    rw [significand, hfield, fraction, hmag]
    split <;> simp <;> omega
  refine ⟨hfinite, ?_, ?_⟩
  · rw [toRat?_of_integral hfinite hneg (by rw [hfield]; split <;> omega), hfield, hsig]
    split
    · subst m; norm_num
    · rfl
  · rw [hsig]
    split <;> omega

private theorem cast_natAbs_sub (a b : Nat) :
    (((a : Int) - b).natAbs : Rat) = |(a : Rat) - b| := by
  rw [Nat.cast_natAbs]
  push_cast
  rfl

/-- **Between `2^63` and `2^64`** the double of an integer is the nearest one there is. -/
theorem isNearest_ofInt (hlo : 0x8000000000000000 ≤ u) (hhi : u < 0x10000000000000000) :
    (ofInt u).IsNearest u := by
  obtain ⟨-, hvalue, hparity⟩ := value_ofInt hlo hhi
  have hnearest := fun k => roundQuotient_nearest (n := u) (show 0 < 2048 by decide) k
  refine ⟨_, hvalue, fun y s hs => ?_⟩
  rw [hparity]
  rcases lt_or_multiple_of_toRat? hs with hsmall | ⟨k, rfl⟩
  · -- `2^63` is on the grid, and it is nearer than anything below it
    have hgrid := (hnearest 0x10000000000000).1
    have hu : (0x8000000000000000 : Rat) ≤ u := by exact_mod_cast hlo
    have hstrict : |((roundQuotient u 2048 * 2048 : Nat) : Rat) - u| < |s - u| :=
      calc |((roundQuotient u 2048 * 2048 : Nat) : Rat) - u|
          ≤ |((0x10000000000000 * 2048 : Nat) : Rat) - u| := by
            rw [← cast_natAbs_sub, ← cast_natAbs_sub]
            exact_mod_cast hgrid
        _ = u - 0x8000000000000000 := by
            rw [abs_sub_comm, abs_of_nonneg] <;> norm_num [hu]
        _ < u - s := by linarith
        _ = |s - u| := by rw [abs_sub_comm, abs_of_pos (by linarith)]
    exact ⟨hstrict.le, fun he => absurd he hstrict.ne⟩
  · rw [← cast_natAbs_sub, ← cast_natAbs_sub]
    obtain ⟨hle, htie⟩ := hnearest k
    refine ⟨by exact_mod_cast hle, fun he => ?_⟩
    exact (htie (by exact_mod_cast he)).imp_left fun hk => by rw [hk]

end IdentityStore.Binary64
