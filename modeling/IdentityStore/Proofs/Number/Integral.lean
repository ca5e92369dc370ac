import IdentityStore.ConfigValue.Json
import IdentityStore.Proofs.ConfigValue.Reading
import IdentityStore.Proofs.Number.Nearest

/-!
# Doubles as integers

A configuration value that is a double can be asked for as an integer of 64 bits. Values are the
exact rationals of `Binary64.toRat?`.

* **Integral doubles** (`integer?_eq_some_iff`): `integer?` gives the value of the doubles that
  denote an integer, and nothing for the others.
* **The bound** (`Binary64.signedBound`): `2^63` is the value of one double only
  (`toRat?_eq_signedBound_iff`). It lies above the signed range and is taken nevertheless, as the
  greatest integer of the range.
* `asInteger?_float_iff`, `asInteger?_ofNumber_iff`: for every other double, and every other JSON
  number, the integer is the value itself.
-/

namespace IdentityStore

namespace Binary64

variable {x : Binary64}

/-! ## Integral doubles -/

theorem unit_pos (x : Binary64) : 0 < 1 <<< (-x.exponent).toNat := by
  rw [Nat.one_shiftLeft]
  exact Nat.two_pow_pos _

theorem integerSize?_eq_some_iff {m : Nat} :
    x.integerSize? = some m ↔
      x.significand <<< x.exponent.toNat = m * 1 <<< (-x.exponent).toNat := by
  have hunit := x.unit_pos
  unfold integerSize?
  simp only []
  generalize x.significand <<< x.exponent.toNat = size
  generalize 1 <<< (-x.exponent).toNat = unit at hunit ⊢
  split
  · next h =>
    rw [Option.some.injEq, Nat.div_eq_iff_eq_mul_left hunit (Nat.dvd_of_mod_eq_zero h)]
  · next h =>
    refine iff_of_false (by simp) ?_
    rintro rfl
    exact h (Nat.mul_mod_left m unit)

theorem integer?_eq (x : Binary64) :
    x.integer? = if x.isFinite then
      x.integerSize?.map fun n : Nat => if x.negative then -(n : Int) else n
    else none := by
  unfold integer?
  cases x.integerSize? <;> rfl

/-- **Integral doubles.** The value is given when it is an integer, and only then. -/
theorem integer?_eq_some_iff {n : Int} : x.integer? = some n ↔ x.toRat? = some (n : Rat) := by
  rw [integer?_eq, toRat?]
  split
  · simp only [Option.map_eq_some_iff, integerSize?_eq_some_iff, Option.some.injEq]
    have hunit := x.unit_pos
    generalize x.significand <<< x.exponent.toNat = size
    generalize 1 <<< (-x.exponent).toNat = unit at hunit ⊢
    have hquotient : ∀ a : Int, mkRat a unit = (n : Rat) ↔ a = n * unit := by
      intro a
      have hcast : (unit : Rat) ≠ 0 := by exact_mod_cast hunit.ne'
      rw [Rat.mkRat_eq_div, div_eq_iff hcast]
      exact_mod_cast Iff.rfl
    have hpositive : (0 : Int) < unit := Int.natCast_pos.2 hunit
    rw [hquotient]
    -- the size is the absolute value, and the sign of the integer is the one of the double
    cases x.negative with
    | false =>
      simp only [Bool.false_eq_true, if_false]
      constructor
      · rintro ⟨m, rfl, rfl⟩
        push_cast
        rfl
      · intro h
        have hn : 0 ≤ n := nonneg_of_mul_nonneg_left (h ▸ Int.natCast_nonneg size) hpositive
        refine ⟨n.natAbs, ?_, Int.natAbs_of_nonneg hn⟩
        have habs := congrArg Int.natAbs h
        rwa [Int.natAbs_mul, Int.natAbs_natCast, Int.natAbs_natCast] at habs
    | true =>
      simp only [if_true]
      constructor
      · rintro ⟨m, rfl, rfl⟩
        push_cast
        exact (neg_mul _ _).symm
      · intro h
        have hn : n ≤ 0 := by
          refine nonpos_of_mul_nonpos_left ?_ hpositive
          rw [← h]
          omega
        refine ⟨n.natAbs, ?_, by omega⟩
        have habs := congrArg Int.natAbs h
        rwa [Int.natAbs_mul, Int.natAbs_neg, Int.natAbs_natCast, Int.natAbs_natCast] at habs
  · simp

/-! ## The bound -/

/-- The double `2^63`, the least integral double above the signed range. -/
def signedBound : Binary64 := ⟨0x43E0000000000000⟩

theorem toRat?_signedBound : signedBound.toRat? = some 0x8000000000000000 := by
  decide +kernel

/-- **One double denotes `2^63`.** -/
theorem toRat?_eq_signedBound_iff : x.toRat? = some 0x8000000000000000 ↔ x = signedBound := by
  refine ⟨fun h => ?_, fun h => h ▸ toRat?_signedBound⟩
  have hfield : ¬ (x.negative = false → x.exponentField < 1086) :=
    fun hlt => absurd (lt_of_toRat? h hlt) (lt_irrefl _)
  obtain ⟨hpos, hge⟩ := Classical.not_imp.1 hfield
  have hfinite : x.isFinite := by
    by_contra hinfinite
    simp [toRat?, hinfinite] at h
  rw [toRat?_of_integral hfinite hpos (by omega), Option.some.injEq] at h
  have hvalue : x.significand * 2 ^ (x.exponentField - 1075) = 0x8000000000000000 := by
    exact_mod_cast h
  have hsig : x.significand = 0x10000000000000 + x.fraction := if_neg (by omega)
  -- with the hidden bit in place, only the least significand and the least exponent give `2^63`
  have hexp : x.exponentField = 1086 := by
    by_contra hne
    have hpow : 2 ^ 12 ≤ 2 ^ (x.exponentField - 1075) :=
      Nat.pow_le_pow_right (by decide) (by omega)
    have hmul : 0x10000000000000 * 2 ^ 12 ≤ x.significand * 2 ^ (x.exponentField - 1075) :=
      Nat.mul_le_mul (by omega) hpow
    omega
  have hfraction : x.fraction = 0 := by
    rw [hexp, hsig] at hvalue
    omega
  have hmag : x.magnitude = 0x43E0000000000000 := by
    unfold exponentField at hexp
    unfold fraction at hfraction
    omega
  have hbits : x.bits.toNat = 0x43E0000000000000 := by
    unfold magnitude at hmag
    simp only [negative, decide_eq_false_iff_not] at hpos
    omega
  obtain ⟨bits⟩ := x
  exact congrArg Binary64.mk (UInt64.toNat_inj.1 hbits)

end Binary64

namespace ConfigValue

open Binary64 (integer?_eq_some_iff signedBound toRat?_eq_signedBound_iff toRat?_signedBound)

variable {x : Binary64} {i : Int64}

/-! ## The integer of a value -/

/-- **The integer of a double** is its value, except that the bound gives the greatest integer. -/
theorem asInteger?_float_iff :
    (float x).asInteger? = some i ↔
      x.toRat? = some (i.toInt : Rat) ∨ x = signedBound ∧ i = Int64.maxValue := by
  have hlo : -0x8000000000000000 ≤ i.toInt := i.le_toInt
  have hhi : i.toInt < 0x8000000000000000 := i.toInt_lt
  rw [← integer?_eq_some_iff, ← toRat?_eq_signedBound_iff]
  rw [show (0x8000000000000000 : Rat) = ((0x8000000000000000 : Int) : Rat) by norm_num,
    ← integer?_eq_some_iff]
  simp only [asInteger?, integerOfFloat?]
  cases x.integer? with
  | none => simp
  | some n =>
    simp only [Option.bind_eq_bind, Option.bind_some, Option.some.injEq]
    constructor
    · intro h
      split at h
      · next hrange =>
        obtain rfl := Option.some.inj h
        rcases Int.lt_or_eq_of_le hrange.2 with hlt | rfl
        · refine .inl ?_
          rw [Int.min_eq_left (by omega), Int64.toInt_ofInt_of_le hrange.1 hlt]
        · exact .inr ⟨rfl, by decide⟩
      · cases h
    · rintro (rfl | ⟨rfl, rfl⟩)
      · rw [if_pos ⟨hlo, hhi.le⟩, Int.min_eq_left (by omega), Int64.ofInt_toInt]
      · decide

end ConfigValue

/-- The exact value of a number. -/
def Json.Number.toRat? : Json.Number → Option Rat
  | .integer n _ => some n
  | .double x _ => x.toRat?

namespace ConfigValue

open Binary64 (signedBound)
open Json.Number (ofUInt64)

/-- No integer above the signed range, and no double that it is rounded to, is an integer of the
range. -/
theorem toRat?_ofUInt64_ne {u : UInt64} (h : 0x8000000000000000 ≤ u.toNat) (i : Int64) :
    (ofUInt64 u).toRat? ≠ some (i.toInt : Rat) ∧
      (Binary64.ofInt u.toNat).toRat? ≠ some (i.toInt : Rat) := by
  have hi : i.toInt < 0x8000000000000000 := i.toInt_lt
  have hu : u.toNat < 0x10000000000000000 := u.toNat_lt
  constructor
  · intro he
    have : (u.toNat : Int) = i.toInt := by exact_mod_cast Option.some.inj he
    omega
  · rw [(Binary64.value_ofInt h hu).2.1]
    intro he
    -- the bound is a multiple of `2048`, so rounding does not lead below it
    have hbounds := Binary64.roundQuotient_bounds (n := u.toNat) (show 0 < 2048 by decide)
    have : ((Binary64.roundQuotient u.toNat 2048 * 2048 : Nat) : Int) = i.toInt := by
      exact_mod_cast Option.some.inj he
    omega

/-- **The integer of a JSON number** is its value, except where the number is read as the bound. -/
theorem asInteger?_ofNumber_iff {n : Json.Number} {i : Int64} :
    (ofNumber n).asInteger? = some i ↔
      n.toRat? = some (i.toInt : Rat) ∨
        ofNumber n = .float signedBound ∧ i = Int64.maxValue := by
  rcases n.cases_integer_double with ⟨j, rfl⟩ | ⟨u, hu, rfl⟩ | ⟨x, hx, rfl⟩
  · have hvalue : (Json.Number.ofInt64 j).toRat? = some (i.toInt : Rat) ↔ j = i := by
      rw [← Int64.toInt_inj]
      simp [Json.Number.ofInt64, Json.Number.toRat?]
    rw [hvalue, ofNumber_ofInt64]
    simp [asInteger?]
  · obtain ⟨hvalue, hrounded⟩ := toRat?_ofUInt64_ne hu i
    rw [ofNumber_ofUInt64 hu, asInteger?_float_iff, ConfigValue.float.injEq]
    exact or_congr_left (iff_of_false hrounded hvalue)
  · have hread : ofNumber (.double x hx) = .float x := rfl
    rw [hread, asInteger?_float_iff, ConfigValue.float.injEq]
    exact Iff.rfl

/-- **Integers are exact but for one double.** A double is taken as an integer of 64 bits exactly
when its value is this integer, and a JSON number likewise by way of the configuration value read
from it. The one exception is the double `2^63`, which is above the range: it is taken as the
greatest integer of the range, and so is every JSON number that is read as this double. A double that
is neither this one nor an integer of the range has no integer. -/
theorem asInteger?_exact_but_at_bound (x : Binary64) (n : Json.Number) (i : Int64) :
    ((float x).asInteger? = some i ↔
      x.toRat? = some (i.toInt : Rat) ∨ x = signedBound ∧ i = Int64.maxValue) ∧
    ((float x).asInteger? = none ↔
      (∀ j : Int64, x.toRat? ≠ some (j.toInt : Rat)) ∧ x ≠ signedBound) ∧
    ((ofJson (.number n)).asInteger? = some i ↔
      n.toRat? = some (i.toInt : Rat) ∨
        ofJson (.number n) = .float signedBound ∧ i = Int64.maxValue) := by
  refine ⟨asInteger?_float_iff, ?_, asInteger?_ofNumber_iff⟩
  rw [Option.eq_none_iff_forall_ne_some]
  simp only [ne_eq, asInteger?_float_iff, not_or, forall_and]
  refine and_congr_right fun _ => ⟨fun h hx => h Int64.maxValue ⟨hx, rfl⟩, fun h i hi => h hi.1⟩

/-- **The bound is clamped.** It denotes none of the integers of the signed range, and still it is
taken as the greatest one, as is the JSON integer `2^63`. -/
theorem bound_clamped :
    (∀ j : Int64, signedBound.toRat? ≠ some (j.toInt : Rat)) ∧
      (float signedBound).asInteger? = some Int64.maxValue ∧
      (ofJson (.ofUInt64 0x8000000000000000)).asInteger? = some Int64.maxValue := by
  refine ⟨fun j hj => ?_, by decide +kernel, by decide +kernel⟩
  have hvalue : (0x8000000000000000 : Int) = j.toInt := by
    rw [Binary64.toRat?_signedBound] at hj
    exact_mod_cast Option.some.inj hj
  exact absurd j.toInt_lt (not_lt.2 hvalue.le)

end ConfigValue

end IdentityStore
