import IdentityStore.Number.Binary64

/-!
# Rounding to doubles

A ratio of natural numbers is rounded to the nearest double; of two that are equally near, the
one with the even significand is taken, and what lies beyond the greatest double becomes infinite.
-/

namespace IdentityStore.Binary64

/-- A quotient rounded to the nearest natural number, a half to the even neighbour. -/
def roundQuotient (n d : Nat) : Nat :=
  let q := n / d
  let r := n % d
  if 2 * r < d then q else if d < 2 * r then q + 1 else q + q % 2

theorem roundQuotient_bounds {n d : Nat} (h : 0 < d) :
    2 * (roundQuotient n d * d) ≤ 2 * n + d ∧ 2 * n ≤ 2 * (roundQuotient n d * d) + d := by
  have hn := Nat.div_add_mod n d
  have hr := Nat.mod_lt n h
  rw [Nat.mul_comm] at hn
  have hq : n / d % 2 = 0 ∨ n / d % 2 = 1 := by omega
  have h1 : (n / d + 1) * d = n / d * d + d := Nat.succ_mul _ _
  unfold roundQuotient
  simp only []
  split
  · omega
  · split
    · omega
    · rcases hq with hq | hq <;> rw [hq]
      · simp only [Nat.add_zero]
        omega
      · omega

def floorLog2 (n d : Nat) : Int :=
  let e : Int := n.log2 - d.log2
  if d <<< e.toNat ≤ n <<< (-e).toNat then e else e - 1

/-- The double nearest to the ratio of two natural numbers, with a sign. The significand is the
ratio over the power of two at which it has 53 bits, or over the least power there is. -/
def ofRatio (negative : Bool) (n d : Nat) : Binary64 :=
  if n = 0 then ofMagnitude negative 0
  else
    let q : Int := max (floorLog2 n d - 52) (-1074)
    let m := roundQuotient (n <<< (-q).toNat) (d <<< q.toNat)
    ofMagnitude negative (min (m + (q + 1074).toNat * 0x10000000000000) infinityMagnitude)

def ofInt (n : Int) : Binary64 := ofRatio (n < 0) n.natAbs 1

def ofDecimal (negative : Bool) (coefficient : Nat) (exponent : Int) : Binary64 :=
  ofRatio negative (coefficient * Nat.pow 10 exponent.toNat) (Nat.pow 10 (-exponent).toNat)

end IdentityStore.Binary64
