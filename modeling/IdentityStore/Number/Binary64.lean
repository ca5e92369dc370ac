/-!
# Double-precision numbers

A `Binary64` is the 64 bits of an IEEE 754 double: a sign, eleven bits of exponent and 52 bits of
fraction. Its value is read exactly (`toRat?`, `integer?`); nothing here rounds.
-/

namespace IdentityStore

structure Binary64 where
  bits : UInt64
deriving DecidableEq

namespace Binary64

/-! ## The parts of a double -/

def negative (x : Binary64) : Bool := 0x8000000000000000 ≤ x.bits.toNat

/-- The bits below the sign. They order the doubles of one sign by size. -/
def magnitude (x : Binary64) : Nat := x.bits.toNat % 0x8000000000000000

def exponentField (x : Binary64) : Nat := x.magnitude / 0x10000000000000

def fraction (x : Binary64) : Nat := x.magnitude % 0x10000000000000

/-- The magnitude of infinity: every smaller one is finite, every greater one is a NaN. -/
def infinityMagnitude : Nat := 0x7FF0000000000000

def isNaN (x : Binary64) : Bool := infinityMagnitude < x.magnitude

def isInfinite (x : Binary64) : Bool := x.magnitude == infinityMagnitude

def isFinite (x : Binary64) : Bool := x.magnitude < infinityMagnitude

def isZero (x : Binary64) : Bool := x.magnitude == 0

/-- The significand of a finite double, an integer below `2^53`. A double with an exponent field
of zero has no hidden bit. -/
def significand (x : Binary64) : Nat :=
  if x.exponentField = 0 then x.fraction else 0x10000000000000 + x.fraction

/-- The power of two that the significand of a finite double is multiplied with. -/
def exponent (x : Binary64) : Int := (max x.exponentField 1 : Nat) - 1075

/-- The double with a sign and a magnitude below `2^63`. -/
def ofMagnitude (negative : Bool) (magnitude : Nat) : Binary64 :=
  ⟨.ofNat (magnitude + if negative then 0x8000000000000000 else 0)⟩

def zero : Binary64 := ofMagnitude false 0

def infinity (negative : Bool) : Binary64 := ofMagnitude negative infinityMagnitude

def nan : Binary64 := ofMagnitude false 0x7FF8000000000000

/-! ## The value of a double -/

/-- **The exact value** of a finite double: the significand times a power of two, as a fraction
whose denominator is a power of two. Infinities and NaNs have none. -/
def toRat? (x : Binary64) : Option Rat :=
  if x.isFinite then
    let size : Int := x.significand <<< x.exponent.toNat
    some (mkRat (if x.negative then -size else size) (1 <<< (-x.exponent).toNat))
  else none

def integerSize? (x : Binary64) : Option Nat :=
  let size := x.significand <<< x.exponent.toNat
  let unit := 1 <<< (-x.exponent).toNat
  if size % unit = 0 then some (size / unit) else none

def integer? (x : Binary64) : Option Int :=
  if x.isFinite then
    x.integerSize?.map fun n => if x.negative then -(n : Int) else n
  else none

/-! ## Equality of values -/

/-- Equality as numbers: the two zeros are equal, and a NaN equals nothing, itself included. -/
def equal (x y : Binary64) : Bool :=
  !x.isNaN && !y.isNaN && (x == y || (x.isZero && y.isZero))

theorem equal_self_iff (x : Binary64) : x.equal x ↔ x.isNaN = false := by
  simp [equal]

theorem equal_symm {x y : Binary64} (h : x.equal y) : y.equal x := by
  simp only [equal, Bool.and_eq_true, Bool.not_eq_true', Bool.or_eq_true, beq_iff_eq] at h ⊢
  obtain ⟨⟨hx, hy⟩, h⟩ := h
  exact ⟨⟨hy, hx⟩, h.imp Eq.symm And.symm⟩

theorem equal_trans {x y z : Binary64} (h : x.equal y) (h' : y.equal z) : x.equal z := by
  simp only [equal, Bool.and_eq_true, Bool.not_eq_true', Bool.or_eq_true, beq_iff_eq] at h h' ⊢
  obtain ⟨⟨hx, _⟩, h⟩ := h
  obtain ⟨⟨_, hz⟩, h'⟩ := h'
  refine ⟨⟨hx, hz⟩, ?_⟩
  rcases h with rfl | ⟨h1, h2⟩
  · exact h'
  · rcases h' with rfl | ⟨_, h4⟩
    · exact .inr ⟨h1, h2⟩
    · exact .inr ⟨h1, h4⟩

end Binary64

end IdentityStore
