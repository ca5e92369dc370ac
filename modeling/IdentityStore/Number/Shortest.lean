import IdentityStore.Number.Rounding

/-!
# Shortest decimal text of a double

Every double stands for an interval of real numbers that round to it. Its shortest decimal is a
number of that interval with the fewest digits, and of those the nearest to the double.
-/

namespace IdentityStore.Binary64

inductive Tie where
  | up
  | even
deriving DecidableEq

/-- The numbers that round to a positive double: those from `low` to `high`, times
`2 ^ exponent`. The double itself is `value`, in the same unit. -/
structure Span where
  low : Nat
  value : Nat
  high : Nat
  /-- Whether the two ends round to the double as well. -/
  closed : Bool
  exponent : Int

/-- The span of a positive finite double. Its ends lie half way to the neighbours, and below a
power of two the neighbour is twice as near. An end is a tie and goes to the even significand. -/
def span (x : Binary64) : Span :=
  let m := x.significand
  { low := if x.fraction = 0 ∧ 1 < x.exponentField then 4 * m - 1 else 4 * m - 2
    value := 4 * m
    high := 4 * m + 2
    closed := m % 2 == 0
    exponent := x.exponent - 2 }

namespace Span

/-- What the span's numbers are multiplied with to compare them with multiples of `10 ^ k`. -/
def unit (s : Span) (k : Int) : Nat := Nat.pow 10 (-k).toNat <<< s.exponent.toNat

/-- What a multiple of `10 ^ k` is multiplied with to compare it with the span's numbers. -/
def step (s : Span) (k : Int) : Nat := Nat.pow 10 k.toNat <<< (-s.exponent).toNat

def contains (s : Span) (k : Int) (c : Nat) : Bool :=
  if s.closed then
    s.low * s.unit k ≤ c * s.step k && c * s.step k ≤ s.high * s.unit k
  else
    s.low * s.unit k < c * s.step k && c * s.step k < s.high * s.unit k

/-- Of `c` and `c + 1`, the one whose multiple of `10 ^ k` is nearer to the value. -/
def nearer (s : Span) (tie : Tie) (k : Int) (c : Nat) : Nat :=
  let twice := 2 * (s.value * s.unit k)
  let middle := (2 * c + 1) * s.step k
  if twice < middle then c
  else if middle < twice then c + 1
  else match tie with
    | .up => c + 1
    | .even => c + c % 2

/-- The multiple of `10 ^ k` that lies in the span, the nearer one of two. Only the two
neighbours of the value on the grid are tried: if any multiple lies in the span, one of them
does. -/
def onGrid? (s : Span) (tie : Tie) (k : Int) : Option Nat :=
  let c := s.value * s.unit k / s.step k
  match s.contains k c, s.contains k (c + 1) with
  | true, true => some (s.nearer tie k c)
  | true, false => some c
  | false, true => some (c + 1)
  | false, false => none

end Span

/-- A positive decimal number: its digits, the first of them not zero, and the power of ten that
the first digit counts. -/
structure Decimal where
  digits : List Char
  exponent : Int
deriving DecidableEq

def Decimal.ofGrid (c : Nat) (k : Int) : Decimal :=
  let digits := Nat.toDigits 10 c
  ⟨(digits.reverse.dropWhile (· == '0')).reverse, k + digits.length - 1⟩

def floorLog10 (n d : Nat) : Int :=
  let e : Int := (Nat.toDigits 10 n).length - (Nat.toDigits 10 d).length
  if d * Nat.pow 10 e.toNat ≤ n * Nat.pow 10 (-e).toNat then e else e - 1

/-- The shortest decimal of a nonzero finite double, its sign apart. The grids are tried from one
digit on; seventeen digits always suffice. -/
def shortest (tie : Tie) (x : Binary64) : Decimal :=
  let s := x.span
  let k := floorLog10 (s.value * s.unit 0) (s.step 0)
  let hit := (List.range 17).findSome? fun (i : Nat) =>
    (s.onGrid? tie (k - i)).map (Decimal.ofGrid · (k - i))
  hit.getD (.ofGrid (s.value * s.unit (k - 16) / s.step (k - 16)) (k - 16))

end IdentityStore.Binary64
