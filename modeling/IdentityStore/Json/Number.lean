import IdentityStore.Number.Rounding

/-!
# JSON numbers

A number of a JSON value is an integer that fits 64 bits, signed or unsigned, or a finite double.
-/

namespace IdentityStore.Json

inductive Number where
  | integer (n : Int) (inRange : -0x8000000000000000 ≤ n ∧ n < 0x10000000000000000)
  | double (x : Binary64) (finite : x.isFinite = true)
deriving DecidableEq

namespace Number

def ofInt64 (i : Int64) : Number :=
  .integer i.toInt (by have := i.le_toInt; have := i.toInt_lt; omega)

def ofUInt64 (n : UInt64) : Number :=
  .integer n.toNat (by have := n.toNat_lt; omega)

/-- The number as a signed integer, when it is held as an integer in that range. -/
def int64? : Number → Option Int64
  | .integer n _ => if n < 0x8000000000000000 then some (.ofInt n) else none
  | .double _ _ => none

@[simp] theorem int64?_ofInt64 (i : Int64) : (ofInt64 i).int64? = some i := by
  have h : i.toInt < 0x8000000000000000 := i.toInt_lt
  simp only [ofInt64, int64?, h, if_true, Int64.ofInt_toInt]

def toDouble : Number → Binary64
  | .integer n _ => .ofInt n
  | .double x _ => x

/-! ## Tokens -/

/-- The value of a list of decimal digits; none when it is empty or holds another character. -/
def digitsValue? (cs : List Char) : Option Nat :=
  if cs != [] && cs.all Char.isDigit then
    some (cs.foldl (fun n c => 10 * n + (c.toNat - '0'.toNat)) 0)
  else none

/-- The value of the exponent part of a token, the letter included: a sign is optional. -/
def exponentValue? : List Char → Option Int
  | [] => some 0
  | _ :: '-' :: digits => (digitsValue? digits).map fun n => -(n : Int)
  | _ :: '+' :: digits => (digitsValue? digits).map fun n => (n : Int)
  | _ :: digits => (digitsValue? digits).map fun n => (n : Int)

/-- The finite double nearest to `coefficient · 10^exponent`. Exponents far outside the range of
doubles are decided without computing the power of ten. -/
def nearest? (negative : Bool) (coefficient : Nat) (exponent : Int) : Option Number :=
  let size : Int := (Nat.toDigits 10 coefficient).length + exponent
  let x : Binary64 :=
    if coefficient = 0 ∨ size < -400 then .ofMagnitude negative 0
    else if 400 < size then .infinity negative
    else .ofDecimal negative coefficient exponent
  if h : x.isFinite then some (.double x h) else none

/-- The number that a JSON token denotes. Without fraction and exponent it is an integer when it
is in range, the negative zero apart; everything else is the nearest double. A token of another
form and one beyond the greatest double denote nothing. -/
def ofToken? (token : String) : Option Number := do
  let negative := token.toList.head? == some '-'
  let body := if negative then token.toList.drop 1 else token.toList
  let mantissa := body.takeWhile fun c => c != 'e' && c != 'E'
  let whole := mantissa.takeWhile (· != '.')
  let power := body.drop mantissa.length
  let fraction := mantissa.drop whole.length
  let units ← digitsValue? whole
  let n : Int := if negative then -units else units
  if power = [] ∧ fraction = [] ∧ ¬(negative ∧ units = 0) then
    if h : -0x8000000000000000 ≤ n ∧ n < 0x10000000000000000 then return .integer n h
  let places := fraction.drop 1
  let coefficient ← if fraction = [] then some units else do
    discard (digitsValue? places)
    digitsValue? (whole ++ places)
  nearest? negative coefficient ((← exponentValue? power) - places.length)

end Number

end IdentityStore.Json
