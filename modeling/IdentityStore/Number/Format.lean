import IdentityStore.Number.Shortest

/-!
# Text of a double

A format says how the digits of a double are laid out. Two formats are in use: the one of values
for display and the one of values inside error messages.
-/

namespace IdentityStore.Binary64

structure Format where
  tie : Tie
  /-- The least and the greatest power of ten of the first digit that is written without an
  exponent; none when an exponent is never written. -/
  positional : Option (Int × Int)
  integralTail : String
  nan : String
  infinity : String

namespace Format

/-- Values for display: all digits are written out, and an integral value has no fraction. -/
def display : Format := ⟨.up, none, "", "NaN", "inf"⟩

/-- Values inside error messages: powers of ten from -5 to 15 are written out, others with an
exponent and its sign, and an integral value ends in a zero fraction. -/
def diagnostic : Format := ⟨.even, some (-5, 15), ".0", "NaN", "inf"⟩

def writesOut (f : Format) (d : Decimal) : Bool :=
  match f.positional with
  | none => true
  | some (least, greatest) => least ≤ d.exponent && d.exponent ≤ greatest

def plain (f : Format) (d : Decimal) : String :=
  if d.exponent < 0 then
    "0." ++ .ofList (List.replicate (-d.exponent - 1).toNat '0' ++ d.digits)
  else
    let units := d.exponent.toNat + 1
    if d.digits.length ≤ units then
      .ofList (d.digits ++ List.replicate (units - d.digits.length) '0') ++ f.integralTail
    else
      .ofList (d.digits.take units) ++ "." ++ .ofList (d.digits.drop units)

def scientific (d : Decimal) : String :=
  let fraction := d.digits.drop 1
  .ofList (d.digits.take 1) ++ (if fraction = [] then "" else "." ++ .ofList fraction) ++
    (if d.exponent < 0 then "e-" else "e+") ++ toString d.exponent.natAbs

def unsigned (f : Format) (x : Binary64) : String :=
  if x.isInfinite then f.infinity
  else if x.isZero then "0" ++ f.integralTail
  else
    let d := x.shortest f.tie
    if f.writesOut d then f.plain d else scientific d

/-- The text of a double. A NaN has no sign, a zero has one. -/
def render (f : Format) (x : Binary64) : String :=
  if x.isNaN then f.nan else (if x.negative then "-" else "") ++ f.unsigned x

end Format

end IdentityStore.Binary64
