import IdentityStore.Error
import IdentityStore.Json.Basic
import IdentityStore.Number.Format
import IdentityStore.Text.Path

/-!
# Reading typed values from JSON

A decoder reads a value of one type from a JSON value, or says why it cannot. The wording is in
`DecodeError.message` alone.

* `choice`: one of several named values, as its name or as an object from the name to `null`.
* `RecordReader`: a record, as an object by field name or as an array by position.
-/

namespace IdentityStore.Json

open Text

inductive Found where
  | null
  | boolean (b : Bool)
  | integer (n : Int)
  | double (x : Binary64)
  | string (s : String)
  | sequence
  | map
deriving DecidableEq

def found : Json → Found
  | .null => .null
  | .bool b => .boolean b
  | .number (.integer n _) => .integer n
  | .number (.double x _) => .double x
  | .string s => .string s
  | .array _ => .sequence
  | .object _ => .map

def Found.message : Found → String
  | null => "null"
  | boolean b => "boolean `" ++ (if b then "true" else "false") ++ "`"
  | integer n => "integer `" ++ toString n ++ "`"
  | double x => "floating point `" ++ Binary64.Format.diagnostic.render x ++ "`"
  | string s => "string " ++ quoted s
  | sequence => "sequence"
  | map => "map"

inductive DecodeError where
  | invalidType (found : Found) (expected : String)
  | invalidValue (found : Found) (expected : String)
  | invalidLength (length : Nat) (expected : String)
  | unknownVariant (name : String) (expected : List String)
  | missingField (name : String)
  | noAlternative (name : String)
  | rejected (error : Error)
deriving DecidableEq

/-- The names of a choice, as a text that follows the word `expected`. -/
def alternatives : List String → String
  | [] => "there are no variants"
  | [a] => "`" ++ a ++ "`"
  | [a, b] => "`" ++ a ++ "` or `" ++ b ++ "`"
  | names => "one of " ++ join ", " (names.map fun n => "`" ++ n ++ "`")

def DecodeError.message : DecodeError → String
  | invalidType found expected => "invalid type: " ++ found.message ++ ", expected " ++ expected
  | invalidValue found expected =>
    "invalid value: " ++ found.message ++ ", expected " ++ expected
  | invalidLength length expected =>
    "invalid length " ++ toString length ++ ", expected " ++ expected
  | unknownVariant name expected =>
    "unknown variant `" ++ name ++ "`, expected " ++ alternatives expected
  | missingField name => "missing field `" ++ name ++ "`"
  | noAlternative name => "data did not match any variant of untagged enum " ++ name
  | rejected error => error.message

abbrev Decoder (α : Type) := Json → Except DecodeError α

namespace Decoder

variable {α : Type}

def mismatch (j : Json) (expected : String) : Except DecodeError α :=
  .error (.invalidType j.found expected)

def refuse : Except Error α → Except DecodeError α
  | .ok a => .ok a
  | .error e => .error (.rejected e)

theorem refuse_eq_ok_iff {x : Except Error α} {a : α} : refuse x = .ok a ↔ x = .ok a := by
  cases x <;> simp [refuse]

theorem ok_bind {ε β : Type} (a : α) (f : α → Except ε β) : (Except.ok a >>= f) = f a := rfl

theorem bind_eq_ok_iff {ε β : Type} {x : Except ε α} {f : α → Except ε β} {b : β} :
    (x >>= f) = .ok b ↔ ∃ a, x = .ok a ∧ f a = .ok b := by
  cases x with
  | error e => simp [bind, Except.bind]
  | ok a => simp [ok_bind]

theorem refuse_bind {β : Type} (x : Except Error α) (f : α → Except Error β) :
    (refuse x >>= fun a => refuse (f a)) = refuse (x >>= f) := by
  cases x <;> rfl

/-! ## Simple values -/

def string : Decoder String
  | .string s => .ok s
  | j => mismatch j "a string"

def bool : Decoder Bool
  | .bool b => .ok b
  | j => mismatch j "a boolean"

def size : Decoder UInt64
  | .number (.integer n _) =>
    if 0 ≤ n then .ok (.ofNat n.toNat) else .error (.invalidValue (.integer n) "usize")
  | j => mismatch j "usize"

def path : Decoder Path
  | .string s => .ok ⟨s⟩
  | j => mismatch j "path string"

def unit : Decoder Unit
  | .null => .ok ()
  | j => mismatch j "unit"

def optional (decode : Decoder α) : Decoder (Option α)
  | .null => .ok none
  | j => (decode j).map some

def strings : Decoder (List String)
  | .array items => items.mapM string
  | j => mismatch j "a sequence"

/-! ## Choices -/

def named (choices : List (String × α)) (name : String) : Except DecodeError α :=
  match Keyed.get? choices name with
  | some a => .ok a
  | none => .error (.unknownVariant name (Keyed.names choices))

/-- One of several named values: its name, or an object from its name to `null`. -/
def choice (choices : List (String × α)) : Decoder α
  | .string name => named choices name
  | .object [(name, content)] => do
    let a ← named choices name
    unit content
    return a
  | .object _ => .error (.invalidValue .map "map with a single key")
  | j => mismatch j "string or map"

/-! ## Fields and items -/

def field? (fields : List (String × Json)) (name : String) (decode : Decoder α) :
    Except DecodeError (Option α) :=
  match Keyed.get? fields name with
  | none => .ok none
  | some j => (decode j).map some

def require (name : String) : Option α → Except DecodeError α
  | some a => .ok a
  | none => .error (.missingField name)

def item? (items : List Json) (position : Nat) (decode : Decoder α) :
    Except DecodeError (Option α) :=
  match items[position]? with
  | none => .ok none
  | some j => (decode j).map some

end Decoder

/-! ## Records -/

/-- How a record is read. The fields of an object are read in the order of their names, the items
of an array in the order in which the record declares them. -/
structure RecordReader (α : Type) where
  name : String
  size : Nat
  /-- Reads the record from the fields of an object; other fields are ignored. -/
  ofFields : List (String × Json) → Except DecodeError α
  /-- Reads the record from the first items of an array, given the error for too few. -/
  ofItems : (Nat → DecodeError) → List Json → Except DecodeError α

namespace RecordReader

variable {α : Type}

/-- The error for an array that ends before a field without a default. -/
def tooShort (r : RecordReader α) (length : Nat) : DecodeError :=
  .invalidLength length ("struct " ++ r.name ++ " with " ++ toString r.size ++
    (if r.size = 1 then " element" else " elements"))

/-- The record from the items of an array; `tooLong` is the error for items left over. -/
def ofArray (r : RecordReader α) (tooLong : DecodeError) (items : List Json) :
    Except DecodeError α := do
  let a ← r.ofItems r.tooShort items
  if r.size < items.length then .error tooLong else .ok a

def decode (r : RecordReader α) : Decoder α
  | .object fields => r.ofFields fields
  | .array items => r.ofArray (.invalidLength items.length "fewer elements in array") items
  | j => Decoder.mismatch j ("struct " ++ r.name)

def requireItem (tooShort : Nat → DecodeError) (items : List Json) (position : Nat)
    (decode : Decoder α) : Except DecodeError α := do
  match ← Decoder.item? items position decode with
  | some a => .ok a
  | none => .error (tooShort position)

end RecordReader

end IdentityStore.Json
