import IdentityStore.ConfigValue.Basic
import IdentityStore.Json.Decode

/-!
# Configuration values and JSON

A configuration value is read from JSON in two ways. `ConfigValue.ofJson` follows the shape of the
JSON value. `ConfigValue.decode` tries the shapes of a configuration value one after the other and
takes the first that fits.
-/

namespace IdentityStore.ConfigValue

open Json (Decoder DecodeError)

/-! ## The direct way -/

/-- A number is an integer when it is held as one in the signed range, else a double. -/
def ofNumber (n : Json.Number) : ConfigValue :=
  match n.int64? with
  | some i => .integer i
  | none => .float n.toDouble

mutual

def ofJson : Json → ConfigValue
  | .null => .null
  | .bool b => .bool b
  | .number n => ofNumber n
  | .string s => .string s
  | .array items => .array (ofItems items)
  | .object fields => .ofEntries (ofFields fields)

def ofItems : List Json → List ConfigValue
  | [] => []
  | j :: rest => ofJson j :: ofItems rest

def ofFields : List (String × Json) → List (String × ConfigValue)
  | [] => []
  | (name, j) :: rest => (name, ofJson j) :: ofFields rest

end

/-! ## By trial -/

def readNull? : Json → Option ConfigValue
  | .null => some .null
  | _ => none

def readBool? : Json → Option ConfigValue
  | .bool b => some (.bool b)
  | _ => none

def readInteger? : Json → Option ConfigValue
  | .number n => n.int64?.map .integer
  | _ => none

def readFloat? : Json → Option ConfigValue
  | .number n => some (.float n.toDouble)
  | _ => none

def readString? : Json → Option ConfigValue
  | .string s => some (.string s)
  | _ => none

mutual

/-- The first shape that fits, in the order in which the shapes are declared. -/
def read? (j : Json) : Option ConfigValue :=
  readNull? j <|> readBool? j <|> readInteger? j <|> readFloat? j <|> readString? j <|>
    (match j with
      | .array items => (readItems? items).map .array
      | _ => none) <|>
    (match j with
      | .object fields => (readFields? fields).map .ofEntries
      | _ => none)

def readItems? : List Json → Option (List ConfigValue)
  | [] => some []
  | j :: rest => do return (← read? j) :: (← readItems? rest)

def readFields? : List (String × Json) → Option (List (String × ConfigValue))
  | [] => some []
  | (name, j) :: rest => do return (name, ← read? j) :: (← readFields? rest)

end

/-- The configuration value of a JSON value, by trial. -/
def decode : Decoder ConfigValue := fun j =>
  match read? j with
  | some v => .ok v
  | none => .error (.noAlternative "ConfigValue")

def decodeFields : List (String × Json) → Except DecodeError (List (String × ConfigValue))
  | [] => .ok []
  | (name, j) :: rest => do
    let v ← decode j
    return (name, v) :: (← decodeFields rest)

/-! ## Writing -/

mutual

/-- The JSON value of a configuration value. The fields of an object stand in the order of their
names. -/
def toJson : ConfigValue → Json
  | null => .null
  | bool b => .bool b
  | integer i => .ofInt64 i
  | float x => .ofDouble x
  | string s => .string s
  | array items => .array (toItems items)
  | map entries => .object (Keyed.sorted (toFields entries))

def toItems : List ConfigValue → List Json
  | [] => []
  | v :: rest => toJson v :: toItems rest

def toFields : List (String × ConfigValue) → List (String × Json)
  | [] => []
  | (name, v) :: rest => (name, toJson v) :: toFields rest

end

end IdentityStore.ConfigValue
