import IdentityStore.ConfigValue.Basic

/-!
# Equality of configuration values

Two configuration values are equal when they have the same shape throughout and equal leaves.
Doubles are compared as numbers, so a NaN makes a value differ from itself. The order of the names
of a map does not count.
-/

namespace IdentityStore.ConfigValue

mutual

/-- Equality of values. Values of different shapes differ, an integer and a double too. -/
def equal : ConfigValue → ConfigValue → Bool
  | null, null => true
  | bool a, bool b => a == b
  | integer a, integer b => a == b
  | float a, float b => a.equal b
  | string a, string b => a == b
  | array a, array b => equalItems a b
  | map a, map b => a.length == b.length && equalEntries a b
  | _, _ => false

def equalItems : List ConfigValue → List ConfigValue → Bool
  | [], [] => true
  | v :: vs, w :: ws => equal v w && equalItems vs ws
  | _, _ => false

/-- Whether every entry of the first list has an equal value under its name in the second. -/
def equalEntries : List (String × ConfigValue) → List (String × ConfigValue) → Bool
  | [], _ => true
  | (name, v) :: rest, other =>
    (match Keyed.get? other name with
      | some w => equal v w
      | none => false) && equalEntries rest other

end

end IdentityStore.ConfigValue
