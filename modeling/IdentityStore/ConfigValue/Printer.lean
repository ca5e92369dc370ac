import IdentityStore.ConfigValue.Basic
import IdentityStore.Number.Format
import IdentityStore.Text.Join

/-!
# Text of configuration values

Lists stand in square brackets, maps in braces with their names sorted, texts between quotes as they
are, and doubles with all digits written out.
-/

namespace IdentityStore.ConfigValue

open Text (join)

def displayEntry (entry : String × String) : String :=
  "\"" ++ entry.1 ++ "\": " ++ entry.2

mutual

/-- The text of a value. The entries of a map are written in the order of their names. -/
def display : ConfigValue → String
  | null => "null"
  | bool b => if b then "true" else "false"
  | integer i => toString i.toInt
  | float x => Binary64.Format.display.render x
  | string s => "\"" ++ s ++ "\""
  | array items => "[" ++ join ", " (displayItems items) ++ "]"
  | map entries =>
    "\x7b" ++ join ", " ((Keyed.sorted (displayEntries entries)).map displayEntry) ++ "\x7d"

def displayItems : List ConfigValue → List String
  | [] => []
  | v :: rest => display v :: displayItems rest

def displayEntries : List (String × ConfigValue) → List (String × String)
  | [] => []
  | (name, v) :: rest => (name, display v) :: displayEntries rest

end

end IdentityStore.ConfigValue
