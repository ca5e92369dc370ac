import IdentityStore.Text.Join
import IdentityStore.Text.Quoted

/-!
# Outlines

An outline is a value as a developer wants to see it: records with their field names, tags with
their arguments, lists, and plain texts at the leaves.

* `compact` writes an outline on one line.
* `expanded` writes every field, argument and item on a line of its own, indented by four blanks
  and followed by a comma.
-/

namespace IdentityStore.Text

inductive Outline where
  | leaf (text : String)
  | record (name : String) (fields : List (String × Outline))
  | tagged (name : String) (arguments : List Outline)
  | list (items : List Outline)

namespace Outline

def text (s : String) : Outline := leaf (quoted s)

def optional : Option Outline → Outline
  | none => leaf "None"
  | some o => tagged "Some" [o]

def bool (b : Bool) : Outline := leaf (if b then "true" else "false")

/-! ## On one line -/

mutual

def compact : Outline → String
  | leaf text => text
  | record name [] => name
  | record name fields => name ++ " \x7b " ++ join ", " (compactFields fields) ++ " \x7d"
  | tagged name arguments => name ++ "(" ++ join ", " (compactItems arguments) ++ ")"
  | list items => "[" ++ join ", " (compactItems items) ++ "]"

def compactFields : List (String × Outline) → List String
  | [] => []
  | (name, o) :: rest => (name ++ ": " ++ compact o) :: compactFields rest

def compactItems : List Outline → List String
  | [] => []
  | o :: rest => compact o :: compactItems rest

end

/-! ## On several lines -/

/-- Lines indented by four blanks, with a comma after the last. -/
def indented : List String → List String
  | [] => []
  | [line] => ["    " ++ line ++ ","]
  | line :: rest => ("    " ++ line) :: indented rest

/-- The lines of one part of an outline, with a label before the first. -/
def part (label : String) : List String → List String
  | [] => []
  | line :: rest => indented ((label ++ line) :: rest)

mutual

def lines : Outline → List String
  | leaf text => [text]
  | record name [] => [name]
  | record name fields => (name ++ " \x7b") :: lineFields fields ++ ["\x7d"]
  | tagged name arguments => (name ++ "(") :: lineItems arguments ++ [")"]
  | list [] => ["[]"]
  | list items => "[" :: lineItems items ++ ["]"]

def lineFields : List (String × Outline) → List String
  | [] => []
  | (name, o) :: rest => part (name ++ ": ") (lines o) ++ lineFields rest

def lineItems : List Outline → List String
  | [] => []
  | o :: rest => part "" (lines o) ++ lineItems rest

end

def expanded (o : Outline) : String := join "\n" (lines o)

end Outline

end IdentityStore.Text
