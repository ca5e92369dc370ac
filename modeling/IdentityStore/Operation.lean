import IdentityStore.Json.Decode
import IdentityStore.Text.Lowercase

/-!
# Operations

What can be done to an entity of an identity store. The order tells operations apart
(`Operation.compare_eq_iff`).
-/

namespace IdentityStore

open Text (lowercase)

inductive Operation where
  | create
  | read
  | update
  | delete
deriving DecidableEq

namespace Operation

def all : List Operation := [create, read, update, delete]

def name : Operation → String
  | create => "create"
  | read => "read"
  | update => "update"
  | delete => "delete"

def label : Operation → String
  | create => "Create"
  | read => "Read"
  | update => "Update"
  | delete => "Delete"

def rank : Operation → Nat
  | create => 0
  | read => 1
  | update => 2
  | delete => 3

instance : Ord Operation := ⟨compareOn rank⟩

theorem compare_eq_iff {a b : Operation} : compare a b = .eq ↔ a = b := by
  cases a <;> cases b <;> decide

/-- The operation that a text names. Case does not count; blanks do. -/
def parse (text : String) : Except Error Operation :=
  let word := lowercase text
  match all.find? fun o => o.name == word with
  | some o => .ok o
  | none => .error (.invalidArgument (.unknownOperation word))

def toJson (o : Operation) : Json := .string o.name

def decode : Json.Decoder Operation := .choice (all.map fun o => (o.name, o))

end Operation

end IdentityStore
