import IdentityStore.Json.Decode
import IdentityStore.Text.Lowercase

/-!
# Kinds of types

Identity stores manage types of four kinds. A kind is read by its name, in any case.
-/

namespace IdentityStore

open Text (EqIgnoringCase lowercase)

inductive TypeKind where
  /-- An entity with an identity: a user, a group, a role. -/
  | identity
  /-- A relation between entities. -/
  | relationship
  /-- A part of the store with entities of its own. -/
  | partition
  /-- An entity that has attributes and no identity. -/
  | attributed
deriving DecidableEq

namespace TypeKind

def all : List TypeKind := [identity, relationship, partition, attributed]

def name : TypeKind → String
  | identity => "identity"
  | relationship => "relationship"
  | partition => "partition"
  | attributed => "attributed"

def label : TypeKind → String
  | identity => "Identity"
  | relationship => "Relationship"
  | partition => "Partition"
  | attributed => "Attributed"

def rank : TypeKind → Nat
  | identity => 0
  | relationship => 1
  | partition => 2
  | attributed => 3

instance : Ord TypeKind := ⟨compareOn rank⟩

theorem compare_eq_iff {a b : TypeKind} : compare a b = .eq ↔ a = b := by
  cases a <;> cases b <;> decide

/-- The kind that a text names. Case does not count; blanks do. -/
def parse (text : String) : Except Error TypeKind :=
  let word := lowercase text
  match all.find? fun k => k.name == word with
  | some k => .ok k
  | none => .error (.invalidArgument (.unknownTypeKind word))

def toJson (k : TypeKind) : Json := .string k.name

def decode : Json.Decoder TypeKind := .choice (all.map fun k => (k.name, k))

/-! ## Names -/

theorem ascii_name (k : TypeKind) : ∀ c ∈ k.name.toList, c.toNat < 128 := by
  cases k <;> simp [name]

theorem colon_not_mem_name (k : TypeKind) : ':' ∉ k.name.toList := by
  cases k <;> decide

theorem lowercase_name (k : TypeKind) : lowercase k.name = k.name := by
  rw [Text.lowercase_of_ascii k.ascii_name]
  cases k <;> decide

/-- **A kind is read by its name** in any case. -/
theorem parse_of_eqIgnoringCase {k : TypeKind} {word : String} (h : EqIgnoringCase word k.name) :
    parse word = .ok k := by
  rw [parse, Text.lowercase_of_eqIgnoringCase k.ascii_name h, lowercase_name]
  cases k <;> rfl

theorem decode_toJson (k : TypeKind) : decode k.toJson = .ok k := by
  cases k <;> rfl

end TypeKind

end IdentityStore
