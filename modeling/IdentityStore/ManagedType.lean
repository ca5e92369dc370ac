import IdentityStore.Text.Blank
import IdentityStore.TypeKind

/-!
# Managed types

A managed type is a category of entities: a kind and a name. Its text is the two with a colon in
between. A name is never empty and never starts or ends with a blank. The order of types is the one
of their kinds, then the one of their names, so that types can be the keys of ordered maps.
-/

namespace IdentityStore

open Text (Outline Trimmed isBlank trim)

structure ManagedType where
  kind : TypeKind
  name : String
  trimmed : Trimmed name
  nonempty : name ≠ ""
deriving DecidableEq

namespace ManagedType

@[ext] theorem eq_of_kind_of_name {a b : ManagedType} (kind : a.kind = b.kind) (name : a.name = b.name) :
    a = b := by
  obtain ⟨k, n, _, _⟩ := a
  obtain ⟨k', n', _, _⟩ := b
  cases kind
  cases name
  rfl

/-! ## Making types -/

/-- The type of a kind and a name. The blanks around the name are dropped; a name of blanks is
refused. -/
def make (kind : TypeKind) (name : String) : Except Error ManagedType :=
  if h : trim name = "" then .error (.invalidArgument .blankTypeName)
  else .ok ⟨kind, trim name, Text.trimmed_trim name, h⟩

/-- The type that a text denotes: a kind, a colon, and a name in which colons may occur. -/
def parse (text : String) : Except Error ManagedType :=
  match text.toList.dropWhile (· != ':') with
  | [] => .error (.invalidArgument (.notKindAndName text))
  | _ :: name => do
    let kind ← TypeKind.parse (.ofList (text.toList.takeWhile (· != ':')))
    make kind (.ofList name)

/-- **A type is made again** from its kind and its name. -/
theorem make_name (t : ManagedType) : make t.kind t.name = .ok t := by
  have h : trim t.name = t.name := Text.trim_of_trimmed t.trimmed
  simp only [make, h, t.nonempty, dite_false]

theorem make_eq_ok_iff {kind : TypeKind} {name : String} {t : ManagedType} :
    make kind name = .ok t ↔ t.kind = kind ∧ t.name = trim name := by
  unfold make
  split
  · next h =>
    constructor
    · intro he
      cases he
    · rintro ⟨-, hname⟩
      exact absurd (hname.trans h) t.nonempty
  · constructor
    · rintro ⟨⟩
      exact ⟨rfl, rfl⟩
    · rintro ⟨hkind, hname⟩
      exact congrArg Except.ok (eq_of_kind_of_name hkind.symm hname.symm)

/-- **Names of blanks are refused,** and no others. -/
theorem make_eq_error_iff {kind : TypeKind} {name : String} {e : Error} :
    make kind name = .error e ↔
      (∀ c ∈ name.toList, isBlank c) ∧ e = .invalidArgument .blankTypeName := by
  rw [← Text.trim_eq_empty_iff]
  unfold make
  split
  · next h => simp [h, eq_comm]
  · next h => simp [h]

def identity : ManagedType := ⟨.identity, "IdentityType", by decide, by decide⟩

def relationship : ManagedType := ⟨.relationship, "Relationship", by decide, by decide⟩

def partition : ManagedType := ⟨.partition, "Partition", by decide, by decide⟩

def defaults : List ManagedType := [identity, relationship, partition]

def isRelationship (t : ManagedType) : Bool := t.kind == .relationship

/-! ## Texts -/

/-- The text of a type: the name of its kind, a colon, and its name. -/
def display (t : ManagedType) : String := t.kind.name ++ ":" ++ t.name

def outline (t : ManagedType) : Outline :=
  .record "ManagedType" [("kind", .leaf t.kind.label), ("name", .text t.name)]

/-! ## Order -/

instance : Ord ManagedType := ⟨compareLex (compareOn fun t => t.kind.rank) (compareOn name)⟩

instance : Std.TransOrd ManagedType :=
  inferInstanceAs (Std.TransCmp (compareLex (compareOn fun t => t.kind.rank) (compareOn name)))

instance : Std.LawfulEqOrd ManagedType where
  compare_self := Std.ReflCmp.compare_self
  eq_of_compare {a b} h := by
    obtain ⟨hk, hn⟩ := Ordering.then_eq_eq.1 (show (compare a.kind b.kind).then
      (compare a.name b.name) = .eq from h)
    exact eq_of_kind_of_name (TypeKind.compare_eq_iff.1 hk) (Std.LawfulEqOrd.eq_of_compare hn)

/-! ## JSON -/

def toJson (t : ManagedType) : Json :=
  .ofFields [("kind", t.kind.toJson), ("name", .string t.name)]

def reader : Json.RecordReader (TypeKind × String) where
  name := "RawManagedType"
  size := 2
  ofFields fields := do
    let kind ← Json.Decoder.field? fields "kind" TypeKind.decode
    let name ← Json.Decoder.field? fields "name" Json.Decoder.string
    return (← Json.Decoder.require "kind" kind, ← Json.Decoder.require "name" name)
  ofItems tooShort items := do
    let kind ← Json.RecordReader.requireItem tooShort items 0 TypeKind.decode
    let name ← Json.RecordReader.requireItem tooShort items 1 Json.Decoder.string
    return (kind, name)

/-- Reads a type. The kind and the name are read first; then a name of blanks is refused. -/
def decode : Json.Decoder ManagedType := fun j => do
  let (kind, name) ← reader.decode j
  Json.Decoder.refuse (make kind name)

end ManagedType

end IdentityStore
