import IdentityStore.ManagedType

/-!
# Relationship types

A relationship type is a managed type of relationship kind. Its text and its JSON value are those of
the managed type.
-/

namespace IdentityStore

open Text (Outline)

structure RelationshipType where
  managedType : ManagedType
  isRelationship : managedType.kind = .relationship
deriving DecidableEq

namespace RelationshipType

theorem eq_of_managedType {a b : RelationshipType} (h : a.managedType = b.managedType) : a = b := by
  obtain ⟨m, _⟩ := a
  obtain ⟨m', _⟩ := b
  cases h
  rfl

/-- A managed type as a relationship type. Types of other kinds are refused. -/
def ofManagedType (t : ManagedType) : Except Error RelationshipType :=
  if h : t.kind = .relationship then .ok ⟨t, h⟩
  else .error (.invalidArgument (.notRelationship t.display))

theorem ofManagedType_managedType (r : RelationshipType) :
    ofManagedType r.managedType = .ok r := by
  simp [ofManagedType, r.isRelationship]

theorem ofManagedType_eq_ok_iff {t : ManagedType} {r : RelationshipType} :
    ofManagedType t = .ok r ↔ r.managedType = t := by
  constructor
  · intro h
    unfold ofManagedType at h
    split at h
    · cases h
      rfl
    · cases h
  · rintro rfl
    exact ofManagedType_managedType r

def make (name : String) : Except Error RelationshipType :=
  ManagedType.make .relationship name >>= ofManagedType

def generic : RelationshipType := ⟨.relationship, rfl⟩

def parse (text : String) : Except Error RelationshipType :=
  ManagedType.parse text >>= ofManagedType

def display (r : RelationshipType) : String := r.managedType.display

def outline (r : RelationshipType) : Outline :=
  .tagged "RelationshipType" [r.managedType.outline]

/-! ## Order -/

instance : Ord RelationshipType := ⟨compareOn managedType⟩

instance : Std.TransOrd RelationshipType :=
  inferInstanceAs (Std.TransCmp (compareOn managedType))

instance : Std.LawfulEqOrd RelationshipType where
  compare_self := Std.ReflCmp.compare_self
  eq_of_compare {a b} h := eq_of_managedType (Std.LawfulEqOrd.eq_of_compare
    (show compare a.managedType b.managedType = .eq from h))

/-! ## JSON -/

def toJson (r : RelationshipType) : Json := r.managedType.toJson

/-- Reads a relationship type: a managed type first, which is then refused if it is of another
kind. -/
def decode : Json.Decoder RelationshipType := fun j => do
  let t ← ManagedType.decode j
  Json.Decoder.refuse (ofManagedType t)

end RelationshipType

end IdentityStore
