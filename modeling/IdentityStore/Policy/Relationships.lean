import IdentityStore.RelationshipType
import Std.Data.ExtTreeSet

/-!
# Classified relationships

A policy classifies relationship types as global or as self-scoped. A type may be both.
-/

namespace IdentityStore

structure Relationships where
  /-- The types whose relationships belong to no entity. -/
  global : Std.ExtTreeSet RelationshipType := ∅
  /-- The types whose relationships belong to an entity. -/
  selfScoped : Std.ExtTreeSet RelationshipType := ∅
deriving DecidableEq

namespace Relationships

instance : EmptyCollection Relationships := ⟨{}⟩

def addGlobal (r : Relationships) (types : List RelationshipType) : Relationships :=
  { r with global := r.global.insertMany types }

def addSelf (r : Relationships) (types : List RelationshipType) : Relationships :=
  { r with selfScoped := r.selfScoped.insertMany types }

def merge (r other : Relationships) : Relationships :=
  ⟨r.global ∪ other.global, r.selfScoped ∪ other.selfScoped⟩

def isGlobal (r : Relationships) (t : RelationshipType) : Bool := r.global.contains t

def isSelf (r : Relationships) (t : RelationshipType) : Bool := r.selfScoped.contains t

def overlapping (r : Relationships) : Std.ExtTreeSet RelationshipType := r.global ∩ r.selfScoped

theorem mem_overlapping_iff {r : Relationships} {t : RelationshipType} :
    t ∈ r.overlapping ↔ r.isGlobal t ∧ r.isSelf t :=
  Std.ExtTreeSet.mem_inter_iff

end Relationships

end IdentityStore
