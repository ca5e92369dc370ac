import IdentityStore.Operation

/-!
# Sets of operations

A set of operations is a byte. Each operation has a bit of its own, and the four high bits belong
to no operation; the operations of words keep them, except the complement.
-/

namespace IdentityStore

open Text (Outline join)

def Operation.bit : Operation → UInt8
  | create => 1
  | read => 2
  | update => 4
  | delete => 8

structure OperationSet where
  /-- One bit for each operation, and four bits that belong to none. -/
  bits : UInt8
deriving DecidableEq

namespace OperationSet

/-! ## Sets and their members -/

def empty : OperationSet := ⟨0⟩

instance : EmptyCollection OperationSet := ⟨empty⟩

instance : Inhabited OperationSet := ⟨empty⟩

def all : OperationSet := ⟨15⟩

def single (o : Operation) : OperationSet := ⟨o.bit⟩

/-- Whether every bit of the second set is in the first. -/
def includes (s t : OperationSet) : Bool := s.bits &&& t.bits == t.bits

def contains (s : OperationSet) (o : Operation) : Bool := s.includes (single o)

instance : Membership Operation OperationSet := ⟨fun s o => s.contains o = true⟩

instance (o : Operation) (s : OperationSet) : Decidable (o ∈ s) :=
  inferInstanceAs (Decidable (s.contains o = true))

def intersects (s t : OperationSet) : Bool := s.bits &&& t.bits != 0

def isEmpty (s : OperationSet) : Bool := s.bits == 0

def isAll (s : OperationSet) : Bool := s.includes all

def operations (s : OperationSet) : List Operation := Operation.all.filter s.contains

/-! ## Operations of words -/

def union (s t : OperationSet) : OperationSet := ⟨s.bits ||| t.bits⟩

def inter (s t : OperationSet) : OperationSet := ⟨s.bits &&& t.bits⟩

def difference (s t : OperationSet) : OperationSet := ⟨s.bits &&& ~~~ t.bits⟩

def symmetricDifference (s t : OperationSet) : OperationSet := ⟨s.bits ^^^ t.bits⟩

def complement (s : OperationSet) : OperationSet := ⟨~~~ s.bits &&& all.bits⟩

instance : Union OperationSet := ⟨union⟩
instance : Inter OperationSet := ⟨inter⟩
instance : SDiff OperationSet := ⟨difference⟩

def insert (s : OperationSet) (o : Operation) : OperationSet := s ∪ single o

def ofList (l : List Operation) : OperationSet := l.foldl insert ∅

/-! ## Bytes -/

def truncate (bits : UInt8) : OperationSet := ⟨bits &&& all.bits⟩

def ofBits? (bits : UInt8) : Option OperationSet :=
  if bits &&& ~~~ all.bits = 0 then some ⟨bits⟩ else none

/-! ## Texts -/

def display (s : OperationSet) : String :=
  "[" ++ join ", " (s.operations.map Operation.name) ++ "]"

def flagName : Operation → String
  | .create => "CREATE"
  | .read => "READ"
  | .update => "UPDATE"
  | .delete => "DELETE"

def hexadecimal (bits : UInt8) : String := "0x" ++ .ofList (Nat.toDigits 16 bits.toNat)

/-- The set as a developer wants to see it: the names of its bits, and what is left in
hexadecimal digits. -/
def outline (s : OperationSet) : Outline :=
  let rest := s \ all
  let flags := s.operations.map flagName ++
    if rest.isEmpty then [] else [hexadecimal rest.bits]
  .tagged "IdentityOperations" [.leaf (if flags = [] then "0x0" else join " | " flags)]

/-! ## Laws of membership -/

/-- **A member is a set bit** at the position of the operation. -/
theorem contains_eq_getLsbD (s : OperationSet) (o : Operation) :
    s.contains o = s.bits.toBitVec.getLsbD o.rank := by
  obtain ⟨⟨b⟩⟩ := s
  cases o <;> revert b <;> decide +kernel

@[simp] theorem contains_union (s t : OperationSet) (o : Operation) :
    (s ∪ t).contains o = (s.contains o || t.contains o) := by
  simp only [contains_eq_getLsbD]
  exact BitVec.getLsbD_or

@[simp] theorem contains_difference (s t : OperationSet) (o : Operation) :
    (s \ t).contains o = (s.contains o && !t.contains o) := by
  have h : o.rank < 8 := by cases o <;> decide
  have hd : (s \ t).bits.toBitVec = s.bits.toBitVec &&& ~~~ t.bits.toBitVec := rfl
  simp [contains_eq_getLsbD, hd, h]

@[simp] theorem contains_empty (o : Operation) : (∅ : OperationSet).contains o = false := by
  cases o <;> decide

@[simp] theorem contains_all (o : Operation) : all.contains o = true := by
  cases o <;> decide

@[simp] theorem contains_single {o p : Operation} : (single p).contains o = true ↔ o = p := by
  cases o <;> cases p <;> decide

/-- **The members of the set of a list** are the members of the list. -/
theorem contains_ofList {l : List Operation} {o : Operation} :
    (ofList l).contains o = true ↔ o ∈ l := by
  have step : ∀ s : OperationSet,
      (l.foldl insert s).contains o = true ↔ s.contains o = true ∨ o ∈ l := by
    induction l with
    | nil => simp
    | cons p rest ih =>
      intro s
      rw [List.foldl_cons, ih, insert, contains_union, Bool.or_eq_true, contains_single,
        List.mem_cons, or_assoc]
  rw [ofList, step]
  simp

end OperationSet

end IdentityStore
