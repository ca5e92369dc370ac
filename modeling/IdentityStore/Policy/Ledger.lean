import IdentityStore.ManagedType
import IdentityStore.OperationSet
import Std.Data.ExtTreeMap

/-!
# Ledgers

A ledger notes a set of operations for each of some managed types. A policy has two of them, one
for what is supported and one for what is disabled.
-/

namespace IdentityStore

abbrev Ledger := Std.ExtTreeMap ManagedType OperationSet

namespace Ledger

def operations (l : Ledger) (t : ManagedType) : OperationSet := l[t]?.getD ∅

/-- Notes all operations for every type of a list that has no note yet. -/
def support (l : Ledger) (types : List ManagedType) : Ledger :=
  types.foldl (fun l t => l.insertIfNew t .all) l

def add (l : Ledger) (t : ManagedType) (operations : OperationSet) : Ledger :=
  l.insert t (l.operations t ∪ operations)

def merge (l other : Ledger) : Ledger :=
  l ∪ other.map fun t operations => l.operations t ∪ operations

/-! ## What a ledger notes -/

theorem getElem?_add (l : Ledger) (t : ManagedType) (ops : OperationSet) (u : ManagedType) :
    (l.add t ops)[u]? = if t = u then some (l.operations t ∪ ops) else l[u]? := by
  simp [add, Std.ExtTreeMap.getElem?_insert]

theorem operations_add (l : Ledger) (t : ManagedType) (ops : OperationSet) (u : ManagedType) :
    (l.add t ops).operations u = if t = u then l.operations u ∪ ops else l.operations u := by
  unfold operations
  rw [getElem?_add]
  by_cases h : t = u
  · subst h; simp [operations]
  · simp [h]

theorem getElem?_merge (l other : Ledger) (t : ManagedType) :
    (l.merge other)[t]? = (other[t]?.map fun ops => l.operations t ∪ ops).or l[t]? := by
  rw [merge, Std.ExtTreeMap.getElem?_union, Std.ExtTreeMap.getElem?_map]

/-- **The entry of a type after supporting types:** the old one, else all operations if the type
was listed. -/
theorem getElem?_support (l : Ledger) (types : List ManagedType) (t : ManagedType) :
    (l.support types)[t]? = l[t]?.or (if t ∈ types then some .all else none) := by
  induction types generalizing l with
  | nil => simp [support]
  | cons u rest ih =>
    have : l.support (u :: rest) = support (l.insertIfNew u .all) rest := rfl
    rw [this, ih, Std.ExtTreeMap.getElem?_insertIfNew]
    simp only [Std.compare_eq_iff_eq, List.mem_cons]
    by_cases h : u = t
    · subst h
      by_cases hm : u ∈ l
      · simp [hm]
      · simp [hm]
    · have : ¬ t = u := fun e => h e.symm
      simp [h, this]

end Ledger

end IdentityStore
