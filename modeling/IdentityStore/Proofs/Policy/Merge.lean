import IdentityStore.Policy.Basic
import IdentityStore.Proofs.OperationSet
import IdentityStore.Proofs.Policy.Ledger

/-!
# Merging the parts of policies

Merging is associative in every part of a policy, and what is written into a part can be written
before or after another one is merged in front of it.

* **Ledgers** are equal when they have notes for the same types and note the same operations
  (`Ledger.eq_of_operations`). `Ledger.merge_support` needs that the ledger in front is full: a note
  that was narrow would stay narrow if the types are supported afterwards.
* **Relationships**: classifying types is merging them in.
* **Tables**: setting a value is overriding the table by that value alone.
* **Credentials**, **terms** (`Credentials.merge_assoc`, `Terms.merge_assoc`): part by part.
-/

namespace IdentityStore

/-! ## Ledgers -/

namespace Ledger

variable {l m n : Ledger} {t : ManagedType}

theorem getElem?_of_mem (h : t ∈ l) : l[t]? = some (l.operations t) := by
  obtain ⟨ops, hops⟩ := Option.isSome_iff_exists.1 (Std.ExtTreeMap.mem_iff_isSome_getElem?.1 h)
  rw [operations, hops, Option.getD_some]

theorem operations_of_not_mem (h : t ∉ l) : l.operations t = ∅ := by
  rw [operations, Std.ExtTreeMap.getElem?_eq_none h, Option.getD_none]

/-- **Ledgers are equal** when they have notes for the same types and note the same. -/
theorem eq_of_operations (hmem : ∀ t : ManagedType, t ∈ l ↔ t ∈ m)
    (hops : ∀ t, l.operations t = m.operations t) : l = m := by
  refine Std.ExtTreeMap.ext_getElem? fun t => ?_
  by_cases h : t ∈ l
  · rw [getElem?_of_mem h, getElem?_of_mem ((hmem t).1 h), hops]
  · rw [Std.ExtTreeMap.getElem?_eq_none h,
      Std.ExtTreeMap.getElem?_eq_none (mt (hmem t).2 h)]

theorem mem_add {ops : OperationSet} {u : ManagedType} : u ∈ l.add t ops ↔ t = u ∨ u ∈ l := by
  rw [add, Std.ExtTreeMap.mem_insert, Std.compare_eq_iff_eq]

theorem operations_merge (l m : Ledger) (t : ManagedType) :
    (l.merge m).operations t = l.operations t ∪ m.operations t := by
  by_cases h : t ∈ m
  · rw [operations, getElem?_merge, getElem?_of_mem h]
    rfl
  · rw [operations, getElem?_merge, Std.ExtTreeMap.getElem?_eq_none h, operations_of_not_mem h,
      OperationSet.union_empty]
    rfl

theorem operations_support (l : Ledger) (types : List ManagedType) (t : ManagedType) :
    (l.support types).operations t =
      if t ∈ l then l.operations t else if t ∈ types then .all else ∅ := by
  rw [operations, getElem?_support]
  by_cases h : t ∈ l
  · rw [if_pos h, getElem?_of_mem h]
    rfl
  · rw [if_neg h, Std.ExtTreeMap.getElem?_eq_none h]
    by_cases ht : t ∈ types <;> simp [ht]

theorem merge_assoc (l m n : Ledger) : (l.merge m).merge n = l.merge (m.merge n) := by
  refine eq_of_operations (fun t => ?_) fun t => ?_
  · simp only [mem_merge, or_assoc]
  · simp only [operations_merge, OperationSet.union_assoc]

theorem merge_empty (l : Ledger) : l.merge ∅ = l := by
  refine eq_of_operations (fun t => ?_) fun t => ?_
  · rw [mem_merge]
    exact or_iff_left Std.ExtTreeMap.not_mem_empty
  · rw [operations_merge, operations_of_not_mem Std.ExtTreeMap.not_mem_empty,
      OperationSet.union_empty]

theorem merge_add (l m : Ledger) (t : ManagedType) (ops : OperationSet) :
    (l.merge m).add t ops = l.merge (m.add t ops) := by
  refine eq_of_operations (fun u => ?_) fun u => ?_
  · simp only [mem_add, mem_merge]
    exact or_left_comm
  · simp only [operations_add, operations_merge]
    by_cases h : t = u
    · rw [if_pos h, if_pos h, OperationSet.union_assoc]
    · rw [if_neg h, if_neg h]

theorem Full.operations_eq (h : l.Full) (t : ManagedType) :
    l.operations t = if t ∈ l then .all else ∅ := by
  by_cases ht : t ∈ l
  · rw [if_pos ht]
    exact h t _ (getElem?_of_mem ht)
  · rw [if_neg ht, operations_of_not_mem ht]

/-- **Types may be supported before or after a full ledger is merged in front.** -/
theorem merge_support (hl : l.Full) (m : Ledger) (types : List ManagedType) :
    (l.merge m).support types = l.merge (m.support types) := by
  refine eq_of_operations (fun t => ?_) fun t => ?_
  · simp only [mem_support, mem_merge, or_assoc]
  · have hall : OperationSet.all ∪ OperationSet.all = OperationSet.all := rfl
    simp only [operations_support, operations_merge, mem_merge, hl.operations_eq t]
    by_cases hm : t ∈ m
    · rw [if_pos (.inr hm), if_pos hm]
    · rw [if_neg hm, operations_of_not_mem hm, OperationSet.union_empty]
      -- a type without a note in the second ledger gets all operations, or has all of them
      by_cases ht : t ∈ l <;> by_cases hs : t ∈ types <;> simp [ht, hs, hm, hall]

end Ledger

/-! ## Relationships -/

namespace Relationships

variable {r s : Relationships} {t : RelationshipType} {types : List RelationshipType}

theorem eq_of_mem (hglobal : ∀ t, t ∈ r.global ↔ t ∈ s.global)
    (hself : ∀ t, t ∈ r.selfScoped ↔ t ∈ s.selfScoped) : r = s := by
  obtain ⟨g, u⟩ := r
  obtain ⟨g', u'⟩ := s
  obtain rfl : g = g' := Std.ExtTreeSet.ext_mem hglobal
  obtain rfl : u = u' := Std.ExtTreeSet.ext_mem hself
  rfl

@[simp] theorem mem_global_empty : t ∉ (∅ : Relationships).global := Std.ExtTreeSet.not_mem_empty

@[simp] theorem mem_selfScoped_empty : t ∉ (∅ : Relationships).selfScoped :=
  Std.ExtTreeSet.not_mem_empty

@[simp] theorem mem_global_merge : t ∈ (r.merge s).global ↔ t ∈ r.global ∨ t ∈ s.global :=
  Std.ExtTreeSet.mem_union_iff

@[simp] theorem mem_selfScoped_merge :
    t ∈ (r.merge s).selfScoped ↔ t ∈ r.selfScoped ∨ t ∈ s.selfScoped :=
  Std.ExtTreeSet.mem_union_iff

@[simp] theorem mem_global_addGlobal :
    t ∈ (r.addGlobal types).global ↔ t ∈ r.global ∨ t ∈ types := by
  rw [addGlobal, Std.ExtTreeSet.mem_insertMany_list, List.contains_iff_mem]

@[simp] theorem mem_selfScoped_addSelf :
    t ∈ (r.addSelf types).selfScoped ↔ t ∈ r.selfScoped ∨ t ∈ types := by
  rw [addSelf, Std.ExtTreeSet.mem_insertMany_list, List.contains_iff_mem]

theorem merge_assoc (r s u : Relationships) : (r.merge s).merge u = r.merge (s.merge u) := by
  refine eq_of_mem (fun t => ?_) fun t => ?_
  · simp only [mem_global_merge, or_assoc]
  · simp only [mem_selfScoped_merge, or_assoc]

theorem merge_empty (r : Relationships) : r.merge ∅ = r := by
  refine eq_of_mem (fun t => ?_) fun t => ?_ <;> simp

theorem addGlobal_eq_merge (r : Relationships) (types : List RelationshipType) :
    r.addGlobal types = r.merge (addGlobal ∅ types) := by
  refine eq_of_mem (fun t => ?_) fun t => ?_
  · simp
  · simp [addGlobal]

theorem addSelf_eq_merge (r : Relationships) (types : List RelationshipType) :
    r.addSelf types = r.merge (addSelf ∅ types) := by
  refine eq_of_mem (fun t => ?_) fun t => ?_
  · simp [addSelf]
  · simp

theorem merge_addGlobal (r s : Relationships) (types : List RelationshipType) :
    (r.merge s).addGlobal types = r.merge (s.addGlobal types) := by
  rw [addGlobal_eq_merge, merge_assoc, ← addGlobal_eq_merge]

theorem merge_addSelf (r s : Relationships) (types : List RelationshipType) :
    (r.merge s).addSelf types = r.merge (s.addSelf types) := by
  rw [addSelf_eq_merge, merge_assoc, ← addSelf_eq_merge]

end Relationships

/-! ## Tables -/

namespace ConfigTable

theorem override_assoc (a b c : ConfigTable) :
    (a.override b).override c = a.override (b.override c) := by
  refine Std.ExtTreeMap.ext_getElem? fun name => ?_
  simp only [getElem?_override, Option.or_assoc]

theorem override_empty (a : ConfigTable) : a.override ∅ = a := by
  refine Std.ExtTreeMap.ext_getElem? fun name => ?_
  rw [getElem?_override, Std.ExtTreeMap.getElem?_empty, Option.none_or]

theorem insert_eq_override (a : ConfigTable) (name : String) (value : ConfigValue) :
    a.insert name value = a.override (Std.ExtTreeMap.insert ∅ name value) := by
  refine Std.ExtTreeMap.ext_getElem? fun other => ?_
  rw [getElem?_override, Std.ExtTreeMap.getElem?_insert, Std.ExtTreeMap.getElem?_insert,
    Std.ExtTreeMap.getElem?_empty]
  by_cases h : compare name other = .eq <;> simp [h]

theorem override_insert (a b : ConfigTable) (name : String) (value : ConfigValue) :
    (a.override b).insert name value = a.override (b.insert name value) := by
  rw [insert_eq_override, override_assoc, ← insert_eq_override]

end ConfigTable

/-! ## Credentials and terms -/

theorem Credentials.merge_assoc (a b c : Credentials) :
    (a.merge b).merge c = a.merge (b.merge c) := by
  simp only [merge, List.append_assoc, ConfigTable.override_assoc]

theorem Credentials.merge_empty (c : Credentials) : c.merge ∅ = c.setEnabled false := by
  have hhandlers : c.handlers ++ (∅ : Credentials).handlers = c.handlers := List.append_nil _
  have hproperties : c.properties.override (∅ : Credentials).properties = c.properties :=
    ConfigTable.override_empty _
  rw [merge, hhandlers, hproperties]
  rfl

theorem Terms.merge_assoc (t u v : Terms) : (t.merge u).merge v = t.merge (u.merge v) := by
  simp only [merge, Ledger.merge_assoc, Relationships.merge_assoc, Credentials.merge_assoc,
    List.append_assoc]

end IdentityStore
