import IdentityStore.Proofs.Policy.Contribution
import IdentityStore.Proofs.Policy.Lifecycle
import IdentityStore.Proofs.Policy.Permission

/-!
# What all policies have in common

The terms of the drafts and policies that can come about are well-formed, and the answers of a
policy about permission agree with each other because of this.

* **Proper ledgers** (`Ledger.Proper`): every note is of known operations, and of one at least.
* **Well-formed terms** (`Terms.WellFormed`): the ledger of supported types is full, the other one
  is proper, and types of relationships are classified only if they are supported. Every declaration
  keeps this (`WellFormed.amend`), so that reachable drafts have it (`Reachable.wellFormed`).
* `Reachable.sealed`: a reachable draft that is validated supports a type.
* **Consistent policies** (`Policy.Consistent`): a policy permits something on a type exactly when
  it permits some operation on it, and lists the operations that it permits.
-/

namespace IdentityStore

/-! ## Proper ledgers -/

namespace Ledger

variable {l m : Ledger} {ops : OperationSet}

/-- Every note is of known operations, and of one at least. -/
def Proper (l : Ledger) : Prop :=
  ∀ (t : ManagedType) (ops : OperationSet), l[t]? = some ops → ops.Proper

theorem proper_empty : Proper ∅ := by
  intro t ops h
  rw [Std.ExtTreeMap.getElem?_empty] at h
  cases h

theorem Proper.known_operations (h : l.Proper) (t : ManagedType) : (l.operations t).Known := by
  rw [operations]
  cases ht : l[t]? with
  | none => exact OperationSet.known_empty
  | some ops => exact (h t ops ht).known

theorem Full.known_operations (h : l.Full) (t : ManagedType) : (l.operations t).Known := by
  rw [h.operations_eq]
  split
  · exact OperationSet.known_all
  · exact OperationSet.known_empty

theorem Proper.add (h : l.Proper) (t : ManagedType) (hops : ops.Proper) : (l.add t ops).Proper := by
  intro u noted hu
  rw [getElem?_add] at hu
  split at hu
  · obtain rfl := Option.some.inj hu
    exact hops.union_left (h.known_operations t)
  · exact h u noted hu

theorem Proper.merge (h : l.Proper) (hm : m.Proper) : (l.merge m).Proper := by
  intro t noted ht
  rw [getElem?_merge] at ht
  rcases Option.or_eq_some_iff.1 ht with ho | ⟨-, hl⟩
  · obtain ⟨ops, hops, rfl⟩ := Option.map_eq_some_iff.1 ho
    exact (hm t ops hops).union_left (h.known_operations t)
  · exact h t noted hl

end Ledger

theorem PolicyDraft.proper_disabled (operations : List Operation) :
    (disabled operations).Proper := by
  cases operations with
  | nil => exact OperationSet.known_all.proper (OperationSet.contains_all .create)
  | cons o rest =>
    have hknown : (disabled (o :: rest)).Known := OperationSet.known_ofList (o :: rest)
    exact hknown.proper (contains_disabled.2 (.inr List.mem_cons_self))

/-! ## Well-formed terms -/

namespace Terms

variable {t u : Terms} {x : Declaration} {r : RelationshipType}

/-- The terms that can come about: types are supported with all operations, what is disabled is
known and not nothing, and types are classified only if they are types of relationships that are
supported. -/
structure WellFormed (t : Terms) : Prop where
  supported : t.supported.Full
  unsupported : t.unsupported.Proper
  classified : ∀ r, r ∈ t.relationships.global ∨ r ∈ t.relationships.selfScoped →
    r.managedType.kind = .relationship ∧ r.managedType ∈ t.supported

theorem wellFormed_empty : WellFormed ∅ where
  supported := Ledger.full_empty
  unsupported := Ledger.proper_empty
  classified _ hr := by
    rcases hr with hr | hr
    · exact absurd hr Relationships.mem_global_empty
    · exact absurd hr Relationships.mem_selfScoped_empty

theorem supports_of_classified (hx : ∀ p, x = .readFrom p → p.toTerms.WellFormed)
    (hr : x.MakesGlobal r ∨ x.MakesSelfScoped r) : x.Supports r.managedType := by
  cases x with
  | supportGlobal types => exact List.mem_map_of_mem (hr.resolve_right id)
  | supportSelf types => exact List.mem_map_of_mem (hr.resolve_left id)
  | readFrom policy => exact ((hx policy rfl).classified r hr).2
  | _ => exact (or_self_iff.1 hr).elim

theorem proper_unsupported_amend (ht : t.unsupported.Proper)
    (hx : ∀ p, x = .readFrom p → p.unsupported.Proper) : (x.amend t).unsupported.Proper := by
  cases x with
  | unsupportType type operations => exact ht.add type (PolicyDraft.proper_disabled operations)
  | readFrom policy => exact ht.merge (hx policy rfl)
  | _ => exact ht

/-- **A declaration keeps terms well-formed.** A type that it classifies is supported by the same
declaration, and types that are supported stay so. -/
theorem WellFormed.amend (ht : t.WellFormed) (hx : ∀ p, x = .readFrom p → p.toTerms.WellFormed) :
    (x.amend t).WellFormed where
  supported := full_supported_amend ht.supported fun p e => (hx p e).supported
  unsupported := proper_unsupported_amend ht.unsupported fun p e => (hx p e).unsupported
  classified r hr := by
    rw [mem_global_amend, mem_selfScoped_amend, or_or_or_comm] at hr
    exact ⟨r.isRelationship,
      mem_supported_amend.2 (hr.imp (fun h => (ht.classified r h).2) (supports_of_classified hx))⟩

/-- Merging is what reading a policy does. -/
theorem WellFormed.merge (ht : t.WellFormed) (hu : u.WellFormed) : (t.merge u).WellFormed := by
  refine WellFormed.amend (x := .readFrom ⟨u⟩) ht fun p hp => ?_
  cases hp
  exact hu

end Terms

/-! ## Reachable drafts -/

namespace PolicyDraft

variable {d : PolicyDraft}

/-- **The terms of reachable drafts are well-formed.** -/
theorem Reachable.wellFormed (hd : d.Reachable) : d.toTerms.WellFormed := by
  refine hd.terms_induction Terms.wellFormed_empty (fun t x hx ht => ?_) fun t u => .merge
  exact ht.amend fun p hp => absurd hp (hx p)

/-- **Reachable drafts that are validated are sealed.** -/
theorem Reachable.sealed (hd : d.Reachable) : d.state = .validated → d.Sealed := by
  have step : ∀ {d e : PolicyDraft} {t : PolicyStep}, ((PolicyDraft.step t).run d).state = e →
      (d.state = .validated → d.Sealed) → e.state = .validated → e.Sealed := by
    rintro d _ t rfl hd
    exact sealed_step hd t
  induction hd with
  | new => exact fun hv => DraftState.noConfusion hv
  | @declare d x _ _ ih => exact step (state_step (.declare x) d) ih
  | @readFrom d _ p _ _ _ ih => exact step (state_step (.declare (.readFrom p)) d) ih
  | @validate d _ ih => exact step (state_step .validate d) ih

end PolicyDraft

/-! ## Consistent policies -/

namespace Policy

variable {p : Policy}

/-- The answers of a policy agree with each other, on every type whether it was declared or not. -/
structure Consistent (p : Policy) : Prop where
  known_supported : ∀ t, (p.supportedOperations t).Known
  known_unsupported : ∀ t, (p.unsupportedOperations t).Known
  supportsType_iff : ∀ t, p.supportsType t = true ↔ ∃ o, p.supports t o = true
  operations_eq : ∀ t, (p.supportedOperations t).operations = Operation.all.filter (p.supports t)
  mem_operations : ∀ t o, o ∈ (p.supportedOperations t).operations ↔ p.supports t o = true
  mem_overlapping : ∀ r, r ∈ p.relationships.overlapping ↔ p.isGlobal r = true ∧ p.isSelf r = true

/-- **Well-formed policies are consistent.** Whether anything is permitted on a type is told by the
bits, and whether an operation is by the members; in known sets these are the same. -/
theorem consistent_of_wellFormed (h : p.toTerms.WellFormed) : p.Consistent := by
  have hknown : ∀ t, (p.supportedOperations t).Known := fun t =>
    (h.supported.known_operations t).difference _
  exact
    { known_supported := hknown
      known_unsupported := h.unsupported.known_operations
      supportsType_iff := fun t => by
        rw [supportsType, Bool.not_eq_true', OperationSet.isEmpty_eq_false_iff]
        exact (hknown t).exists_contains_iff.symm
      operations_eq := fun _ => rfl
      mem_operations := fun _ _ => OperationSet.mem_operations
      mem_overlapping := fun _ => Relationships.mem_overlapping_iff }

/-- **The invariant of drafts and policies.** The terms of every reachable draft are well-formed,
and it supports a type if it is validated. A policy that is resolved from one has well-formed terms
and supports a type, and its answers are consistent. -/
theorem wellFormed_and_consistent :
    (∀ d : PolicyDraft, d.Reachable →
        d.toTerms.WellFormed ∧ (d.state = .validated → d.supported ≠ ∅)) ∧
      ∀ p : Policy, p.Resolved → p.toTerms.WellFormed ∧ p.supported ≠ ∅ ∧ p.Consistent := by
  have hdraft : ∀ d : PolicyDraft, d.Reachable →
      d.toTerms.WellFormed ∧ (d.state = .validated → d.supported ≠ ∅) := fun d hd =>
    ⟨hd.wellFormed, fun hv => (hd.sealed hv).supports⟩
  refine ⟨hdraft, fun p hp => ?_⟩
  obtain ⟨d, hd, hresolve⟩ := hp
  obtain ⟨hv, hterms⟩ := PolicyDraft.resolve_eq_ok_iff.1 hresolve
  obtain ⟨hwell, hsupports⟩ := hdraft d hd
  rw [← hterms] at hwell hsupports
  exact ⟨hwell, hsupports hv, consistent_of_wellFormed hwell⟩

/-- A policy is read that disables deleting relationships; then their type is made self-scoped too,
and everything is disabled on a type that is not supported. Relationships are still permitted, and
of both classes. -/
theorem consistent_of_classified_twice :
    let source : Policy :=
      ⟨Terms.amendAll ∅ [.supportGlobal [.generic], .unsupportType .relationship [.delete]]⟩
    let history : List Declaration :=
      [.readFrom source, .supportSelf [.generic], .unsupportType .identity []]
    let p : Policy := ⟨Terms.amendAll ∅ history⟩
    p.Resolved ∧ (p.supportedOperations .relationship).operations = [.create, .read, .update] ∧
      p.supportsType .relationship = true ∧ (p.unsupportedOperations .identity).Known ∧
      RelationshipType.generic ∈ p.relationships.overlapping := by
  intro source history p
  have hsource : source.ResultsFrom
      [.supportGlobal [.generic], .unsupportType .relationship [.delete]] :=
    resultsFrom_iff.2 ⟨rfl, Ledger.ne_empty_iff.2 ⟨.relationship, by decide⟩⟩
  have hread : source.Resolved := hsource.isResolved (by simp [Declaration.ReadsResolved])
  have hreads : ∀ x ∈ history, x.ReadsResolved := by
    simpa [history, Declaration.ReadsResolved] using hread
  have hp : p.ResultsFrom history :=
    resultsFrom_iff.2 ⟨rfl, Ledger.ne_empty_iff.2 ⟨.relationship, by decide⟩⟩
  have hresolved : p.Resolved := hp.isResolved hreads
  obtain ⟨-, -, hcons⟩ := wellFormed_and_consistent.2 p hresolved
  have hoperations : (p.supportedOperations .relationship).operations = [.create, .read, .update] :=
    (hcons.operations_eq .relationship).trans (by decide)
  have hsupports : p.supports .relationship .read = true :=
    (hcons.mem_operations .relationship .read).1 (by rw [hoperations]; decide)
  exact ⟨hresolved, hoperations, (hcons.supportsType_iff .relationship).2 ⟨.read, hsupports⟩,
    hcons.known_unsupported .identity, (hcons.mem_overlapping .generic).2 (by decide)⟩

end Policy

end IdentityStore
