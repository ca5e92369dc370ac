import IdentityStore.Proofs.Policy.Declaration

/-!
# Histories of drafts

What a history of declarations amounts to, and which drafts and policies can come about at all.

* **Taken declarations** (`accepted_opened`, `afterAll_opened`): an open draft takes the
  declarations without a fault, and its terms are amended by these alone, one after the other.
* **Reachable drafts** (`PolicyDraft.Reachable`): those that declarations and validations make of
  a new draft. A policy that is read on the way was resolved from a reachable draft itself
  (`Policy.Resolved`).
* `Reachable.terms_induction`: what holds of the empty terms, and is kept by declarations and by
  merging, holds of the terms of every reachable draft.
* **Results** (`Policy.ResultsFrom`): the policy that a new draft leads to when it is given a
  history, validated and resolved.
-/

namespace IdentityStore

/-- The terms after declarations that are all taken. -/
def Terms.amendAll (t : Terms) (history : List Declaration) : Terms :=
  history.foldl (fun t x => x.amend t) t

namespace Terms

variable {P : Terms → Prop} {t : Terms} {history : List Declaration}

theorem amendAll_cons (t : Terms) (x : Declaration) (rest : List Declaration) :
    t.amendAll (x :: rest) = (x.amend t).amendAll rest := rfl

theorem amendAll_append (t : Terms) (history more : List Declaration) :
    t.amendAll (history ++ more) = (t.amendAll history).amendAll more :=
  List.foldl_append

theorem amendAll_induction (ht : P t) (h : ∀ x ∈ history, ∀ t, P t → P (x.amend t)) :
    P (t.amendAll history) := by
  induction history generalizing t with
  | nil => exact ht
  | cons x rest ih =>
    exact ih (h x List.mem_cons_self t ht) fun y hy => h y (List.mem_cons_of_mem _ hy)

/-- What a declaration adds to the terms is in the terms after a history when it was there before
or any of the declarations adds it. -/
theorem amendAll_iff {Q : Declaration → Prop} (h : ∀ t x, P (x.amend t) ↔ P t ∨ Q x) :
    P (t.amendAll history) ↔ P t ∨ ∃ x ∈ history, Q x := by
  induction history generalizing t with
  | nil => simp [amendAll]
  | cons x rest ih =>
    rw [amendAll_cons, ih, h]
    simp only [List.mem_cons, exists_eq_or_imp, or_assoc]

end Terms

/-- The declarations of a history that have no fault. -/
def Declaration.sound (history : List Declaration) : List Declaration :=
  history.filter fun x => x.fault? = none

namespace PolicyDraft

/-! ## Histories of open drafts -/

variable {d : PolicyDraft}

theorem accepted_opened (history : List Declaration) (h : d.state = .opened) :
    Session.accepted declare history d = Declaration.sound history := by
  induction history generalizing d with
  | nil => rfl
  | cons x rest ih =>
    rw [Session.accepted, Declaration.sound]
    cases hx : x.fault? with
    | none =>
      rw [run_declare_opened h hx, List.filter_cons_of_pos (by simp [hx])]
      exact congrArg (List.cons x) (ih (by exact h))
    | some f =>
      rw [run_declare_fault h hx, List.filter_cons_of_neg (by simp [hx])]
      exact ih h

/-- **An open draft is amended by what it takes,** and stays open. -/
theorem afterAll_opened (history : List Declaration) (h : d.state = .opened) :
    afterAll history d = { d with toTerms := d.toTerms.amendAll (Declaration.sound history) } := by
  induction history generalizing d with
  | nil => rfl
  | cons x rest ih =>
    rw [afterAll, Session.after_cons, Declaration.sound]
    cases hx : x.fault? with
    | none =>
      rw [run_declare_opened h hx, List.filter_cons_of_pos (by simp [hx])]
      exact ih h
    | some f =>
      rw [run_declare_fault h hx, List.filter_cons_of_neg (by simp [hx])]
      exact ih h

/-! ## Reachable drafts -/

/-- The drafts that can come about. -/
inductive Reachable : PolicyDraft → Prop where
  | new : Reachable .new
  /-- Something other than a policy is declared. -/
  | declare {d : PolicyDraft} (x : Declaration) (hx : ∀ p, x ≠ .readFrom p) (hd : Reachable d) :
    Reachable ((PolicyDraft.declare x).run d).state
  /-- A policy is read that was resolved from a draft that has come about before. -/
  | readFrom {d e : PolicyDraft} {p : Policy} (hd : Reachable d) (he : Reachable e)
    (hp : e.resolve = .ok p) : Reachable ((PolicyDraft.declare (.readFrom p)).run d).state
  | validate {d : PolicyDraft} (hd : Reachable d) : Reachable (PolicyDraft.validate.run d).state

end PolicyDraft

/-- The policies that can come about. -/
def Policy.Resolved (p : Policy) : Prop := ∃ d : PolicyDraft, d.Reachable ∧ d.resolve = .ok p

/-- A declaration reads no other policies than resolved ones. -/
def Declaration.ReadsResolved (x : Declaration) : Prop := ∀ p, x = .readFrom p → p.Resolved

namespace PolicyDraft

theorem Reachable.declare_of_readsResolved {d : PolicyDraft} (hd : d.Reachable) {x : Declaration}
    (hx : x.ReadsResolved) : ((PolicyDraft.declare x).run d).state.Reachable := by
  by_cases h : ∃ p, x = .readFrom p
  · obtain ⟨p, rfl⟩ := h
    obtain ⟨e, he, hp⟩ := hx p rfl
    exact .readFrom hd he hp
  · exact .declare x (fun p e => h ⟨p, e⟩) hd

theorem Reachable.afterAll {d : PolicyDraft} (hd : d.Reachable) {history : List Declaration}
    (hx : ∀ x ∈ history, x.ReadsResolved) : (PolicyDraft.afterAll history d).Reachable := by
  induction history generalizing d with
  | nil => exact hd
  | cons x rest ih =>
    exact ih (hd.declare_of_readsResolved (hx x List.mem_cons_self))
      fun y hy => hx y (List.mem_cons_of_mem _ hy)

theorem toTerms_declare (x : Declaration) (d : PolicyDraft) :
    ((PolicyDraft.declare x).run d).state.toTerms = x.amend d.toTerms ∨
      ((PolicyDraft.declare x).run d).state.toTerms = d.toTerms := by
  cases h : d.state with
  | validated => exact .inr (by rw [run_declare_validated x h])
  | opened =>
    cases hx : x.fault? with
    | none => exact .inl (by rw [run_declare_opened h hx])
    | some f => exact .inr (by rw [run_declare_fault h hx])

theorem toTerms_validate (d : PolicyDraft) :
    (PolicyDraft.validate.run d).state.toTerms = d.toTerms := by
  rcases answer_state_validate d with ⟨-, -, h⟩ | ⟨-, -, h⟩
  · rw [h]
  · rw [h, toTerms_closed]

/-- **What the terms of reachable drafts have in common.** -/
theorem Reachable.terms_induction {P : Terms → Prop} (empty : P ∅)
    (amend : ∀ t x, (∀ p, x ≠ .readFrom p) → P t → P (Declaration.amend x t))
    (merge : ∀ t u, P t → P u → P (t.merge u)) {d : PolicyDraft} (hd : d.Reachable) :
    P d.toTerms := by
  induction hd with
  | new => exact empty
  | @declare d x hx _ ih =>
    rcases toTerms_declare x d with h | h <;> rw [h]
    · exact amend _ x hx ih
    · exact ih
  | @readFrom d e p _ _ hp ihd ihe =>
    rcases toTerms_declare (.readFrom p) d with h | h <;> rw [h]
    · have ht : p.toTerms = e.toTerms := (resolve_eq_ok_iff.1 hp).2
      exact merge _ _ ihd (ht ▸ ihe)
    · exact ihd
  | @validate d _ ih => rw [toTerms_validate]; exact ih

end PolicyDraft

/-! ## Results of histories -/

/-- A new draft that is given the history can be validated, and the policy is resolved from it. -/
structure Policy.ResultsFrom (p : Policy) (history : List Declaration) : Prop where
  validated : (PolicyDraft.validate.run (PolicyDraft.afterAll history .new)).answer = .ok ()
  resolved : (PolicyDraft.validate.run (PolicyDraft.afterAll history .new)).state.resolve = .ok p

namespace Policy

/-- **A policy results from a history** exactly when the declarations that are taken make up its
terms and support a type. -/
theorem resultsFrom_iff {p : Policy} {history : List Declaration} :
    p.ResultsFrom history ↔ p.toTerms = Terms.amendAll ∅ (Declaration.sound history) ∧
      p.supported ≠ ∅ := by
  have ha : (PolicyDraft.afterAll history .new).toTerms =
      Terms.amendAll ∅ (Declaration.sound history) :=
    congrArg PolicyDraft.toTerms (PolicyDraft.afterAll_opened history rfl)
  rcases PolicyDraft.answer_state_validate (PolicyDraft.afterAll history .new) with
    ⟨he, hv, -⟩ | ⟨he, hv, hs⟩
  · constructor
    · intro h
      rw [h.validated] at hv
      cases hv
    · rintro ⟨hp, hn⟩
      rw [hp, ← ha] at hn
      exact absurd he hn
  · constructor
    · intro h
      have hr := h.resolved
      rw [hs, PolicyDraft.resolve_eq_ok_iff, PolicyDraft.toTerms_closed] at hr
      rw [hr.2, ha]
      exact ⟨rfl, ha ▸ he⟩
    · rintro ⟨hp, -⟩
      refine ⟨hv, ?_⟩
      rw [hs, PolicyDraft.resolve_eq_ok_iff, PolicyDraft.toTerms_closed]
      exact ⟨rfl, hp.trans ha.symm⟩

theorem ResultsFrom.isResolved {p : Policy} {history : List Declaration}
    (hp : p.ResultsFrom history) (hx : ∀ x ∈ history, x.ReadsResolved) : p.Resolved :=
  ⟨_, (PolicyDraft.Reachable.new.afterAll hx).validate, hp.resolved⟩

end Policy

end IdentityStore
