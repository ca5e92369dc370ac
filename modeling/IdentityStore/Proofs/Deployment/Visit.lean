import IdentityStore.Proofs.Action
import IdentityStore.Session

/-!
# Visits of stores

Visiting a chain of stores makes those that are new part of the deployment, in the order of their
first visits, and touches nothing else.

* **New visits** (`newVisits`): the stores of a chain that were not visited before, each once.
  `newVisits_append`: two chains one after the other are one long chain.
* `run_visitAll`: what a chain does.
* `run_step_through`: a step through a chain is a step on the draft of the last store.
-/

namespace IdentityStore

namespace DeploymentDraft

/-! ## New visits -/

/-- The stores of a chain that were not visited before, in the order of their first visits. -/
def newVisits (seen chain : List StoreType) : List StoreType :=
  (chain.removeAll seen).eraseDups

variable {seen chain : List StoreType} {k : StoreType}

@[simp] theorem newVisits_nil (seen : List StoreType) : newVisits seen [] = [] := rfl

theorem newVisits_of_nil (chain : List StoreType) : newVisits [] chain = chain.eraseDups := by
  have h : chain.removeAll [] = chain := by simp [List.removeAll]
  rw [newVisits, h]

theorem newVisits_cons_of_mem (h : k ∈ seen) :
    newVisits seen (k :: chain) = newVisits seen chain := by
  have hr : (k :: chain).removeAll seen = chain.removeAll seen := by
    simp [List.removeAll, h]
  rw [newVisits, hr, newVisits]

theorem newVisits_cons_of_not_mem (h : k ∉ seen) :
    newVisits seen (k :: chain) = k :: newVisits (seen ++ [k]) chain := by
  have hr : (k :: chain).removeAll seen = k :: chain.removeAll seen := by
    simp [List.removeAll, h]
  have hf : (chain.removeAll seen).filter (fun j => !j == k) = chain.removeAll (seen ++ [k]) := by
    simp only [List.removeAll, List.filter_filter]
    refine List.filter_congr fun j _ => ?_
    by_cases hj : j = k <;> simp [hj]
  rw [newVisits, hr, List.eraseDups_cons, hf, newVisits]

/-- **Two chains one after the other** visit what the long chain visits. -/
theorem newVisits_append (seen chain more : List StoreType) :
    newVisits seen (chain ++ more) =
      newVisits seen chain ++ newVisits (seen ++ newVisits seen chain) more := by
  induction chain generalizing seen with
  | nil => simp
  | cons k rest ih =>
    by_cases h : k ∈ seen
    · rw [List.cons_append, newVisits_cons_of_mem h, newVisits_cons_of_mem h, ih]
    · rw [List.cons_append, newVisits_cons_of_not_mem h, newVisits_cons_of_not_mem h, ih]
      simp

theorem mem_append_newVisits : k ∈ seen ++ newVisits seen chain ↔ k ∈ seen ∨ k ∈ chain := by
  rw [List.mem_append, newVisits, List.mem_eraseDups]
  simp only [List.removeAll, List.mem_filter]
  by_cases h : k ∈ seen <;> simp [h]

theorem newVisits_of_forall_mem (h : ∀ k ∈ chain, k ∈ seen) : newVisits seen chain = [] := by
  induction chain with
  | nil => rfl
  | cons k rest ih =>
    rw [newVisits_cons_of_mem (h k List.mem_cons_self)]
    exact ih fun j hj => h j (List.mem_cons_of_mem k hj)

theorem newVisits_of_forall_eq (hne : chain ≠ []) (h : ∀ j ∈ chain, j = k) :
    newVisits [] chain = [k] := by
  obtain ⟨j, rest, rfl⟩ := List.exists_cons_of_ne_nil hne
  obtain ⟨rfl, hrest⟩ := List.forall_mem_cons.1 h
  rw [newVisits_cons_of_not_mem List.not_mem_nil, List.nil_append,
    newVisits_of_forall_mem fun i hi => List.mem_singleton.2 (hrest i hi)]

theorem nodup_append_newVisits (h : seen.Nodup) : (seen ++ newVisits seen chain).Nodup := by
  induction chain generalizing seen with
  | nil => simpa using h
  | cons k rest ih =>
    by_cases hk : k ∈ seen
    · rw [newVisits_cons_of_mem hk]
      exact ih h
    · have hc : (seen ++ [k]).Nodup := by
        refine List.nodup_append.2 ⟨h, by simp, ?_⟩
        rintro j hj _ hm rfl
        exact hk (List.mem_singleton.1 hm ▸ hj)
      rw [newVisits_cons_of_not_mem hk, List.append_cons]
      exact ih hc

/-! ## Chains -/

/-- The draft after a chain of visits. -/
def visited (d : DeploymentDraft) (chain : List StoreType) : DeploymentDraft :=
  { d with configured := d.configured ++ newVisits d.configured chain }

@[simp] theorem configured_visited (d : DeploymentDraft) (chain : List StoreType) :
    (d.visited chain).configured = d.configured ++ newVisits d.configured chain := rfl

@[simp] theorem slot_visited (d : DeploymentDraft) (chain : List StoreType) (k : StoreType) :
    (d.visited chain).slot k = d.slot k := by
  cases k <;> rfl

@[simp] theorem visited_nil (d : DeploymentDraft) : d.visited [] = d := by
  simp [visited]

theorem visited_append (d : DeploymentDraft) (chain more : List StoreType) :
    d.visited (chain ++ more) = (d.visited chain).visited more := by
  simp [visited, newVisits_append]

theorem visited_cons (d : DeploymentDraft) (k : StoreType) (rest : List StoreType) :
    d.visited (k :: rest) = (d.visited [k]).visited rest :=
  d.visited_append [k] rest

theorem run_visit (k : StoreType) (d : DeploymentDraft) :
    (visit k).run d = ⟨.ok (), d.visited [k], (newVisits d.configured [k]).map .configuring⟩ := by
  rw [visit, Action.run_bind, Action.run_state]
  simp only
  by_cases h : k ∈ d.configured
  · simp [h, visited, newVisits_cons_of_mem h]
  · simp [h, visited, newVisits_cons_of_not_mem h, Action.run_bind, Outcome.after]

/-- **A chain of visits** tells the new ones and changes nothing but the list of them. -/
theorem run_visitAll (chain : List StoreType) (d : DeploymentDraft) :
    (visitAll chain).run d =
      ⟨.ok (), d.visited chain, (newVisits d.configured chain).map .configuring⟩ := by
  induction chain generalizing d with
  | nil => simp [visitAll]
  | cons k rest ih =>
    have hcons : visitAll (k :: rest) = visit k >>= fun _ => visitAll rest := rfl
    have hsplit : k :: rest = [k] ++ rest := rfl
    rw [hcons, Action.run_bind_of_ok (run_visit k d), ih, hsplit, visited_append, newVisits_append,
      List.map_append]
    rfl

/-! ## Steps through a chain -/

end DeploymentDraft

/-- The answer of a step on a store, as the answer of the step on the deployment. -/
def DeploymentAnswer.ofStore : StoreAnswer → DeploymentAnswer
  | .done => .done
  | .created store => .created store

namespace DeploymentDraft

theorem run_through {α : Type} (k : StoreType) (a : Action (StoreDraft k) α)
    (d : DeploymentDraft) :
    (through k a).run d =
      Outcome.after ((newVisits d.configured [k]).map .configuring)
        ⟨(a.run (d.slot k)).answer, (d.visited [k]).setSlot (a.run (d.slot k)).state,
          (a.run (d.slot k)).events⟩ := by
  rw [through, Action.run_bind_of_ok (run_visit k d), onSlot, Action.run_focus, slot_visited]

/-- **A step through a chain** visits the chain and is a step on the draft of its last store. -/
theorem run_step_through (via : List StoreType) (k : StoreType) (t : StoreStep k)
    (d : DeploymentDraft) :
    (step (.through via k t)).run d =
      Outcome.after ((newVisits d.configured (via ++ [k])).map .configuring)
        ⟨((StoreDraft.step t).run (d.slot k)).answer.map .ofStore,
          (d.visited (via ++ [k])).setSlot ((StoreDraft.step t).run (d.slot k)).state,
          ((StoreDraft.step t).run (d.slot k)).events⟩ := by
  have hstep : step (.through via k t) =
      visitAll via >>= fun _ => through k (StoreDraft.step t) >>= fun a => pure (.ofStore a) := by
    rw [step]
    congr
    funext _
    congr
    funext a
    cases a <;> rfl
  rw [hstep, Action.run_bind_of_ok (run_visitAll via d), Action.run_bind_return, run_through,
    slot_visited, visited_append, newVisits_append, List.map_append]
  simp only [Outcome.after, configured_visited, List.append_assoc]

end DeploymentDraft

end IdentityStore
