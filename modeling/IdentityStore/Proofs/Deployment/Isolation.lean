import IdentityStore.Proofs.Deployment.Handle
import IdentityStore.Proofs.Deployment.Validate

/-!
# The stores of a deployment are independent

A session on the draft of a deployment is, for each type of store, a session on a draft of its own.
That session has the steps that are taken on this store, and a validation whenever the deployment
is validated or built and the validation comes to the store.

* **The steps on one store** (`DeploymentStep.onStore?`, `DeploymentDraft.stepsOn`). A validation of
  the deployment is one of them if it comes to the store (`DeploymentDraft.Reaches`).
* **One step** (`slot_step`, `configured_step`) acts on the draft of each store as the step that it
  is for this store, and visits what its chain names. **A session** (`slot_afterAll`,
  `configured_afterAll`) does so step by step.
* `store_isolated`: sessions that start anew, and what the handles of a store show after them.
-/

namespace IdentityStore

open Text (Path)

namespace DeploymentStep

/-- The stores that a step visits, in order. -/
def visits : DeploymentStep → List StoreType
  | visit chain => chain
  | through via k _ => via ++ [k]
  | validate | build => []

end DeploymentStep

namespace DeploymentDraft

variable {d : DeploymentDraft} {k : StoreType}

/-- The validation of the deployment comes to the store of a type: the store was visited, and the
drafts of all stores that were visited before it are validated successfully. -/
def Reaches (d : DeploymentDraft) (k : StoreType) : Prop :=
  k ∈ d.configured ∧
    ∀ j ∈ d.configured.takeWhile (· ≠ k), (StoreDraft.validate.run (d.slot j)).answer = .ok ()

theorem answer_validate_slot_iff :
    (StoreDraft.validate.run (d.slot k)).answer = .ok () ↔ d.Ready k := by
  rcases StoreDraft.answer_state_validate (d.slot k) with ⟨h, ha, -⟩ | ⟨h, ha, -⟩
  · refine ⟨fun e => ?_, fun hr => absurd h hr⟩
    rw [ha] at e
    cases e
  · exact ⟨fun _ => h, fun _ => ha⟩

instance (d : DeploymentDraft) (k : StoreType) : Decidable (d.Reaches k) :=
  decidable_of_iff (k ∈ d.configured ∧ ∀ j ∈ d.configured.takeWhile (· ≠ k), d.Ready j)
    (by simp only [Reaches, answer_validate_slot_iff])

end DeploymentDraft

/-- The step that a step on a deployment is for the store of a type, if it is one. -/
def DeploymentStep.onStore? (d : DeploymentDraft) (k : StoreType) :
    DeploymentStep → Option (StoreStep k)
  | visit _ => none
  | through _ j t => if h : j = k then some (h ▸ t) else none
  | validate | build => if d.Reaches k then some .validate else none

namespace DeploymentDraft

/-- The steps that a session takes on the store of a type. -/
def stepsOn (k : StoreType) : List DeploymentStep → DeploymentDraft → List (StoreStep k)
  | [], _ => []
  | x :: rest, d => (x.onStore? d k).toList ++ stepsOn k rest ((step x).run d).state

variable {d : DeploymentDraft} {k : StoreType}

/-! ## One step -/

theorem mem_readyUpTo_iff : k ∈ d.readyUpTo d.configured ↔ d.Reaches k ∧ d.Ready k := by
  rw [mem_readyUpTo]
  simp only [Reaches, answer_validate_slot_iff]

theorem slot_validate (d : DeploymentDraft) (k : StoreType) :
    (validate.run d).state.slot k =
      StoreDraft.afterAll (DeploymentStep.validate.onStore? d k).toList (d.slot k) := by
  rw [state_validate, slot_closeAll, DeploymentStep.onStore?]
  simp only [mem_readyUpTo_iff]
  by_cases hreach : d.Reaches k
  · have hstep : ((StoreDraft.step .validate).run (d.slot k)).state =
        (StoreDraft.validate.run (d.slot k)).state :=
      congrArg Outcome.state (StoreDraft.run_step_validate (d.slot k))
    rw [if_pos hreach]
    refine Eq.trans ?_ hstep.symm
    rcases StoreDraft.answer_state_validate (d.slot k) with ⟨h, -, hs⟩ | ⟨h, -, hs⟩
    · have hready : ¬ d.Ready k := not_not_intro h
      rw [hs, if_neg fun hr => hready hr.2]
    · rw [hs, if_pos ⟨hreach, h⟩]
  · rw [if_neg hreach, if_neg fun hr => hreach hr.1]
    rfl

/-- **One step** is on each store the step that it is for this store. -/
theorem slot_step (x : DeploymentStep) (d : DeploymentDraft) (k : StoreType) :
    ((step x).run d).state.slot k = StoreDraft.afterAll (x.onStore? d k).toList (d.slot k) := by
  cases x with
  | visit chain =>
    rw [step, Action.run_bind_of_ok (run_visitAll chain d)]
    exact slot_visited d chain k
  | through via j t =>
    rw [run_step_through, DeploymentStep.onStore?]
    by_cases h : j = k
    · subst h
      rw [dif_pos rfl]
      exact slot_setSlot _ _
    · rw [dif_neg h]
      exact (slot_setSlot_of_ne _ _ (Ne.symm h)).trans (slot_visited d _ k)
  | validate =>
    rw [step, Action.run_bind_return]
    exact slot_validate d k
  | build =>
    rw [step, Action.run_bind_return, state_build]
    exact slot_validate d k

/-- **One step** makes the stores that it visits part of the deployment. -/
theorem configured_step (x : DeploymentStep) (d : DeploymentDraft) :
    ((step x).run d).state.configured = d.configured ++ newVisits d.configured x.visits := by
  cases x with
  | visit chain =>
    rw [step, Action.run_bind_of_ok (run_visitAll chain d)]
    rfl
  | through via j t =>
    rw [run_step_through]
    exact configured_setSlot _ _
  | validate =>
    rw [step, Action.run_bind_return, configured_validate]
    exact (List.append_nil _).symm
  | build =>
    rw [step, Action.run_bind_return, state_build, configured_validate]
    exact (List.append_nil _).symm

/-! ## Sessions -/

/-- **A session** is on each store the session of the steps that are taken on this store. -/
theorem slot_afterAll (steps : List DeploymentStep) (d : DeploymentDraft) (k : StoreType) :
    (afterAll steps d).slot k = StoreDraft.afterAll (stepsOn k steps d) (d.slot k) := by
  induction steps generalizing d with
  | nil => rfl
  | cons x rest ih =>
    rw [afterAll_cons, ih, slot_step, stepsOn, StoreDraft.afterAll, StoreDraft.afterAll,
      StoreDraft.afterAll, Session.after_append]

/-- **A session** makes the stores that its steps visit part of the deployment. -/
theorem configured_afterAll (steps : List DeploymentStep) (d : DeploymentDraft) :
    (afterAll steps d).configured =
      d.configured ++ newVisits d.configured (steps.flatMap DeploymentStep.visits) := by
  induction steps generalizing d with
  | nil => exact (List.append_nil _).symm
  | cons x rest ih =>
    rw [afterAll_cons, ih, configured_step, List.flatMap_cons, newVisits_append, List.append_assoc]

theorem configured_afterAll_new (tmp : Path) (steps : List DeploymentStep) :
    (afterAll steps (.new tmp)).configured = (steps.flatMap DeploymentStep.visits).eraseDups := by
  rw [configured_afterAll]
  exact newVisits_of_nil _

theorem nodup_configured (tmp : Path) (steps : List DeploymentStep) :
    (afterAll steps (.new tmp)).configured.Nodup := by
  rw [configured_afterAll]
  exact nodup_append_newVisits List.nodup_nil

theorem onStore?_of_not_mem {x : DeploymentStep}
    (h : k ∉ d.configured ++ newVisits d.configured x.visits) : x.onStore? d k = none := by
  rw [mem_append_newVisits, not_or] at h
  obtain ⟨hd, hx⟩ := h
  have hr : ¬ d.Reaches k := fun hr => hd hr.1
  cases x with
  | visit chain => rfl
  | through via j t =>
    have hj : j ≠ k := by
      rintro rfl
      exact hx (List.mem_append_right via List.mem_cons_self)
    exact dif_neg hj
  | validate => exact if_neg hr
  | build => exact if_neg hr

theorem stepsOn_of_not_mem {steps : List DeploymentStep}
    (h : k ∉ (afterAll steps d).configured) : stepsOn k steps d = [] := by
  induction steps generalizing d with
  | nil => rfl
  | cons x rest ih =>
    rw [afterAll_cons] at h
    have hx : k ∉ ((step x).run d).state.configured := by
      intro hk
      rw [configured_afterAll] at h
      exact h (List.mem_append_left _ hk)
    rw [configured_step] at hx
    rw [stepsOn, onStore?_of_not_mem hx, ih h]
    rfl

/-! ## Sessions that start anew -/

theorem slot_of_not_mem_configured {tmp : Path} {steps : List DeploymentStep}
    (h : k ∉ (afterAll steps (.new tmp)).configured) :
    (afterAll steps (.new tmp)).slot k = .new k tmp := by
  rw [slot_afterAll, stepsOn_of_not_mem h, slot_new]
  rfl

/-- **The stores of a deployment are independent.** A session on a new deployment visits the stores
that its chains name, each once and in the order of the first visits. The draft of a store, and
every answer about it, is the one of the session that the store would have alone, of the steps taken
on it; a store that is not visited stays new. The handles of the store show this draft, and a step
through a chain is the step on the handle that the chain leads to. -/
theorem store_isolated (tmp : Path) (steps : List DeploymentStep) (k : StoreType) :
    let d := afterAll steps (.new tmp)
    let s := StoreDraft.afterAll (stepsOn k steps (.new tmp)) (.new k tmp)
    (d.configured = (steps.flatMap DeploymentStep.visits).eraseDups ∧ d.configured.Nodup ∧
        ∀ j, j ∈ d.configured ↔ ∃ x ∈ steps, j ∈ x.visits) ∧
      (d.slot k = s ∧
        ∀ via t, ((step (.through via k t)).run d).answer =
          ((StoreDraft.step t).run s).answer.map .ofStore) ∧
      ((∀ x ∈ steps, k ∉ x.visits) → d.slot k = .new k tmp) ∧
      ∀ via, (d.follow via k).Shows s ∧
        ∀ t, ((step (.through via k t)).run d).state =
          ((Handle.step t).run (d.follow via k)).state.deployment := by
  intro d s
  have hconfigured : d.configured = (steps.flatMap DeploymentStep.visits).eraseDups :=
    configured_afterAll_new tmp steps
  have hmem : ∀ j, j ∈ d.configured ↔ ∃ x ∈ steps, j ∈ x.visits := by
    intro j
    rw [hconfigured, List.mem_eraseDups, List.mem_flatMap]
  have hslot : d.slot k = s := by
    rw [slot_afterAll, slot_new]
  refine ⟨⟨hconfigured, nodup_configured tmp steps, hmem⟩, ⟨hslot, fun via t => ?_⟩, fun hk => ?_,
    fun via => ⟨?_, fun t => state_step_through via k t d⟩⟩
  · rw [answer_step_through, hslot]
  · refine slot_of_not_mem_configured fun hvisit => ?_
    obtain ⟨x, hx, hkx⟩ := (hmem k).1 hvisit
    exact hk x hx hkx
  · have hshows := (d.follow via k).shows_slot
    rwa [deployment_follow, slot_visited, hslot] at hshows

/-- A store that no chain comes to stays new, though the deployment is validated. -/
theorem slot_new_of_not_visited :
    let steps : List DeploymentStep :=
      [.through [.jpa] .file (.declare .supportAllFeatures), .validate]
    (∀ x ∈ steps, StoreType.ldap ∉ x.visits) ∧ (afterAll steps .new).slot .ldap = .new .ldap :=
  have hvisits : ∀ x ∈ [DeploymentStep.through [.jpa] .file (.declare .supportAllFeatures),
      .validate], StoreType.ldap ∉ x.visits := by decide
  ⟨hvisits, (store_isolated .temporary _ .ldap).2.2.1 hvisits⟩

end DeploymentDraft

end IdentityStore
