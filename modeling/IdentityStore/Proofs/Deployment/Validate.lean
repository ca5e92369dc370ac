import IdentityStore.Proofs.Deployment.Visit
import IdentityStore.Proofs.Store.Steps

/-!
# Validation and building of deployments

Validation goes through the visited stores and stops at the first that supports nothing. It closes
the drafts before that one and changes nothing else. Building creates the stores once all of them
are closed.

* **Ready stores** (`Ready`): those that support a type. Closing drafts makes no store more or less
  ready (`ready_close`).
* `answer_validate`, `state_validate`: the drafts up to the first store that is not ready are
  closed.
* `run_build_of_ok`, `run_build_of_error`: building succeeds when the validation does.
-/

namespace IdentityStore.DeploymentDraft

variable {d : DeploymentDraft} {j k : StoreType} {ks : List StoreType}

/-! ## Ready stores -/

/-- The store of a type supports something, so that its draft can be validated. -/
def Ready (d : DeploymentDraft) (k : StoreType) : Prop := (d.slot k).policy.supported ≠ ∅

instance (d : DeploymentDraft) (k : StoreType) : Decidable (d.Ready k) :=
  decidable_of_iff (¬ (d.slot k).policy.supported.isEmpty = true)
    (not_congr Std.ExtTreeMap.isEmpty_iff)

/-! ## Closing drafts -/

@[simp] theorem setSlot_slot (d : DeploymentDraft) (k : StoreType) : d.setSlot (d.slot k) = d := by
  cases k <;> rfl

/-- The draft of one store is closed. -/
def close (d : DeploymentDraft) (k : StoreType) : DeploymentDraft := d.setSlot (d.slot k).closed

/-- The drafts of some stores are closed. -/
def closeAll (d : DeploymentDraft) (ks : List StoreType) : DeploymentDraft := ks.foldl close d

theorem slot_close (d : DeploymentDraft) (j k : StoreType) :
    (d.close k).slot j = if j = k then (d.slot j).closed else d.slot j := by
  by_cases h : j = k
  · subst h
    rw [if_pos rfl, close, slot_setSlot]
  · rw [if_neg h, close, slot_setSlot_of_ne d _ h]

/-- **Closing drafts** closes exactly those. -/
theorem slot_closeAll (d : DeploymentDraft) (ks : List StoreType) (j : StoreType) :
    (d.closeAll ks).slot j = if j ∈ ks then (d.slot j).closed else d.slot j := by
  induction ks generalizing d with
  | nil => simp [closeAll]
  | cons k rest ih =>
    have step : d.closeAll (k :: rest) = (d.close k).closeAll rest := rfl
    rw [step, ih, slot_close]
    -- a draft that is closed twice is as closed as before
    by_cases h : j = k <;> by_cases hr : j ∈ rest <;> simp [h, hr]

@[simp] theorem configured_closeAll (d : DeploymentDraft) (ks : List StoreType) :
    (d.closeAll ks).configured = d.configured := by
  induction ks generalizing d with
  | nil => rfl
  | cons k rest ih => exact (ih (d.close k)).trans (configured_setSlot d _)

theorem ready_close : (d.close k).Ready j ↔ d.Ready j := by
  rw [Ready, slot_close]
  by_cases h : j = k <;> simp [h, Ready]

/-! ## Validation -/

/-- The stores of a list up to the first that is not ready. -/
def readyUpTo (d : DeploymentDraft) (ks : List StoreType) : List StoreType :=
  ks.takeWhile fun k => d.Ready k

theorem mem_readyUpTo :
    k ∈ d.readyUpTo ks ↔ (k ∈ ks ∧ ∀ j ∈ ks.takeWhile (· ≠ k), d.Ready j) ∧ d.Ready k := by
  induction ks with
  | nil => simp [readyUpTo]
  | cons i rest ih =>
    rw [readyUpTo] at ih ⊢
    by_cases h : i = k
    · subst h
      by_cases hr : d.Ready i <;> simp [hr]
    · by_cases hr : d.Ready i <;> simp [hr, h, Ne.symm h, ih]

theorem readyUpTo_close : (d.close k).readyUpTo ks = d.readyUpTo ks := by
  simp only [readyUpTo, ready_close]

theorem answer_state_onSlot_validate (d : DeploymentDraft) (k : StoreType) :
    (¬ d.Ready k ∧ ((onSlot k StoreDraft.validate).run d).answer =
        .error (.configuration .noSupportedTypes) ∧
        ((onSlot k StoreDraft.validate).run d).state = d) ∨
      (d.Ready k ∧ ((onSlot k StoreDraft.validate).run d).answer = .ok () ∧
        ((onSlot k StoreDraft.validate).run d).state = d.close k) := by
  rw [onSlot, Action.run_focus]
  rcases StoreDraft.answer_state_validate (d.slot k) with ⟨h, ha, hs⟩ | ⟨h, ha, hs⟩
  · exact .inl ⟨not_not_intro h, ha, by simp only [hs, setSlot_slot]⟩
  · exact .inr ⟨h, ha, by simp only [hs, close]⟩

theorem answer_state_validate_list (ks : List StoreType) (d : DeploymentDraft) :
    ((ks.forM fun k => onSlot k StoreDraft.validate).run d).answer =
        (if ∀ k ∈ ks, d.Ready k then .ok () else .error (.configuration .noSupportedTypes)) ∧
      ((ks.forM fun k => onSlot k StoreDraft.validate).run d).state =
        d.closeAll (d.readyUpTo ks) := by
  induction ks generalizing d with
  | nil => exact ⟨(if_pos fun k hk => absurd hk List.not_mem_nil).symm, rfl⟩
  | cons k rest ih =>
    rw [Action.forM_cons, Action.run_bind]
    rcases hrun : (onSlot k StoreDraft.validate).run d with ⟨answer, state, events⟩
    rcases answer_state_onSlot_validate d k with ⟨h, ha, hs⟩ | ⟨h, ha, hs⟩ <;>
      rw [hrun] at ha hs <;> obtain rfl := ha <;> obtain rfl := hs
    · have hn : ¬ ∀ j ∈ k :: rest, state.Ready j := fun hall => h (hall k List.mem_cons_self)
      rw [if_neg hn, readyUpTo, List.takeWhile_cons_of_neg (by simpa using h)]
      exact ⟨rfl, rfl⟩
    · obtain ⟨hanswer, hstate⟩ := ih (d.close k)
      simp only [ready_close, readyUpTo_close] at hanswer hstate
      rw [readyUpTo, List.takeWhile_cons_of_pos (by simpa using h)]
      refine ⟨?_, hstate⟩
      simp only [Outcome.answer_after, hanswer, List.forall_mem_cons, h, true_and]

/-- **The answer of validation.** -/
theorem answer_validate (d : DeploymentDraft) :
    (validate.run d).answer =
      if d.configured = [] then .error (.configuration .noStoreConfigured)
      else if ∀ k ∈ d.configured, d.Ready k then .ok ()
      else .error (.configuration .noSupportedTypes) := by
  rw [validate, Action.run_bind, Action.run_state]
  simp only [List.isEmpty_iff]
  by_cases h : d.configured = []
  · rw [if_pos h, if_pos h]
    rfl
  · rw [if_neg h, if_neg h]
    exact (answer_state_validate_list d.configured d).1

/-- **What validation leaves:** the visited stores are closed up to the first that is not ready. -/
theorem state_validate (d : DeploymentDraft) :
    (validate.run d).state = d.closeAll (d.readyUpTo d.configured) := by
  rw [validate, Action.run_bind, Action.run_state]
  simp only [List.isEmpty_iff]
  by_cases h : d.configured = []
  · rw [if_pos h, h]
    rfl
  · rw [if_neg h]
    exact (answer_state_validate_list d.configured d).2

@[simp] theorem configured_validate (d : DeploymentDraft) :
    (validate.run d).state.configured = d.configured := by
  rw [state_validate, configured_closeAll]

theorem readyUpTo_of_forall (h : ∀ k ∈ ks, d.Ready k) : d.readyUpTo ks = ks := by
  induction ks with
  | nil => rfl
  | cons k rest ih =>
    have hk : d.Ready k := h k List.mem_cons_self
    have hrest := ih fun j hj => h j (List.mem_cons_of_mem _ hj)
    rw [readyUpTo, List.takeWhile_cons_of_pos (by simpa using hk)]
    exact congrArg (List.cons k) hrest

theorem ready_of_validate_ok (h : (validate.run d).answer = .ok ()) :
    ∀ k ∈ d.configured, d.Ready k := by
  rw [answer_validate] at h
  split at h
  · cases h
  · split at h
    · assumption
    · cases h

/-! ## Building -/

/-- What a deployment consists of when it is built now. -/
def deployment (d : DeploymentDraft) : Deployment := ⟨d.configured.map fun k => (d.slot k).store⟩

theorem run_createStore (h : (d.slot k).policy.state = .validated) :
    (createStore k).run d = ⟨.ok (d.slot k).store, d, []⟩ := by
  rw [createStore, Action.run_bind, Action.run_state]
  simp only [StoreDraft.create_of_validated h]
  rfl

theorem run_build_eq_of_error {e : Error} (h : (validate.run d).answer = .error e) :
    build.run d = ⟨.error e, (validate.run d).state, (validate.run d).events⟩ := by
  rcases hrun : validate.run d with ⟨answer, state, events⟩
  rw [hrun] at h
  obtain rfl := h
  rw [build, Action.run_bind_of_error hrun]

theorem run_build_of_error {e : Error} (h : (validate.run d).answer = .error e) :
    (build.run d).answer = .error e ∧ (build.run d).state = (validate.run d).state := by
  rw [run_build_eq_of_error h]
  exact ⟨rfl, rfl⟩

theorem run_build_eq_of_ok (h : (validate.run d).answer = .ok ()) :
    build.run d = ⟨.ok d.deployment, d.closeAll d.configured,
      (validate.run d).events ++ [.built d.configured.length]⟩ := by
  have hready := ready_of_validate_ok h
  have hstate := state_validate d
  rw [readyUpTo_of_forall hready] at hstate
  rcases hrun : validate.run d with ⟨answer, state, events⟩
  rw [hrun] at h hstate
  obtain rfl := h
  obtain rfl := hstate
  have hcreate : ∀ k ∈ (d.closeAll d.configured).configured,
      (createStore k).run (d.closeAll d.configured) =
        ⟨.ok (d.slot k).store, d.closeAll d.configured, []⟩ := by
    intro k hk
    rw [configured_closeAll] at hk
    have hslot : (d.closeAll d.configured).slot k = (d.slot k).closed := by
      rw [slot_closeAll, if_pos hk]
    rw [run_createStore (by rw [hslot]; rfl), hslot, StoreDraft.store_closed]
  rw [build, Action.run_bind_of_ok hrun, Action.run_bind, Action.run_state]
  simp only
  rw [Action.run_bind_of_ok (Action.run_mapM_of_ok hcreate), configured_closeAll,
    ← List.length_map fun k => (d.slot k).store]
  rfl

/-- **Building succeeds when the validation does,** and gives the visited stores in order. -/
theorem run_build_of_ok (h : (validate.run d).answer = .ok ()) :
    (build.run d).answer = .ok d.deployment ∧ (build.run d).state = d.closeAll d.configured := by
  rw [run_build_eq_of_ok h]
  exact ⟨rfl, rfl⟩

/-- **Building leaves what validation leaves,** whether it succeeds or fails. -/
theorem state_build (d : DeploymentDraft) : (build.run d).state = (validate.run d).state := by
  cases h : (validate.run d).answer with
  | error e => exact (run_build_of_error h).2
  | ok u =>
    rw [(run_build_of_ok h).2, state_validate, readyUpTo_of_forall (ready_of_validate_ok h)]

end IdentityStore.DeploymentDraft
