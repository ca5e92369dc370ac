import IdentityStore.Proofs.Lifecycle

/-!
# What a failed validation of a deployment leaves

Validation closes the drafts of the visited stores one after the other and stops at the first store
that supports nothing. What it closed before stays closed, so a failure does not leave a deployment
as it was. Everything else is as before: what was visited, set and declared, and the drafts of the
other stores.

* **Passed stores** (`Passes`): those whose drafts a validation closes (`slot_state_validate`).
* `opened_of_not_ready`: the store at which a validation stops is open.
* `stops_of_validate_error`: where a validation stops.
* **Failures** (`LeftByFailure`): what is left. `failed_validation_closes_passed_stores` is the law,
  and in `failed_validation_closes_earlier_store` a store is closed by the failure of another one.
-/

namespace IdentityStore.DeploymentDraft

open Text (Path)

variable {d : DeploymentDraft} {k : StoreType}

/-! ## Passed stores -/

/-- The validation of the deployment passes the store of a type: it comes to the store, and the
store supports something. -/
def Passes (d : DeploymentDraft) (k : StoreType) : Prop := d.Reaches k ∧ d.Ready k

instance (d : DeploymentDraft) (k : StoreType) : Decidable (d.Passes k) :=
  inferInstanceAs (Decidable (_ ∧ _))

/-- **What validation leaves of a store:** a draft that it passes is closed. -/
theorem slot_state_validate (d : DeploymentDraft) (k : StoreType) :
    (validate.run d).state.slot k = if d.Passes k then (d.slot k).closed else d.slot k := by
  have hmem : k ∈ d.readyUpTo d.configured ↔ d.Passes k := mem_readyUpTo_iff
  rw [state_validate, slot_closeAll]
  simp only [hmem]

theorem slot_of_passes (h : d.Passes k) : (validate.run d).state.slot k = (d.slot k).closed := by
  rw [slot_state_validate, if_pos h]

theorem slot_of_not_passes (h : ¬ d.Passes k) : (validate.run d).state.slot k = d.slot k := by
  rw [slot_state_validate, if_neg h]

theorem state_validate_of_nil (h : d.configured = []) : (validate.run d).state = d := by
  rw [state_validate, h]
  rfl

/-! ## Declarations after a validation -/

theorem answer_declare_congr {d' : DeploymentDraft} (h : d'.slot k = d.slot k)
    (via : List StoreType) (x : Declaration) :
    ((step (.through via k (.declare x))).run d').answer =
      ((step (.through via k (.declare x))).run d).answer := by
  rw [answer_step_through, answer_step_through, h]

theorem answer_declare_of_validated (h : (d.slot k).policy.state = .validated)
    (via : List StoreType) (x : Declaration) :
    ((step (.through via k (.declare x))).run d).answer =
      .error (.configuration .alreadyValidated) := by
  rw [answer_step_through, StoreDraft.run_step_declare, PolicyDraft.run_declare_validated x h]
  rfl

/-- **A draft that supports nothing is open** after every session, since none of this kind was ever
validated. -/
theorem opened_of_not_ready (tmp : Path) (steps : List DeploymentStep)
    (h : ((afterAll steps (.new tmp)).slot k).policy.supported = ∅) :
    ((afterAll steps (.new tmp)).slot k).policy.state = .opened := by
  cases hs : ((afterAll steps (.new tmp)).slot k).policy.state with
  | opened => rfl
  | validated => exact absurd h (sealed_slot_of_validated hs).supports

/-! ## Failures -/

/-- Of visited stores that are not all ready, there is a first that is not. -/
theorem exists_first_not_ready {ks : List StoreType} (h : ¬ ∀ k ∈ ks, d.Ready k) :
    ∃ k ∈ ks, ¬ d.Ready k ∧ ∀ j ∈ ks.takeWhile (· ≠ k), d.Ready j := by
  induction ks with
  | nil => exact absurd (fun k hk => absurd hk List.not_mem_nil) h
  | cons i rest ih =>
    by_cases hi : d.Ready i
    · have hrest : ¬ ∀ k ∈ rest, d.Ready k := fun hall => h (List.forall_mem_cons.2 ⟨hi, hall⟩)
      obtain ⟨k, hk, hready, hbefore⟩ := ih hrest
      have hne : i ≠ k := by
        rintro rfl
        exact hready hi
      refine ⟨k, List.mem_cons_of_mem i hk, hready, ?_⟩
      rw [List.takeWhile_cons_of_pos (by simpa using hne)]
      exact List.forall_mem_cons.2 ⟨hi, hbefore⟩
    · refine ⟨i, List.mem_cons_self, hi, ?_⟩
      rw [List.takeWhile_cons_of_neg (by simp)]
      exact fun j hj => absurd hj List.not_mem_nil

/-- **A validation fails** because no store was visited, or at a store that it comes to and that
supports nothing. -/
theorem stops_of_validate_error {e : Error} (h : (validate.run d).answer = .error e) :
    d.configured = [] ∨ ∃ k, d.Reaches k ∧ (d.slot k).policy.supported = ∅ := by
  rw [answer_validate] at h
  by_cases hnone : d.configured = []
  · exact .inl hnone
  · rw [if_neg hnone] at h
    by_cases hall : ∀ k ∈ d.configured, d.Ready k
    · rw [if_pos hall] at h
      cases h
    · obtain ⟨k, hk, hready, hbefore⟩ := exists_first_not_ready hall
      refine .inr ⟨k, ⟨hk, fun j hj => answer_validate_slot_iff.2 (hbefore j hj)⟩, ?_⟩
      exact Classical.not_not.1 hready

theorem validate_error_of_build_error {e : Error} (h : (build.run d).answer = .error e) :
    (validate.run d).answer = .error e := by
  cases hv : (validate.run d).answer with
  | error e' =>
    rw [(run_build_of_error hv).1] at h
    obtain rfl := Except.error.inj h
    rfl
  | ok u =>
    rw [(run_build_of_ok hv).1] at h
    cases h

/-- What a failure leaves of a deployment. All that was visited, set and declared is kept, and only
the drafts that the validation passed on its way are closed. -/
structure LeftByFailure (d d' : DeploymentDraft) : Prop where
  configured : d'.configured = d.configured
  settings : ∀ k, (d'.slot k).settings = (d.slot k).settings
  terms : ∀ k, (d'.slot k).policy.toTerms = (d.slot k).policy.toTerms
  passed : ∀ k, d.Passes k → (d'.slot k).policy.state = .validated
  others : ∀ k, ¬ d.Passes k → d'.slot k = d.slot k
  /-- Without any visited store nothing changes. Otherwise the store at which the validation stops
  is left open. -/
  stopped : d.configured = [] ∧ d' = d ∨
    ∃ k, d.Reaches k ∧ (d.slot k).policy.supported = ∅ ∧ (d'.slot k).policy.state = .opened
  /-- What was accepted before is still accepted. -/
  declare : ∀ via k x, ¬ d.Passes k → ((step (.through via k (.declare x))).run d').answer =
    ((step (.through via k (.declare x))).run d).answer
  declare_passed : ∀ via k x, d.Passes k → ((step (.through via k (.declare x))).run d').answer =
    .error (.configuration .alreadyValidated)

theorem leftByFailure_validate {e : Error} (h : (validate.run d).answer = .error e)
    (hopen : ∀ k, (d.slot k).policy.supported = ∅ → (d.slot k).policy.state = .opened) :
    d.LeftByFailure (validate.run d).state where
  configured := d.configured_validate
  settings k := by
    rw [slot_state_validate]
    split <;> rfl
  terms k := by
    rw [slot_state_validate]
    split <;> rfl
  passed k hk := by
    rw [slot_of_passes hk]
    rfl
  others k := slot_of_not_passes
  stopped := by
    rcases stops_of_validate_error h with hnone | ⟨k, hreach, hk⟩
    · exact .inl ⟨hnone, state_validate_of_nil hnone⟩
    · have hpasses : ¬ d.Passes k := fun hp => hp.2 hk
      refine .inr ⟨k, hreach, hk, ?_⟩
      rw [slot_of_not_passes hpasses]
      exact hopen k hk
  declare via k x hk := answer_declare_congr (slot_of_not_passes hk) via x
  declare_passed via k x hk := by
    have hclosed : ((validate.run d).state.slot k).policy.state = .validated := by
      rw [slot_of_passes hk]
      rfl
    exact answer_declare_of_validated hclosed via x

theorem leftByFailure_build {e : Error} (h : (build.run d).answer = .error e)
    (hopen : ∀ k, (d.slot k).policy.supported = ∅ → (d.slot k).policy.state = .opened) :
    d.LeftByFailure (build.run d).state := by
  rw [state_build]
  exact leftByFailure_validate (validate_error_of_build_error h) hopen

/-- **A failed validation, or a failed build, closes the stores that it passed,** and leaves
everything else as it was. The declarations that the other stores accepted before are accepted as
before, and refused are those about the stores that were passed. -/
theorem failed_validation_closes_passed_stores (tmp : Path) (steps : List DeploymentStep) :
    let d := afterAll steps (.new tmp)
    (∀ e, (validate.run d).answer = .error e → d.LeftByFailure (validate.run d).state) ∧
      ∀ e, (build.run d).answer = .error e → d.LeftByFailure (build.run d).state := by
  intro d
  have hopen : ∀ k, (d.slot k).policy.supported = ∅ → (d.slot k).policy.state = .opened :=
    fun k => opened_of_not_ready tmp steps
  exact ⟨fun e h => leftByFailure_validate h hopen, fun e h => leftByFailure_build h hopen⟩

/-- Nothing is supported by the second of three visited stores, so a build fails there. The third
store is not passed, and what is declared about it is accepted. -/
theorem third_store_left_open_by_failure :
    let steps : List DeploymentStep :=
      [.through [] .file (.declare .supportAllFeatures), .visit [.ldap],
        .through [] .jpa (.declare .supportAllFeatures)]
    let d := afterAll steps .new
    (build.run d).answer = .error (.configuration .noSupportedTypes) ∧
      d.LeftByFailure (build.run d).state ∧
      ((step (.through [] .jpa (.declare (.supportCredentials false)))).run
        (build.run d).state).answer = .ok .done := by
  intro steps d
  have hfails : (build.run d).answer = .error (.configuration .noSupportedTypes) := rfl
  have hleft := (failed_validation_closes_passed_stores .temporary steps).2 _ hfails
  have hpasses : ¬ d.Passes .jpa := by decide
  exact ⟨hfails, hleft, (hleft.declare [] .jpa (.supportCredentials false) hpasses).trans rfl⟩

/-- **A failed validation is not undone.** The second of two visited stores supports nothing. When
the validation fails there, the first store is left closed, and refuses a declaration that it would
have accepted before. -/
theorem failed_validation_closes_earlier_store :
    let d := afterAll
      [.through [] .file (.declare .supportAllFeatures), .visit [.ldap]] .new
    let again : DeploymentStep := .through [] .file (.declare (.supportCredentials false))
    (validate.run d).answer = .error (.configuration .noSupportedTypes) ∧
      (d.slot .file).policy.state = .opened ∧
      ((validate.run d).state.slot .file).policy.state = .validated ∧
      (validate.run d).state ≠ d ∧
      ((step again).run d).answer = .ok .done ∧
      ((step again).run (validate.run d).state).answer =
        .error (.configuration .alreadyValidated) := by
  intro d again
  refine ⟨rfl, rfl, rfl, fun h => ?_, rfl, rfl⟩
  have hstate := congrArg (fun d : DeploymentDraft => (d.slot .file).policy.state) h
  cases hstate

end IdentityStore.DeploymentDraft
