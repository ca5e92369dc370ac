import IdentityStore.Proofs.Deployment.Isolation

/-!
# The outcome of building a deployment

Building validates the visited stores and creates them. It fails only where the validation fails:
after a successful one every visited store can be created.

* `answer_state_build`: the outcomes, by the stores that were visited and by what they support.
* `DeploymentDraft.Builds`: a deployment and a draft that building leaves, as they should be.
* `builds_deployment`: they are, when building succeeds.
* `build_outcome`: the outcome after every session.
-/

namespace IdentityStore.DeploymentDraft

open Text (Path)

variable {d : DeploymentDraft} {k : StoreType}

/-! ## The answer -/

/-- **The three outcomes of building,** by the visited stores and by what they support. -/
theorem answer_state_build (d : DeploymentDraft) :
    (d.configured = [] ∧
        (build.run d).answer = .error (.configuration .noStoreConfigured)) ∨
      (d.configured ≠ [] ∧ (∃ k ∈ d.configured, (d.slot k).policy.supported = ∅) ∧
        (build.run d).answer = .error (.configuration .noSupportedTypes)) ∨
      (d.configured ≠ [] ∧ (∀ k ∈ d.configured, (d.slot k).policy.supported ≠ ∅) ∧
        (build.run d).answer = .ok d.deployment ∧
        (build.run d).state = d.closeAll d.configured) := by
  have hvalidate := answer_validate d
  by_cases hnone : d.configured = []
  · rw [if_pos hnone] at hvalidate
    exact .inl ⟨hnone, (run_build_of_error hvalidate).1⟩
  · rw [if_neg hnone] at hvalidate
    by_cases hready : ∀ k ∈ d.configured, d.Ready k
    · rw [if_pos hready] at hvalidate
      exact .inr (.inr ⟨hnone, hready, run_build_of_ok hvalidate⟩)
    · rw [if_neg hready] at hvalidate
      have hunready : ∃ k ∈ d.configured, (d.slot k).policy.supported = ∅ := by
        simpa [Ready] using hready
      exact .inr (.inl ⟨hnone, hunready, (run_build_of_error hvalidate).1⟩)

/-- Building gives the visited stores as they are, if there are any and all of them support a
type. -/
theorem answer_build_of_ready (hnone : d.configured ≠ []) (hready : ∀ k ∈ d.configured, d.Ready k) :
    (build.run d).answer = .ok d.deployment := by
  rcases answer_state_build d with ⟨h, -⟩ | ⟨-, ⟨k, hk, hs⟩, -⟩ | ⟨-, -, ha, -⟩
  · exact absurd h hnone
  · exact absurd hs (hready k hk)
  · exact ha

theorem build_ok_iff :
    (∃ dep, (build.run d).answer = .ok dep) ↔
      d.configured ≠ [] ∧ ∀ k ∈ d.configured, (d.slot k).policy.supported ≠ ∅ := by
  rcases answer_state_build d with ⟨h, ha⟩ | ⟨-, ⟨k, hk, hs⟩, ha⟩ | ⟨h, hall, ha, -⟩
  · simp [ha, h]
  · rw [ha]
    refine ⟨?_, fun ⟨_, hall⟩ => absurd hs (hall k hk)⟩
    rintro ⟨_, e⟩
    cases e
  · exact ⟨fun _ => ⟨h, hall⟩, fun _ => ⟨_, ha⟩⟩

theorem build_noStoreConfigured_iff :
    (build.run d).answer = .error (.configuration .noStoreConfigured) ↔ d.configured = [] := by
  rcases answer_state_build d with ⟨h, ha⟩ | ⟨h, -, ha⟩ | ⟨h, -, ha, -⟩ <;> simp [ha, h]

theorem build_noSupportedTypes_iff :
    (build.run d).answer = .error (.configuration .noSupportedTypes) ↔
      ∃ k ∈ d.configured, (d.slot k).policy.supported = ∅ := by
  rcases answer_state_build d with ⟨h, ha⟩ | ⟨-, hs, ha⟩ | ⟨-, hall, ha, -⟩
  · simp [ha, h]
  · exact ⟨fun _ => hs, fun _ => ha⟩
  · rw [ha]
    refine ⟨fun e => ?_, fun ⟨k, hk, hs⟩ => absurd hs (hall k hk)⟩
    cases e

theorem build_error {e : Error} (h : (build.run d).answer = .error e) :
    e = .configuration .noStoreConfigured ∨ e = .configuration .noSupportedTypes := by
  rcases answer_state_build d with ⟨-, ha⟩ | ⟨-, -, ha⟩ | ⟨-, -, ha, -⟩ <;> rw [ha] at h <;>
    cases h
  · exact .inl rfl
  · exact .inr rfl

theorem answer_state_of_build_ok {dep : Deployment} (h : (build.run d).answer = .ok dep) :
    dep = d.deployment ∧ (build.run d).state = d.closeAll d.configured := by
  rcases answer_state_build d with ⟨-, ha⟩ | ⟨-, -, ha⟩ | ⟨-, -, ha, hstate⟩ <;> rw [ha] at h <;>
    cases h
  exact ⟨rfl, hstate⟩

theorem create_of_validate_ok (h : (validate.run d).answer = .ok ()) (hk : k ∈ d.configured) :
    ((validate.run d).state.slot k).create = .ok (d.slot k).store := by
  have hslot : (validate.run d).state.slot k = (d.slot k).closed := by
    rw [state_validate, readyUpTo_of_forall (ready_of_validate_ok h), slot_closeAll, if_pos hk]
  rw [hslot, StoreDraft.create_of_validated rfl, StoreDraft.store_closed]

/-! ## What is built -/

/-- A deployment that is built from a draft, and the draft that is left. -/
structure Builds (d : DeploymentDraft) (dep : Deployment) (d' : DeploymentDraft) : Prop where
  types : dep.stores.map Store.type = d.configured
  nodup : (dep.stores.map Store.type).Nodup
  settings : ∀ s ∈ dep.stores, s.settings.Hold (d.slot s.type).settings
  policy : ∀ s ∈ dep.stores, s.policy.toTerms = (d.slot s.type).policy.toTerms
  isSome_store? : ∀ k, (dep.store? k).isSome ↔ k ∈ d.configured
  store?_eq_some : ∀ k s, dep.store? k = some s ↔ s ∈ dep.stores ∧ s.type = k
  validated : ∀ k ∈ d.configured,
    d'.slot k = { d.slot k with policy := { (d.slot k).policy with state := .validated } }
  others : ∀ k, k ∉ d.configured → d'.slot k = d.slot k
  configured : d'.configured = d.configured

theorem types_deployment (d : DeploymentDraft) :
    d.deployment.stores.map Store.type = d.configured := by
  rw [deployment, List.map_map]
  refine (List.map_congr_left fun k _ => ?_).trans (List.map_id _)
  exact StoreDraft.type_store (d.slot k)

theorem mem_deployment {s : Store} (h : s ∈ d.deployment.stores) : s = (d.slot s.type).store := by
  obtain ⟨k, -, rfl⟩ := List.mem_map.1 h
  rw [StoreDraft.type_store]

theorem store?_deployment (d : DeploymentDraft) (k : StoreType) :
    d.deployment.store? k = if k ∈ d.configured then some (d.slot k).store else none := by
  rw [deployment, Deployment.store?]
  induction d.configured with
  | nil => rfl
  | cons j rest ih =>
    rw [List.map_cons]
    by_cases hj : j = k
    · subst hj
      rw [List.find?_cons_of_pos (by simp), if_pos List.mem_cons_self]
    · rw [List.find?_cons_of_neg (by simp [hj]), ih]
      simp only [List.mem_cons, Ne.symm hj, false_or]

/-- **A successful build** gives the visited stores and closes their drafts. -/
theorem builds_deployment (hnodup : d.configured.Nodup) :
    d.Builds d.deployment (d.closeAll d.configured) where
  types := d.types_deployment
  nodup := by rwa [types_deployment]
  settings s hs := by
    have hpack : s.settings = (d.slot s.type).settings.pack :=
      congrArg Store.settings (mem_deployment hs)
    rw [hpack]
    exact StoreSettings.hold_pack _
  policy s hs := congrArg (fun s => s.policy.toTerms) (mem_deployment hs)
  isSome_store? k := by
    rw [store?_deployment]
    by_cases hk : k ∈ d.configured <;> simp [hk]
  store?_eq_some k s := by
    rw [store?_deployment]
    constructor
    · intro h
      by_cases hk : k ∈ d.configured
      · rw [if_pos hk] at h
        obtain rfl := Option.some.inj h
        exact ⟨List.mem_map_of_mem hk, StoreDraft.type_store _⟩
      · rw [if_neg hk] at h
        cases h
    · rintro ⟨hs, rfl⟩
      have htype : s.type ∈ d.configured := by
        rw [← d.types_deployment]
        exact List.mem_map_of_mem hs
      rw [if_pos htype, ← mem_deployment hs]
  validated k hk := by
    rw [slot_closeAll, if_pos hk]
    rfl
  others k hk := by rw [slot_closeAll, if_neg hk]
  configured := d.configured_closeAll _

/-! ## After every session -/

/-- **The outcome of building,** after every session on a new deployment. It succeeds exactly when
stores were visited and all of them support a type. Otherwise it fails because nothing was visited
or because a visited store supports nothing, and never because of the state of a draft: what is
validated can be created. -/
theorem build_outcome (tmp : Path) (steps : List DeploymentStep) :
    let d := afterAll steps (.new tmp)
    ((∃ dep, (build.run d).answer = .ok dep) ↔
        d.configured ≠ [] ∧ ∀ k ∈ d.configured, (d.slot k).policy.supported ≠ ∅) ∧
      ((build.run d).answer = .error (.configuration .noStoreConfigured) ↔ d.configured = []) ∧
      ((build.run d).answer = .error (.configuration .noSupportedTypes) ↔
        ∃ k ∈ d.configured, (d.slot k).policy.supported = ∅) ∧
      (∀ e, (build.run d).answer = .error e →
        e = .configuration .noStoreConfigured ∨ e = .configuration .noSupportedTypes) ∧
      ((validate.run d).answer = .ok () → ∀ k ∈ (validate.run d).state.configured,
        ∃ s, ((validate.run d).state.slot k).create = .ok s) ∧
      ∀ dep, (build.run d).answer = .ok dep → d.Builds dep (build.run d).state := by
  intro d
  refine ⟨build_ok_iff, build_noStoreConfigured_iff, build_noSupportedTypes_iff,
    fun e => build_error, fun h k hk => ?_, fun dep h => ?_⟩
  · rw [configured_validate] at hk
    exact ⟨_, create_of_validate_ok h hk⟩
  · rcases answer_state_build d with ⟨-, ha⟩ | ⟨-, -, ha⟩ | ⟨-, -, ha, hstate⟩ <;> rw [ha] at h <;>
      cases h
    rw [hstate]
    exact builds_deployment (nodup_configured tmp steps)

/-- Two stores are built. The first one was validated by itself before its entities were mapped, and
the second one keeps its state in the directory that it was given first. -/
theorem builds_of_two_stores :
    let steps : List DeploymentStep :=
      [.through [] .jpa (.declare .supportAllFeatures), .through [] .jpa .validate,
        .through [] .jpa (.set (.mappedEntities ["Account", "Role", "Account"])),
        .through [.jpa] .file (.set (.workingDirectory ⟨"/srv/identities"⟩)),
        .through [] .file (.declare .supportAllFeatures),
        .through [] .file (.set (.preserveState true))]
    let d := afterAll steps .new
    (build.run d).answer = .ok d.deployment ∧ d.Builds d.deployment (build.run d).state ∧
      ∃ s t, d.deployment.stores = [s, t] ∧ s.settings = .jpa ⟨["Account", "Role"]⟩ ∧
        t.settings = .file
          { workingDirectory := ⟨"/srv/identities"⟩, preserveState := true } := by
  intro steps d
  have hok : (build.run d).answer = .ok d.deployment := rfl
  have hbuilds := (build_outcome .temporary steps).2.2.2.2.2 _ hok
  exact ⟨hok, hbuilds, _, _, rfl, hbuilds.settings _ List.mem_cons_self,
    hbuilds.settings _ (List.mem_cons_of_mem _ List.mem_cons_self)⟩

end IdentityStore.DeploymentDraft
