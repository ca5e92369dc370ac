import IdentityStore.Proofs.Deployment.Isolation
import Mathlib.Data.List.Induction

/-!
# Mapped entities

The names of the mapped entities of a store are those that the steps of a session list, one after
the other, without those that were listed before. It does not matter in how many steps they are
listed, what happens between these, and by which way the store is come to.

* **First occurrences** (`KeepsFirst`): each name of a list where it occurs first
  (`keepsFirst_eraseDups`).
* `addMapped_eraseDups`: adding names to the first occurrences of a list gives those of the longer
  list.
* **One step** (`mappedEntities_step`) and **sessions** (`settings_afterAll_new`,
  `settings_slot_afterAll`) add the names that are listed.
* **Stable sequences** (`MapsInOrder`), and `mapped_entities_in_order`: the law.
-/

namespace IdentityStore

open Text (Path)

/-! ## First occurrences -/

/-- A list keeps each name of another list at its first occurrence, and nothing else. -/
structure KeepsFirst (all kept : List String) : Prop where
  mem : ∀ n, n ∈ kept ↔ n ∈ all
  nodup : kept.Nodup
  order : kept.Pairwise fun m n => all.idxOf m < all.idxOf n

theorem eraseDups_concat (all : List String) (n : String) :
    (all ++ [n]).eraseDups = if n ∈ all then all.eraseDups else all.eraseDups ++ [n] := by
  rw [List.eraseDups_append]
  by_cases h : n ∈ all <;> simp [List.removeAll, h, List.eraseDups_cons]

/-- **The first occurrences** are what is left when repetitions are erased. -/
theorem keepsFirst_eraseDups (all : List String) : KeepsFirst all all.eraseDups := by
  suffices horder : all.eraseDups.Pairwise fun m n => all.idxOf m < all.idxOf n by
    refine ⟨fun n => List.mem_eraseDups, horder.imp fun hlt => ?_, horder⟩
    rintro rfl
    exact Nat.lt_irrefl _ hlt
  induction all using List.reverseRecOn with
  | nil => exact .nil
  | append_singleton all n ih =>
    -- what occurs before the last name occurs at the same place as before
    have hsame : ∀ m ∈ all.eraseDups, (all ++ [n]).idxOf m = all.idxOf m :=
      fun m hm => by rw [List.idxOf_append, if_pos (List.mem_eraseDups.1 hm)]
    have hbefore : all.eraseDups.Pairwise fun m n' =>
        (all ++ [n]).idxOf m < (all ++ [n]).idxOf n' :=
      ih.imp_of_mem fun hm hn' hlt => by rwa [hsame _ hm, hsame _ hn']
    rw [eraseDups_concat]
    by_cases hn : n ∈ all
    · rwa [if_pos hn]
    · rw [if_neg hn]
      refine List.pairwise_append.2 ⟨hbefore, List.pairwise_singleton _ _, fun m hm n' hn' => ?_⟩
      obtain rfl := List.mem_singleton.1 hn'
      have hlast : (all ++ [n']).idxOf n' = all.length := by
        rw [List.idxOf_append, if_neg hn, List.idxOf_cons_self, Nat.zero_add]
      rw [hsame m hm, hlast]
      exact List.idxOf_lt_length_of_mem (List.mem_eraseDups.1 hm)

theorem JpaSettings.addMapped_eraseDups (all names : List String) :
    (⟨all.eraseDups⟩ : JpaSettings).addMapped names = ⟨(all ++ names).eraseDups⟩ := by
  induction names generalizing all with
  | nil => rw [List.append_nil]; rfl
  | cons n rest ih =>
    have hstep : (⟨all.eraseDups⟩ : JpaSettings).addMapped (n :: rest) =
        (⟨if n ∈ all.eraseDups then all.eraseDups else all.eraseDups ++ [n]⟩ :
          JpaSettings).addMapped rest := rfl
    rw [hstep, List.append_cons all, ← ih, eraseDups_concat]
    simp only [List.mem_eraseDups]

/-! ## One step -/

/-- The names of entities that a step on a store lists. -/
def StoreStep.entities : {k : StoreType} → StoreStep k → List String
  | _, set (.mappedEntities names) => names
  | _, _ => []

theorem StoreStep.entities_of_ne {k : StoreType} (h : k ≠ .jpa) (t : StoreStep k) :
    t.entities = [] := by
  cases t with
  | set setting =>
    cases setting with
    | mappedEntities names => exact absurd rfl h
    | _ => rfl
  | _ => rfl

/-- The names of entities that a step on a deployment lists. -/
def DeploymentStep.entities : DeploymentStep → List String
  | through _ _ t => t.entities
  | _ => []

theorem DeploymentStep.entities_eq (x : DeploymentStep) (d : DeploymentDraft) :
    x.entities = (x.onStore? d .jpa).toList.flatMap StoreStep.entities := by
  cases x with
  | visit chain => rfl
  | through via k t =>
    rw [onStore?]
    by_cases h : k = .jpa
    · subst h
      rw [dif_pos rfl]
      exact (List.append_nil _).symm
    · rw [dif_neg h]
      exact StoreStep.entities_of_ne h t
  | validate | build =>
    rw [onStore?]
    split <;> rfl

/-- **One step** adds the names that it lists. -/
theorem StoreDraft.mappedEntities_step (t : StoreStep .jpa) {s : StoreDraft .jpa}
    {all : List String} (h : s.settings = (⟨all.eraseDups⟩ : JpaSettings)) :
    ((step t).run s).state.settings = (⟨(all ++ t.entities).eraseDups⟩ : JpaSettings) := by
  have hnone : s.settings = (⟨(all ++ []).eraseDups⟩ : JpaSettings) := by rw [h, List.append_nil]
  cases t with
  | declare x =>
    rw [run_step_declare]
    exact hnone
  | set setting =>
    cases setting with
    | mappedEntities names =>
      rw [run_step_set]
      refine Eq.trans ?_ (JpaSettings.addMapped_eraseDups all names)
      exact congrArg (JpaSettings.addMapped · names) h
  | validate =>
    rw [run_step_validate]
    exact hnone
  | create =>
    rw [run_step_create]
    exact hnone

/-! ## Sessions -/

/-- **A session on a store** adds the names that its steps list. -/
theorem StoreDraft.mappedEntities_afterAll (steps : List (StoreStep .jpa)) {s : StoreDraft .jpa}
    {all : List String} (h : s.settings = (⟨all.eraseDups⟩ : JpaSettings)) :
    (afterAll steps s).settings =
      (⟨(all ++ steps.flatMap StoreStep.entities).eraseDups⟩ : JpaSettings) := by
  induction steps generalizing s all with
  | nil =>
    rw [List.flatMap_nil, List.append_nil]
    exact h
  | cons t rest ih =>
    rw [afterAll_cons, List.flatMap_cons, ← List.append_assoc]
    exact ih (mappedEntities_step t h)

theorem StoreDraft.settings_afterAll_new (tmp : Path) (steps : List (StoreStep .jpa)) :
    (afterAll steps (.new .jpa tmp)).settings =
      (⟨(steps.flatMap StoreStep.entities).eraseDups⟩ : JpaSettings) := by
  have hnew : (StoreDraft.new .jpa tmp).settings =
      (⟨([] : List String).eraseDups⟩ : JpaSettings) := rfl
  exact mappedEntities_afterAll steps hnew

namespace DeploymentDraft

theorem flatMap_entities_stepsOn (steps : List DeploymentStep) (d : DeploymentDraft) :
    (stepsOn .jpa steps d).flatMap StoreStep.entities = steps.flatMap DeploymentStep.entities := by
  induction steps generalizing d with
  | nil => rfl
  | cons x rest ih =>
    rw [stepsOn, List.flatMap_append, ih, ← DeploymentStep.entities_eq, List.flatMap_cons]

/-- **A session on a deployment** adds the names that its steps list. -/
theorem settings_slot_afterAll (tmp : Path) (steps : List DeploymentStep) :
    ((afterAll steps (.new tmp)).slot .jpa).settings =
      (⟨(steps.flatMap DeploymentStep.entities).eraseDups⟩ : JpaSettings) := by
  rw [slot_afterAll, slot_new, ← flatMap_entities_stepsOn steps (.new tmp)]
  exact StoreDraft.settings_afterAll_new tmp _

end DeploymentDraft

/-! ## Stable sequences -/

/-- After every session the mapped entities are the names that were listed, each where it occurs
first. -/
structure MapsInOrder {κ : Type} (mapped : List κ → List String) (listed : κ → List String) :
    Prop where
  eq : ∀ steps, mapped steps = (steps.flatMap listed).eraseDups
  first : ∀ steps, KeepsFirst (steps.flatMap listed) (mapped steps)
  /-- What is mapped stays mapped, at the same place. -/
  keeps : ∀ steps more, mapped steps <+: mapped (steps ++ more)
  /-- The names may be listed in any number of steps. -/
  grouping : ∀ steps other, other.flatMap listed = steps.flatMap listed →
    mapped other = mapped steps

theorem MapsInOrder.of_eq {κ : Type} {mapped : List κ → List String} {listed : κ → List String}
    (h : ∀ steps, mapped steps = (steps.flatMap listed).eraseDups) :
    MapsInOrder mapped listed where
  eq := h
  first steps := by
    rw [h]
    exact keepsFirst_eraseDups _
  keeps steps more := by
    rw [h, h, List.flatMap_append, List.eraseDups_append]
    exact List.prefix_append _ _
  grouping steps other hsame := by rw [h, h, hsame]

def StoreDraft.mapped (tmp : Path) (steps : List (StoreStep .jpa)) : List String :=
  ((afterAll steps (.new .jpa tmp)).settings : JpaSettings).mappedEntities

def DeploymentDraft.mapped (tmp : Path) (steps : List DeploymentStep) : List String :=
  (((afterAll steps (.new tmp)).slot .jpa).settings : JpaSettings).mappedEntities

/-- **Mapped entities are a stable sequence.** They are the listed names, each where it was listed
first, however these were grouped into steps and whatever else was done between, before or after a
validation, on a store by itself and on the store of a deployment. The handles of this store show
them, and a step on a handle adds what it lists. -/
theorem mapped_entities_in_order (tmp : Path) :
    MapsInOrder (StoreDraft.mapped tmp) StoreStep.entities ∧
      MapsInOrder (DeploymentDraft.mapped tmp) DeploymentStep.entities ∧
      ∀ steps via, let h := (DeploymentDraft.afterAll steps (.new tmp)).follow via .jpa
        let listed := steps.flatMap DeploymentStep.entities
        h.settings = .jpa ⟨listed.eraseDups⟩ ∧
          ∀ t, ((Handle.step t).run h).state.settings =
            .jpa ⟨(listed ++ t.entities).eraseDups⟩ := by
  refine ⟨.of_eq fun steps => ?_, .of_eq fun steps => ?_, fun steps via => ?_⟩
  · exact congrArg JpaSettings.mappedEntities (StoreDraft.settings_afterAll_new tmp steps)
  · exact congrArg JpaSettings.mappedEntities (DeploymentDraft.settings_slot_afterAll tmp steps)
  · intro h listed
    have hslot : (h.deployment.slot .jpa).settings = (⟨listed.eraseDups⟩ : JpaSettings) := by
      rw [DeploymentDraft.deployment_follow, DeploymentDraft.slot_visited]
      exact DeploymentDraft.settings_slot_afterAll tmp steps
    refine ⟨congrArg StoreSettings.jpa hslot, fun t => ?_⟩
    rw [h.shows_slot.step, Handle.settings, Handle.setStore, DeploymentDraft.slot_setSlot]
    exact congrArg StoreSettings.jpa (StoreDraft.mappedEntities_step t hslot)

/-- Names are listed twice in one step, again behind another handle, and again after a
validation. -/
theorem repeated_names_mapped_once :
    let steps : List DeploymentStep :=
      [.through [] .jpa (.set (.mappedEntities ["Account", "Role", "Account"])),
        .through [] .jpa (.declare .supportAllFeatures), .validate,
        .through [.file] .jpa (.set (.mappedEntities ["Role", "Partition"]))]
    let other : List DeploymentStep :=
      [.through [] .jpa
        (.set (.mappedEntities ["Account", "Role", "Account", "Role", "Partition"]))]
    DeploymentDraft.mapped .temporary steps = ["Account", "Role", "Partition"] ∧
      DeploymentDraft.mapped .temporary other = DeploymentDraft.mapped .temporary steps :=
  have hmapped := (mapped_entities_in_order .temporary).2.1
  ⟨hmapped.eq _, hmapped.grouping _ _ rfl⟩

end IdentityStore
