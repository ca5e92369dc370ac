import IdentityStore.Proofs.Deployment.Build
import IdentityStore.Proofs.Deployment.History
import IdentityStore.Proofs.Policy.Permission

/-!
# Routing of operations

A deployment sends an operation on a type to the first of its stores that permits it. Seen from the
session in which it was built, this is the store that was visited first among those whose
declarations permit the operation.

* **What declarations permit** (`Declaration.Permit`), and the first store about which such
  declarations were taken (`DeploymentDraft.FirstToPermit`).
* `storeFor?_deployment`: routing goes through the visited stores in order.
* `supports_store_iff`: a store permits what the declarations taken about it permit.
* `routed_to_first_permitting_store`: the law, and that sessions with the same first visits and
  rearranged declarations route alike.
-/

namespace IdentityStore

open Text (Path)

variable {k : StoreType} {t : ManagedType} {o : Operation}

/-- Declarations permit an operation on a type: one of them supports the type, and none disables
the operation on it. -/
def Declaration.Permit (history : List Declaration) (t : ManagedType) (o : Operation) : Prop :=
  (∃ x ∈ history, x.Supports t) ∧ ¬ ∃ x ∈ history, x.Disables t o

instance (history : List Declaration) (t : ManagedType) (o : Operation) :
    Decidable (Declaration.Permit history t o) :=
  inferInstanceAs (Decidable (_ ∧ _))

theorem Declaration.permit_congr {history other : List Declaration} (h : other.Perm history) :
    Permit other t o ↔ Permit history t o := by
  simp only [Permit, h.mem_iff]

/-- The stores that a session visits, in the order of their first visits. -/
def DeploymentStep.firstVisits (steps : List DeploymentStep) : List StoreType :=
  (steps.flatMap visits).eraseDups

namespace DeploymentDraft

variable {tmp : Path} {d : DeploymentDraft} {steps : List DeploymentStep}

/-- The declarations taken about a visited store permit an operation on a type, and those about the
stores visited before do not. -/
structure FirstToPermit (tmp : Path) (steps : List DeploymentStep) (t : ManagedType) (o : Operation)
    (k : StoreType) : Prop where
  visited : k ∈ DeploymentStep.firstVisits steps
  permit : Declaration.Permit (taken k steps (.new tmp)) t o
  before : ∀ j ∈ (DeploymentStep.firstVisits steps).takeWhile (· ≠ k),
    ¬ Declaration.Permit (taken j steps (.new tmp)) t o

theorem configured_eq_firstVisits (tmp : Path) (steps : List DeploymentStep) :
    (afterAll steps (.new tmp)).configured = DeploymentStep.firstVisits steps :=
  configured_afterAll_new tmp steps

/-! ## The first store -/

theorem find?_eq_some_iff_takeWhile {p : StoreType → Bool} {ks : List StoreType} :
    ks.find? p = some k ↔ k ∈ ks ∧ p k = true ∧ ∀ j ∈ ks.takeWhile (· ≠ k), p j = false := by
  induction ks with
  | nil => simp
  | cons i rest ih =>
    by_cases hi : i = k
    · subst hi
      by_cases hp : p i = true
      · simp [hp]
      · rw [List.find?_cons_of_neg hp]
        exact ⟨fun h => absurd (List.find?_some h) hp, fun h => absurd h.2.1 hp⟩
    · cases hp : p i with
      | true => simp [hp, hi]
      | false => simp [hp, hi, ih, Ne.symm hi]

theorem storeFor?_deployment (d : DeploymentDraft) (t : ManagedType) (o : Operation) :
    d.deployment.storeFor? t o =
      (d.configured.find? fun k => (d.slot k).store.supports t o).map fun k => (d.slot k).store :=
  List.find?_map

theorem type_storeFor?_deployment (d : DeploymentDraft) (t : ManagedType) (o : Operation) :
    (d.deployment.storeFor? t o).map Store.type =
      d.configured.find? fun k => (d.slot k).store.supports t o := by
  have htype : (Store.type ∘ fun k => (d.slot k).store) = id :=
    funext fun k => StoreDraft.type_store (d.slot k)
  rw [storeFor?_deployment, Option.map_map, htype]
  exact congrFun Option.map_id _

theorem exists_store?_storeFor?_iff :
    (∃ s, d.deployment.store? k = some s ∧ d.deployment.storeFor? t o = some s) ↔
      d.configured.find? (fun k => (d.slot k).store.supports t o) = some k := by
  constructor
  · rintro ⟨s, hs, hroute⟩
    rw [store?_deployment] at hs
    split at hs
    · obtain rfl := Option.some.inj hs
      rw [← type_storeFor?_deployment, hroute]
      exact congrArg some (StoreDraft.type_store _)
    · cases hs
  · intro h
    refine ⟨(d.slot k).store, ?_, ?_⟩
    · rw [store?_deployment, if_pos (List.mem_of_find?_eq_some h)]
    · rw [storeFor?_deployment, h]
      rfl

/-- **A store permits what the declarations taken about it permit.** -/
theorem supports_store_iff (tmp : Path) (hx : ∀ y ∈ taken k steps (.new tmp), y.ReadsResolved) :
    ((afterAll steps (.new tmp)).slot k).store.supports t o = true ↔
      Declaration.Permit (taken k steps (.new tmp)) t o :=
  Policy.supports_amendAll (p := ⟨_⟩) (toTerms_slot_afterAll tmp steps k) hx

/-! ## Routing after a session -/

theorem find?_supports_eq_some_iff (hx : ∀ x ∈ steps, x.ReadsResolved) :
    ((afterAll steps (.new tmp)).configured.find?
        fun k => ((afterAll steps (.new tmp)).slot k).store.supports t o) = some k ↔
      FirstToPermit tmp steps t o k := by
  have hsupports := fun j => supports_store_iff (t := t) (o := o) (k := j) tmp
    fun y => readsResolved_of_mem_taken hx
  rw [find?_eq_some_iff_takeWhile, configured_eq_firstVisits]
  simp only [← Bool.not_eq_true, hsupports]
  exact ⟨fun ⟨hv, hp, hb⟩ => ⟨hv, hp, hb⟩, fun ⟨hv, hp, hb⟩ => ⟨hv, hp, hb⟩⟩

/-- **Routing over whole sessions.** A deployment that a session ends with sends an operation to the
first visited store whose declarations permit it, and to none if there is no such store. So another
session routes alike if it visits the stores in the same order and takes the same declarations about
each of them, in whatever order and however those about different stores are mixed. -/
theorem routed_to_first_permitting_store (hx : ∀ x ∈ steps, x.ReadsResolved) {dep : Deployment}
    (hdep : (build.run (afterAll steps (.new tmp))).answer = .ok dep) :
    (∀ t o k, (∃ s, dep.store? k = some s ∧ dep.storeFor? t o = some s) ↔
        FirstToPermit tmp steps t o k) ∧
      (∀ t o, dep.storeFor? t o = none ↔ ∀ k ∈ DeploymentStep.firstVisits steps,
        ¬ Declaration.Permit (taken k steps (.new tmp)) t o) ∧
      ∀ other dep', DeploymentStep.firstVisits other = DeploymentStep.firstVisits steps →
        (∀ k, (taken k other (.new tmp)).Perm (taken k steps (.new tmp))) →
        (build.run (afterAll other (.new tmp))).answer = .ok dep' →
        ∀ t o, (dep'.storeFor? t o).map Store.type = (dep.storeFor? t o).map Store.type := by
  obtain ⟨rfl, -⟩ := answer_state_of_build_ok hdep
  have hsupports {t o} := fun k => supports_store_iff (t := t) (o := o) (k := k) tmp
    fun y => readsResolved_of_mem_taken hx
  refine ⟨fun t o k => ?_, fun t o => ?_, fun other dep' hvisits hperm hdep' t o => ?_⟩
  · rw [exists_store?_storeFor?_iff, find?_supports_eq_some_iff hx]
  · rw [← Option.map_eq_none_iff (f := Store.type), type_storeFor?_deployment, List.find?_eq_none,
      configured_eq_firstVisits]
    exact forall₂_congr fun k _ => not_congr (hsupports k)
  · obtain ⟨rfl, -⟩ := answer_state_of_build_ok hdep'
    have hother : ∀ k, ((afterAll other (.new tmp)).slot k).store.supports t o =
        ((afterAll steps (.new tmp)).slot k).store.supports t o := by
      intro k
      have hreads : ∀ y ∈ taken k other (.new tmp), y.ReadsResolved := fun y hy =>
        readsResolved_of_mem_taken hx ((hperm k).mem_iff.1 hy)
      rw [Bool.eq_iff_iff, supports_store_iff tmp hreads, Declaration.permit_congr (hperm k)]
      exact (hsupports k).symm
    rw [type_storeFor?_deployment, type_storeFor?_deployment, configured_eq_firstVisits,
      configured_eq_firstVisits, hvisits]
    simp only [hother]

/-- Deleting identities is disabled for the first store, and the second one knows only the
partitions of a policy that it has read, so that the third one is sent to. One declaration is
refused. Another session makes the same declarations in another order. -/
theorem deleting_identities_routed_to_third_store :
    let source : Policy := ⟨Terms.amendAll ∅ [.supportTypes [.partition]]⟩
    let steps : List DeploymentStep :=
      [.through [] .file (.declare (.supportTypes [.identity])),
        .through [.jpa] .ldap (.declare .supportAllFeatures),
        .through [] .jpa (.declare (.readFrom source)),
        .through [] .file (.declare (.supportTypes [])),
        .through [.ldap] .file (.declare (.unsupportType .identity [.delete]))]
    let other : List DeploymentStep :=
      [.visit [.file, .jpa], .through [] .ldap (.declare .supportAllFeatures),
        .through [] .file (.declare (.unsupportType .identity [.delete])),
        .through [] .jpa (.declare (.readFrom source)), .through [] .jpa .validate,
        .through [] .file (.declare (.supportTypes [.identity]))]
    let dep := (afterAll steps .new).deployment
    let dep' := (afterAll other .new).deployment
    (∀ x ∈ steps, x.ReadsResolved) ∧ (build.run (afterAll steps .new)).answer = .ok dep ∧
      (∃ s, dep.store? .ldap = some s ∧ dep.storeFor? .identity .delete = some s) ∧
      (dep'.storeFor? .identity .delete).map Store.type =
        (dep.storeFor? .identity .delete).map Store.type := by
  intro source steps other dep dep'
  have hsource : source.ResultsFrom [.supportTypes [.partition]] :=
    Policy.resultsFrom_iff.2 ⟨rfl, Ledger.ne_empty_iff.2 ⟨.partition, by decide⟩⟩
  have hresolved : source.Resolved := hsource.isResolved (by simp [Declaration.ReadsResolved])
  have hx : ∀ x ∈ steps, x.ReadsResolved := by
    simpa [steps, DeploymentStep.ReadsResolved, Declaration.ReadsResolved] using hresolved
  have hdep : (build.run (afterAll steps .new)).answer = .ok dep :=
    answer_build_of_ready (by decide) (by decide)
  have hdep' : (build.run (afterAll other .new)).answer = .ok dep' :=
    answer_build_of_ready (by decide) (by decide)
  have hfile : taken .file steps .new =
    [.supportTypes [.identity], .unsupportType .identity [.delete]] := rfl
  have hjpa : taken .jpa steps .new = [.readFrom source] := rfl
  have hldap : taken .ldap steps .new = [.supportAllFeatures] := rfl
  have hperm : ∀ k, (taken k other .new).Perm (taken k steps .new) := by
    have hfile' : taken .file other .new =
      [.unsupportType .identity [.delete], .supportTypes [.identity]] := rfl
    have hjpa' : taken .jpa other .new = [.readFrom source] := rfl
    have hldap' : taken .ldap other .new = [.supportAllFeatures] := rfl
    intro k
    cases k with
    | file =>
      rw [hfile, hfile']
      exact .swap _ _ _
    | jpa => rw [hjpa, hjpa']
    | ldap => rw [hldap, hldap']
  have hvisits : DeploymentStep.firstVisits steps = [.file, .jpa, .ldap] := rfl
  have hfirst : FirstToPermit .temporary steps .identity .delete .ldap := by
    refine ⟨?_, ?_, fun j hj => ?_⟩
    · rw [hvisits]
      decide
    · rw [hldap]
      decide
    · rw [hvisits] at hj
      have hcases : j = .file ∨ j = .jpa := by simpa using hj
      rcases hcases with rfl | rfl
      · rw [hfile]
        decide
      · rw [hjpa]
        decide
  obtain ⟨hroute, -, hother⟩ := routed_to_first_permitting_store hx hdep
  exact ⟨hx, hdep, (hroute .identity .delete .ldap).2 hfirst,
    hother other dep' rfl hperm hdep' .identity .delete⟩

end DeploymentDraft

end IdentityStore
