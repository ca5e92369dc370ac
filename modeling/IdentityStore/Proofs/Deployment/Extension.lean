import IdentityStore.Proofs.Deployment.Build
import IdentityStore.Proofs.Lifecycle

/-!
# Later builds extend earlier ones

The draft of a deployment can be used on after it was built, and can be built again. What a build
has settled stays as it is: the stores that it gave are the first ones of every later build, in the
same order and with the same policies. Their settings may change, and stores may follow.

* `Store.settled`: the type and the policy of a store.
* **Extensions** (`Deployment.Extends`), which follow from a prefix of what is settled
  (`extends_of_settled_prefix`).
* `policy_slot_of_build_ok`: a successful build leaves the policies of its stores as they are over
  every later session.
* `later_build_extends`: the law.
-/

namespace IdentityStore

/-- What a build settles about a store: everything but the settings. -/
def Store.settled (s : Store) : StoreType × Policy := (s.type, s.policy)

namespace Deployment

variable {dep dep' : Deployment}

/-- The second deployment has the stores of the first at its beginning, with the same policies, and
sends what the first sends to a store to the same store. -/
structure Extends (dep dep' : Deployment) : Prop where
  types : dep.stores.map Store.type <+: dep'.stores.map Store.type
  policies : ∀ (i : Nat) (s : Store), dep.stores[i]? = some s →
    ∃ s', dep'.stores[i]? = some s' ∧ s'.type = s.type ∧ s'.policy = s.policy
  routes : ∀ t o s, dep.storeFor? t o = some s →
    ∃ s', dep'.storeFor? t o = some s' ∧ s'.type = s.type ∧ s'.policy = s.policy

theorem settled_storeFor? (dep : Deployment) (t : ManagedType) (o : Operation) :
    (dep.storeFor? t o).map Store.settled =
      (dep.stores.map Store.settled).find? fun p => p.2.supports t o := by
  rw [List.find?_map]
  rfl

/-- **A deployment is extended** when what is settled in it comes first. -/
theorem extends_of_settled_prefix
    (h : dep.stores.map Store.settled <+: dep'.stores.map Store.settled) : dep.Extends dep' where
  types := by
    have htypes := h.map Prod.fst
    rwa [List.map_map, List.map_map] at htypes
  policies i s hs := by
    obtain ⟨rest, hrest⟩ := h
    have hi : i < (dep.stores.map Store.settled).length := by
      rw [List.length_map]
      exact (List.getElem?_eq_some_iff.1 hs).1
    have hsettled : (dep'.stores.map Store.settled)[i]? = some s.settled := by
      rw [← hrest, List.getElem?_append_left hi, List.getElem?_map, hs]
      rfl
    rw [List.getElem?_map] at hsettled
    obtain ⟨s', hs', heq⟩ := Option.map_eq_some_iff.1 hsettled
    exact ⟨s', hs', congrArg Prod.fst heq, congrArg Prod.snd heq⟩
  routes t o s hs := by
    have hfind := settled_storeFor? dep t o
    rw [hs] at hfind
    have hsettled := h.find?_eq_some hfind.symm
    rw [← settled_storeFor?] at hsettled
    obtain ⟨s', hs', heq⟩ := Option.map_eq_some_iff.1 hsettled
    exact ⟨s', hs', congrArg Prod.fst heq, congrArg Prod.snd heq⟩

end Deployment

namespace DeploymentDraft

variable {d : DeploymentDraft} {k : StoreType} {dep dep' : Deployment}

theorem settled_deployment (d : DeploymentDraft) :
    d.deployment.stores.map Store.settled =
      d.configured.map fun k => (k, ⟨(d.slot k).policy.toTerms⟩) := by
  rw [deployment, List.map_map]
  exact List.map_congr_left fun k _ => Prod.ext (StoreDraft.type_store (d.slot k)) rfl

theorem configured_prefix_afterAll (steps : List DeploymentStep) (d : DeploymentDraft) :
    d.configured <+: (afterAll steps d).configured := by
  rw [configured_afterAll]
  exact List.prefix_append _ _

/-- **A successful build settles the policies of its stores.** They are sealed from then on,
whatever is done with the draft of the deployment. -/
theorem policy_slot_of_build_ok (h : (build.run d).answer = .ok dep) (hk : k ∈ d.configured)
    (steps : List DeploymentStep) :
    ((afterAll steps (build.run d).state).slot k).policy = (d.slot k).policy.closed := by
  have hready := (build_ok_iff.1 ⟨dep, h⟩).2 k hk
  have hslot : ((build.run d).state.slot k).policy = (d.slot k).policy.closed := by
    rw [(answer_state_of_build_ok h).2, slot_closeAll, if_pos hk, StoreDraft.policy_closed]
  rw [policy_slot_of_sealed (hslot ▸ PolicyDraft.sealed_closed hready), hslot]

/-- **Later builds extend earlier ones.** Whatever steps are taken between two successful builds,
taken or refused, the later build gives the stores of the earlier one again, in the same order and
with the same policies, and then perhaps others. So an operation that is sent to a store at first is
sent to the same store later. -/
theorem later_build_extends (more : List DeploymentStep) (h : (build.run d).answer = .ok dep)
    (h' : (build.run (afterAll more (build.run d).state)).answer = .ok dep') :
    dep.Extends dep' := by
  obtain ⟨rfl, hstate⟩ := answer_state_of_build_ok h
  obtain ⟨rfl, -⟩ := answer_state_of_build_ok h'
  have hconfigured := configured_prefix_afterAll more (build.run d).state
  rw [hstate, configured_closeAll, ← hstate] at hconfigured
  obtain ⟨rest, hrest⟩ := hconfigured
  refine Deployment.extends_of_settled_prefix ?_
  rw [settled_deployment, settled_deployment, ← hrest, List.map_append]
  have hsame : d.configured.map (fun k => (k, (⟨(d.slot k).policy.toTerms⟩ : Policy))) =
      d.configured.map fun k =>
        (k, ⟨((afterAll more (build.run d).state).slot k).policy.toTerms⟩) :=
    List.map_congr_left fun k hk => by rw [policy_slot_of_build_ok h hk, PolicyDraft.toTerms_closed]
  rw [hsame]
  exact List.prefix_append _ _

/-- Between two builds a setting is changed, a declaration is refused, another store is visited, and
a build fails because that store supports nothing yet. The second deployment has one store more, and
the first one with other settings. -/
theorem second_build_extends_first :
    let d := afterAll [.through [] .file (.declare .supportAllFeatures)] .new
    let more : List DeploymentStep :=
      [.through [] .file (.set (.asyncWrite true)),
        .through [] .file (.declare (.unsupportType .identity [])), .visit [.ldap], .build,
        .through [.file] .ldap (.declare (.supportTypes [.identity]))]
    let d' := afterAll more (build.run d).state
    (build.run d).answer = .ok d.deployment ∧ (build.run d').answer = .ok d'.deployment ∧
      d.deployment.Extends d'.deployment ∧
      d'.deployment.stores.map Store.type = [.file, .ldap] ∧
      (d'.deployment.store? .file).map Store.settings ≠
        (d.deployment.store? .file).map Store.settings := by
  intro d more d'
  have hd : (build.run d).answer = .ok d.deployment :=
    answer_build_of_ready (by decide) (by decide)
  have hd' : (build.run d').answer = .ok d'.deployment :=
    answer_build_of_ready (by decide) (by decide)
  exact ⟨hd, hd', later_build_extends more hd hd', by decide, by decide⟩

end DeploymentDraft

end IdentityStore
