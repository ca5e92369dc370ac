import IdentityStore.Proofs.Deployment.Build
import IdentityStore.Proofs.Deployment.Failure
import IdentityStore.Proofs.Policy.Ledger

/-!
# Repairing a failed build

A build fails for want of visited stores, or at stores that support nothing. Such stores are never
closed, so a failed build is repaired by supporting types there, and all that was declared about the
other stores is kept.

* **Calls** (`SupportCall`) support types at a store behind a chain of visits. `run_supportCalls`:
  what they answer and leave at open stores (`Admits`).
* **Repairs** (`Repairs`): calls at all stores that lack support (`Lacks`), and at no other ones.
* `RepairedBy`, `StartedBy`: what such calls and the build after them give.
* `failed_build_repaired`: the law.
-/

namespace IdentityStore

open Text (Path)

/-! ## Supporting types at open stores -/

/-- A call that supports types at a store, behind a chain of visits. -/
structure SupportCall where
  via : List StoreType
  store : StoreType
  types : List ManagedType

namespace SupportCall

/-- The step on a deployment that a call is. -/
def step (c : SupportCall) : DeploymentStep :=
  .through c.via c.store (.declare (.supportTypes c.types))

/-- The types that calls support at the store of a type. -/
def typesFor (k : StoreType) (calls : List SupportCall) : List ManagedType :=
  (calls.filter (·.store = k)).flatMap (·.types)

variable {k : StoreType} {calls : List SupportCall}

@[simp] theorem typesFor_singleton (c : SupportCall) : typesFor c.store [c] = c.types := by
  simp [typesFor]

theorem typesFor_cons (k : StoreType) (c : SupportCall) (rest : List SupportCall) :
    typesFor k (c :: rest) = typesFor k [c] ++ typesFor k rest := by
  rw [typesFor, ← List.singleton_append, List.filter_append, List.flatMap_append]
  rfl

theorem typesFor_eq_nil (h : ∀ c ∈ calls, c.store ≠ k) : typesFor k calls = [] := by
  rw [typesFor, List.filter_eq_nil_iff.2 (by simpa using h)]
  rfl

theorem typesFor_ne_nil {c : SupportCall} (hc : c ∈ calls) (h : c.types ≠ []) :
    typesFor c.store calls ≠ [] := by
  intro hnil
  rw [typesFor, List.flatMap_eq_nil_iff] at hnil
  exact h (hnil c (List.mem_filter.2 ⟨hc, by simp⟩))

end SupportCall

/-- The draft of a store with some types supported besides. -/
def StoreDraft.supporting {k : StoreType} (s : StoreDraft k) (types : List ManagedType) :
    StoreDraft k :=
  { s with policy := { s.policy with supported := s.policy.supported.support types } }

namespace StoreDraft

variable {k : StoreType}

@[simp] theorem supporting_nil (s : StoreDraft k) : s.supporting [] = s := rfl

theorem supporting_append (s : StoreDraft k) (types more : List ManagedType) :
    s.supporting (types ++ more) = (s.supporting types).supporting more := by
  simp only [supporting, Ledger.support_append]

@[simp] theorem state_supporting (s : StoreDraft k) (types : List ManagedType) :
    (s.supporting types).policy.state = s.policy.state := rfl

@[simp] theorem supported_supporting (s : StoreDraft k) (types : List ManagedType) :
    (s.supporting types).policy.supported = s.policy.supported.support types := rfl

theorem store_supporting (s : StoreDraft k) (types : List ManagedType) :
    (s.supporting types).store =
      ⟨s.settings.pack, ⟨{ s.policy.toTerms with
        supported := s.policy.toTerms.supported.support types }⟩⟩ := rfl

theorem run_step_supportTypes {s : StoreDraft k} {types : List ManagedType}
    (h : s.policy.state = .opened) (ht : types ≠ []) :
    (step (.declare (.supportTypes types))).run s =
      ⟨.ok .done, s.supporting types, [.supporting types.length]⟩ := by
  have hfault : (Declaration.supportTypes types).fault? = none := by
    rw [Declaration.fault?_eq_none_iff]
    simpa using ht
  rw [run_step_declare, PolicyDraft.run_declare_opened h hfault]
  rfl

end StoreDraft

namespace DeploymentDraft

variable {d d' : DeploymentDraft} {k : StoreType} {c : SupportCall} {calls : List SupportCall}

theorem answer_supportCall (h : (d.slot c.store).policy.state = .opened) (ht : c.types ≠ []) :
    ((step c.step).run d).answer = .ok .done := by
  rw [SupportCall.step, answer_step_through, StoreDraft.run_step_supportTypes h ht]
  rfl

theorem configured_supportCall (c : SupportCall) (d : DeploymentDraft) :
    ((step c.step).run d).state.configured =
      d.configured ++ newVisits d.configured (c.via ++ [c.store]) := configured_step c.step d

theorem slot_supportCall (h : (d.slot c.store).policy.state = .opened) (ht : c.types ≠ [])
    (k : StoreType) :
    ((step c.step).run d).state.slot k = (d.slot k).supporting (SupportCall.typesFor k [c]) := by
  rw [slot_step, SupportCall.step, DeploymentStep.onStore?]
  by_cases hk : c.store = k
  · subst hk
    rw [dif_pos rfl, SupportCall.typesFor_singleton]
    exact congrArg Outcome.state (StoreDraft.run_step_supportTypes h ht)
  · rw [dif_neg hk, SupportCall.typesFor_eq_nil (by simpa using hk)]
    rfl

/-- A call goes to an open store through visited ones, and lists something. -/
structure Admits (d : DeploymentDraft) (c : SupportCall) : Prop where
  visited : ∀ j ∈ c.via ++ [c.store], j ∈ d.configured
  opened : (d.slot c.store).policy.state = .opened
  types : c.types ≠ []

theorem Admits.configured (h : d.Admits c) :
    ((step c.step).run d).state.configured = d.configured := by
  rw [configured_supportCall, newVisits_of_forall_mem h.visited, List.append_nil]

/-- A call keeps the stores open, so that what was admitted before it is admitted after it. -/
theorem Admits.after (h : d.Admits c) {c' : SupportCall} (h' : d.Admits c') :
    ((step c.step).run d).state.Admits c' where
  visited := by
    rw [h.configured]
    exact h'.visited
  opened := by
    rw [slot_supportCall h.opened h.types, StoreDraft.state_supporting, h'.opened]
  types := h'.types

/-- **Calls at open stores** are all accepted. Together they support their types, store by store,
and change nothing else. -/
theorem run_supportCalls (h : ∀ c ∈ calls, d.Admits c) :
    (∀ o ∈ Session.outcomes step (calls.map SupportCall.step) d, o.answer = .ok .done) ∧
      (afterAll (calls.map SupportCall.step) d).configured = d.configured ∧
      ∀ k, (afterAll (calls.map SupportCall.step) d).slot k =
        (d.slot k).supporting (SupportCall.typesFor k calls) := by
  induction calls generalizing d with
  | nil => exact ⟨fun o ho => absurd ho List.not_mem_nil, rfl, fun k => rfl⟩
  | cons c rest ih =>
    have hc : d.Admits c := h c List.mem_cons_self
    -- the other calls are made on what the first one leaves, where they are admitted as before
    obtain ⟨hanswers, hconfigured, hslot⟩ :=
      ih fun c' hc' => hc.after (h c' (List.mem_cons_of_mem c hc'))
    refine ⟨List.forall_mem_cons.2 ⟨answer_supportCall hc.opened hc.types, hanswers⟩,
      hconfigured.trans hc.configured, fun k => ?_⟩
    rw [SupportCall.typesFor_cons, StoreDraft.supporting_append,
      ← slot_supportCall hc.opened hc.types]
    exact hslot k

/-! ## Repairs -/

/-- A store lacks support: it was visited and supports nothing. -/
def Lacks (d : DeploymentDraft) (k : StoreType) : Prop :=
  k ∈ d.configured ∧ (d.slot k).policy.supported = ∅

instance (d : DeploymentDraft) (k : StoreType) : Decidable (d.Lacks k) :=
  decidable_of_iff (k ∈ d.configured ∧ ¬ d.Ready k) (and_congr_right fun _ => Classical.not_not)

/-- Calls that repair a deployment: each goes through visited stores to one that lacks support and
lists something there, and no store that lacks support is left out. -/
structure Repairs (d : DeploymentDraft) (calls : List SupportCall) : Prop where
  visited : ∀ c ∈ calls, ∀ j ∈ c.via, j ∈ d.configured
  lacks : ∀ c ∈ calls, d.Lacks c.store
  types : ∀ c ∈ calls, c.types ≠ []
  all : ∀ k, d.Lacks k → ∃ c ∈ calls, c.store = k

/-- There are always such calls: one for each store that lacks support, behind no other store. -/
theorem exists_repairs (d : DeploymentDraft) : ∃ calls, d.Repairs calls := by
  let call : StoreType → SupportCall := fun k => ⟨[], k, [.identity]⟩
  have hcall : ∀ c ∈ (d.configured.filter fun k => d.Lacks k).map call,
      ∃ k, d.Lacks k ∧ c = call k := by
    intro c hc
    obtain ⟨k, hk, rfl⟩ := List.mem_map.1 hc
    exact ⟨k, by simpa using (List.mem_filter.1 hk).2, rfl⟩
  refine ⟨(d.configured.filter fun k => d.Lacks k).map call, ?_, ?_, ?_, fun k hk => ?_⟩
  · intro c hc j hj
    obtain ⟨k, -, rfl⟩ := hcall c hc
    exact absurd hj List.not_mem_nil
  · intro c hc
    obtain ⟨k, hk, rfl⟩ := hcall c hc
    exact hk
  · intro c hc
    obtain ⟨k, -, rfl⟩ := hcall c hc
    exact List.cons_ne_nil _ _
  · exact ⟨call k, List.mem_map_of_mem (List.mem_filter.2 ⟨hk.1, by simpa using hk⟩), rfl⟩

theorem Repairs.admits (h : d.Repairs calls)
    (hopen : ∀ k, d.Lacks k → (d.slot k).policy.state = .opened) :
    ∀ c ∈ calls, d.Admits c := by
  intro c hc
  have hlacks := h.lacks c hc
  refine ⟨?_, hopen c.store hlacks, h.types c hc⟩
  rw [List.forall_mem_append, List.forall_mem_singleton]
  exact ⟨h.visited c hc, hlacks.1⟩

/-- **Calls that repair a deployment make every visited store ready.** -/
theorem Repairs.ready (h : d.Repairs calls) (hk : k ∈ d.configured) :
    (d.slot k).policy.supported.support (SupportCall.typesFor k calls) ≠ ∅ := by
  rw [Ne, Ledger.support_eq_empty_iff]
  rintro ⟨hempty, htypes⟩
  obtain ⟨c, hc, rfl⟩ := h.all k ⟨hk, hempty⟩
  exact SupportCall.typesFor_ne_nil hc (h.types c hc) htypes

theorem Repairs.typesFor_eq_nil (h : d.Repairs calls) (hk : ¬ d.Lacks k) :
    SupportCall.typesFor k calls = [] := by
  refine SupportCall.typesFor_eq_nil fun c hc heq => hk ?_
  rw [← heq]
  exact h.lacks c hc

/-! ## After a failed build -/

theorem LeftByFailure.lacks_iff (h : d.LeftByFailure d') : d'.Lacks k ↔ d.Lacks k := by
  rw [Lacks, Lacks, h.configured, h.terms k]

theorem LeftByFailure.opened (h : d.LeftByFailure d') (hk : d'.Lacks k)
    (hopen : ∀ k, (d.slot k).policy.supported = ∅ → (d.slot k).policy.state = .opened) :
    (d'.slot k).policy.state = .opened := by
  have hempty : (d.slot k).policy.supported = ∅ := (h.lacks_iff.1 hk).2
  rw [h.others k fun hp => hp.2 hempty]
  exact hopen k hempty

theorem LeftByFailure.store_supporting (h : d.LeftByFailure d') (k : StoreType)
    (types : List ManagedType) :
    ((d'.slot k).supporting types).store = ((d.slot k).supporting types).store := by
  rw [StoreDraft.store_supporting, StoreDraft.store_supporting, h.settings, h.terms]

/-- What the calls that repair a failed build give, by the deployment before the build and the one
that it left. All calls are accepted. The next build gives the visited stores, with what was
declared and set about them before, and with the types that the calls support. Nothing has changed
about the stores that did not lack support. -/
structure RepairedBy (d d' : DeploymentDraft) (calls : List SupportCall) (dep : Deployment) :
    Prop where
  accepted : ∀ o ∈ Session.outcomes step (calls.map SupportCall.step) d', o.answer = .ok .done
  builds : (build.run (afterAll (calls.map SupportCall.step) d')).answer = .ok dep
  stores : dep.stores =
    d.configured.map fun k => ((d.slot k).supporting (SupportCall.typesFor k calls)).store
  types : dep.stores.map Store.type = d.configured
  others : ∀ s ∈ dep.stores, ¬ d.Lacks s.type →
    s.policy.toTerms = (d.slot s.type).policy.toTerms
  slots : ∀ k, ¬ d.Lacks k →
    ((afterAll (calls.map SupportCall.step) d').slot k).policy.toTerms =
      (d.slot k).policy.toTerms

/-- **Calls at all stores that lack support repair what a failed build leaves.** -/
theorem LeftByFailure.repairedBy (h : d.LeftByFailure d')
    (hopen : ∀ k, d'.Lacks k → (d'.slot k).policy.state = .opened) (hnone : d.configured ≠ [])
    (hcalls : d'.Repairs calls) :
    d.RepairedBy d' calls (afterAll (calls.map SupportCall.step) d').deployment := by
  obtain ⟨haccepted, hconfigured, hslot⟩ := run_supportCalls (hcalls.admits hopen)
  rw [h.configured] at hconfigured
  have hstores : (afterAll (calls.map SupportCall.step) d').deployment.stores =
      d.configured.map fun k => ((d.slot k).supporting (SupportCall.typesFor k calls)).store := by
    rw [deployment, hconfigured]
    exact List.map_congr_left fun k _ => by rw [hslot, h.store_supporting]
  have hothers : ∀ k, ¬ d.Lacks k → SupportCall.typesFor k calls = [] :=
    fun k hk => hcalls.typesFor_eq_nil (mt h.lacks_iff.1 hk)
  refine ⟨haccepted, answer_build_of_ready ?_ fun k hk => ?_, hstores, ?_, fun s hs hk => ?_,
    fun k hk => ?_⟩
  · rwa [hconfigured]
  · -- a visited store has supported something before, or is one that the calls are about
    rw [hconfigured, ← h.configured] at hk
    rw [Ready, hslot, StoreDraft.supported_supporting]
    exact hcalls.ready hk
  · rw [types_deployment, hconfigured]
  · rw [mem_deployment hs, StoreDraft.type_store, hslot, hothers _ hk, StoreDraft.supporting_nil]
    exact h.terms s.type
  · rw [hslot, hothers k hk, StoreDraft.supporting_nil, h.terms]

/-- What a call gives on a deployment in which nothing was visited: it is accepted, and the next
build gives its store alone. -/
structure StartedBy (d : DeploymentDraft) (c : SupportCall) (s : Store) : Prop where
  accepted : ((step c.step).run d).answer = .ok .done
  builds : (build.run ((step c.step).run d).state).answer = .ok ⟨[s]⟩
  type : s.type = c.store
  types : ∀ t, t ∈ s.policy.supported ↔ t ∈ c.types

theorem startedBy (tmp : Path) (hnone : d.configured = [])
    (hslot : d.slot c.store = .new c.store tmp) (hvia : ∀ j ∈ c.via, j = c.store) (ht : c.types ≠ []) :
    d.StartedBy c ((StoreDraft.new c.store tmp).supporting c.types).store := by
  have hopened : (d.slot c.store).policy.state = .opened := by
    rw [hslot]
    rfl
  have hconfigured : ((step c.step).run d).state.configured = [c.store] := by
    rw [configured_supportCall, hnone, List.nil_append]
    refine newVisits_of_forall_eq (by simp) ?_
    rw [List.forall_mem_append, List.forall_mem_singleton]
    exact ⟨hvia, rfl⟩
  have hstate : ((step c.step).run d).state.slot c.store =
      (StoreDraft.new c.store tmp).supporting c.types := by
    rw [slot_supportCall hopened ht, hslot, SupportCall.typesFor_singleton]
  have hdeployment : ((step c.step).run d).state.deployment =
      ⟨[((StoreDraft.new c.store tmp).supporting c.types).store]⟩ := by
    rw [deployment, hconfigured, List.map_singleton, hstate]
  refine ⟨answer_supportCall hopened ht, ?_, StoreDraft.type_store _, fun t => ?_⟩
  · rw [← hdeployment]
    refine answer_build_of_ready ?_ fun k hk => ?_
    · rw [hconfigured]
      exact List.cons_ne_nil _ _
    · rw [hconfigured, List.mem_singleton] at hk
      subst hk
      rw [Ready, hstate, StoreDraft.supported_supporting, Ne, Ledger.support_eq_empty_iff]
      exact fun h => ht h.2
  · have hempty : t ∉ (StoreDraft.new c.store tmp).policy.supported := Std.ExtTreeMap.not_mem_empty
    exact Ledger.mem_support.trans (or_iff_right hempty)

/-- **A failed build can be repaired,** after every session on a new deployment. A build that fails
at stores that support nothing leaves all such stores open. Any calls that support something at each
of them are accepted, the next build succeeds, and nothing else has changed. A build that fails for
want of visited stores is repaired by one call at any store, and then gives this store alone. -/
theorem failed_build_repaired (tmp : Path) (steps : List DeploymentStep) :
    let d := afterAll steps (.new tmp)
    let d' := (build.run d).state
    (∀ e, (build.run d).answer = .error e →
        e = .configuration .noStoreConfigured ∨ e = .configuration .noSupportedTypes) ∧
      ((build.run d).answer = .error (.configuration .noSupportedTypes) →
        (∀ k, d'.Lacks k ↔ d.Lacks k) ∧ (∀ k, d'.Lacks k → (d'.slot k).policy.state = .opened) ∧
          (∃ calls, d'.Repairs calls) ∧
          ∀ calls, d'.Repairs calls → ∃ dep, d.RepairedBy d' calls dep) ∧
      ((build.run d).answer = .error (.configuration .noStoreConfigured) →
        ∀ c : SupportCall, (∀ j ∈ c.via, j = c.store) → c.types ≠ [] → ∃ s, d'.StartedBy c s) := by
  intro d d'
  have hopen : ∀ k, (d.slot k).policy.supported = ∅ → (d.slot k).policy.state = .opened :=
    fun k => opened_of_not_ready tmp steps
  refine ⟨fun e => build_error, fun h => ?_, fun h c hvia ht => ?_⟩
  · have hleft : d.LeftByFailure d' := leftByFailure_build h hopen
    have hopened : ∀ k, d'.Lacks k → (d'.slot k).policy.state = .opened :=
      fun k hk => hleft.opened hk hopen
    have hnone : d.configured ≠ [] := by
      obtain ⟨k, hk, -⟩ := build_noSupportedTypes_iff.1 h
      exact List.ne_nil_of_mem hk
    exact ⟨fun k => hleft.lacks_iff, hopened, exists_repairs d',
      fun calls hcalls => ⟨_, hleft.repairedBy hopened hnone hcalls⟩⟩
  · have hnone : d.configured = [] := build_noStoreConfigured_iff.1 h
    have hstate : d' = d := (state_build d).trans (state_validate_of_nil hnone)
    rw [hstate]
    refine ⟨_, startedBy tmp hnone (slot_of_not_mem_configured ?_) hvia ht⟩
    rw [hnone]
    exact List.not_mem_nil

/-- Of three visited stores the second one supports nothing. The failed build has closed the first
store, and a call at the second, behind the first, is enough for the next build. -/
theorem second_store_repaired :
    let steps : List DeploymentStep :=
      [.through [] .file (.declare .supportAllFeatures), .visit [.ldap],
        .through [] .jpa (.declare (.supportTypes [.relationship]))]
    let d := afterAll steps .new
    let d' := (build.run d).state
    let calls : List SupportCall := [⟨[.file], .ldap, [.identity]⟩]
    (build.run d).answer = .error (.configuration .noSupportedTypes) ∧
      (d'.slot .file).policy.state = .validated ∧
      ∃ dep, d.RepairedBy d' calls dep ∧ dep.stores.map Store.type = [.file, .ldap, .jpa] := by
  intro steps d d' calls
  have hfails : (build.run d).answer = .error (.configuration .noSupportedTypes) := rfl
  obtain ⟨-, -, -, hrepaired⟩ := (failed_build_repaired .temporary steps).2.1 hfails
  have hall : ∀ k, d'.Lacks k → ∃ c ∈ calls, c.store = k := by
    intro k hk
    cases k with
    | ldap => exact ⟨_, List.mem_singleton_self _, rfl⟩
    | file | jpa => exact absurd hk (by decide)
  have hcalls : d'.Repairs calls := ⟨by decide, by decide, by decide, hall⟩
  obtain ⟨dep, hdep⟩ := hrepaired calls hcalls
  exact ⟨hfails, rfl, dep, hdep, hdep.types⟩

end DeploymentDraft

end IdentityStore
