import IdentityStore.Proofs.Deployment.Failure
import IdentityStore.Proofs.Deployment.History
import IdentityStore.Proofs.Policy.Events
import Mathlib.Data.List.Induction
import Mathlib.Data.List.Nodup

/-!
# What is told about a deployment

Failures are returned and never told, and what is told is told once: the first visit of each store,
the validation of each store, and each deployment that is built.

* `StoreDraft.stepsOnPolicy`, `Handle.stepsOnPolicy`: stores and handles tell what their policies
  tell.
* **Closed stores** (`newlyClosed`): the stores whose drafts a step closes (`newlyClosed_validate`,
  `newlyClosed_through`).
* `events_validate`: a validation tells of these and of nothing else, whether it succeeds or fails.
  A build tells the same, and then that it has built (`events_build_of_error`,
  `events_build_of_ok`).
* **One step** (`TellsStores`): what it tells is what it changes (`tellsStores_step`).
* **A session** tells every first visit and every validation once (`visits_events`,
  `length_validations_events`).
* `transitions_told_once`: the law.
-/

namespace IdentityStore

open Text (Path)

/-! ## Stores and handles -/

theorem StoreDraft.stepsOnPolicy (k : StoreType) :
    StepsOnPolicy StoreDraft.policy (StoreDraft.step (k := k)) StoreStep.onPolicy? where
  error t s e h := by
    cases t with
    | declare x =>
      rw [run_step_declare, Action.map_eq_error_iff] at h
      refine ⟨_, rfl, ?_⟩
      rw [PolicyDraft.run_step_declare, Action.map_eq_error_iff]
      exact h
    | set setting => cases h
    | validate =>
      rw [run_step_validate, Action.map_eq_error_iff] at h
      refine ⟨_, rfl, ?_⟩
      rw [PolicyDraft.run_step_validate, Action.map_eq_error_iff]
      exact h
    | create =>
      have hcreate : s.create = s.policy.resolve.map (Store.mk s.settings.pack) :=
        (host k).resolve_eq s
      rw [run_step_create, hcreate, Action.map_eq_error_iff, Action.map_eq_error_iff] at h
      refine ⟨_, rfl, ?_⟩
      rw [PolicyDraft.run_step_resolve, Action.map_eq_error_iff]
      exact h
  state := policy_step
  events t s := by
    cases t with
    | declare x =>
      rw [run_step_declare, StoreStep.onPolicy?, Option.toList_some, Session.events_cons,
        PolicyDraft.run_step_declare]
      exact (List.append_nil _).symm
    | set setting => rfl
    | validate =>
      rw [run_step_validate, StoreStep.onPolicy?, Option.toList_some, Session.events_cons,
        PolicyDraft.run_step_validate]
      exact (List.append_nil _).symm
    | create =>
      rw [run_step_create, StoreStep.onPolicy?, Option.toList_some, Session.events_cons,
        PolicyDraft.run_step_resolve]
      rfl

theorem Handle.stepsOnPolicy (k : StoreType) :
    StepsOnPolicy Handle.policy (Handle.step (k := k)) StoreStep.onPolicy? where
  error t h e he := by
    rw [h.shows_slot.step] at he
    exact (StoreDraft.stepsOnPolicy k).error t _ e he
  state t h := by
    rw [h.shows_slot.step, Handle.policy, Handle.setStore, DeploymentDraft.slot_setSlot]
    exact (StoreDraft.stepsOnPolicy k).state t _
  events t h := by
    rw [h.shows_slot.step]
    exact (StoreDraft.stepsOnPolicy k).events t _

namespace DeploymentDraft

variable {d d' : DeploymentDraft} {k : StoreType} {ks : List StoreType} {x : DeploymentStep}

/-! ## Closed stores -/

/-- The stores that are validated in the second draft and open in the first, in the order of their
first visits. -/
def newlyClosed (d d' : DeploymentDraft) : List StoreType :=
  d'.configured.filter fun k =>
    (d.slot k).policy.state = .opened ∧ (d'.slot k).policy.state = .validated

theorem newlyClosed_of_slot (h : ∀ k, d'.slot k = d.slot k) : d.newlyClosed d' = [] := by
  refine List.filter_eq_nil_iff.2 fun k _ hk => ?_
  obtain ⟨hopen, hclosed⟩ := of_decide_eq_true hk
  rw [h, hopen] at hclosed
  cases hclosed

theorem filter_mem_takeWhile (p : StoreType → Bool) (h : ks.Nodup) :
    (ks.filter fun k => k ∈ ks.takeWhile p) = ks.takeWhile p := by
  have hsplit := List.takeWhile_append_dropWhile (p := p) (l := ks)
  rw [← hsplit] at h
  obtain ⟨-, -, hdisjoint⟩ := List.nodup_append.1 h
  have hfirst : ((ks.takeWhile p).filter fun k => k ∈ ks.takeWhile p) = ks.takeWhile p :=
    List.filter_eq_self.2 fun k hk => decide_eq_true hk
  have hrest : ((ks.dropWhile p).filter fun k => k ∈ ks.takeWhile p) = [] :=
    List.filter_eq_nil_iff.2 fun k hk hm => hdisjoint k (of_decide_eq_true hm) k hk rfl
  calc (ks.filter fun k => k ∈ ks.takeWhile p)
      = ((ks.takeWhile p ++ ks.dropWhile p).filter fun k => k ∈ ks.takeWhile p) := by rw [hsplit]
    _ = ks.takeWhile p := by rw [List.filter_append, hfirst, hrest, List.append_nil]

/-- **A validation closes** the stores that it passes and that were open. -/
theorem newlyClosed_validate (h : d.configured.Nodup) :
    d.newlyClosed (validate.run d).state =
      (d.readyUpTo d.configured).filter fun k => (d.slot k).policy.state = .opened := by
  have hpasses : ∀ k, ((d.slot k).policy.state = .opened ∧
      ((validate.run d).state.slot k).policy.state = .validated) ↔
      (d.slot k).policy.state = .opened ∧ k ∈ d.readyUpTo d.configured := by
    intro k
    rw [slot_state_validate, mem_readyUpTo_iff]
    refine and_congr_right fun hopen => ?_
    split
    · next hp => exact iff_of_true rfl hp
    · next hp =>
      refine iff_of_false (fun hclosed => ?_) hp
      rw [hopen] at hclosed
      cases hclosed
  have hpassed := filter_mem_takeWhile (fun k => d.Ready k) h
  rw [newlyClosed, configured_validate]
  simp only [hpasses]
  rw [readyUpTo, ← hpassed, List.filter_filter]
  refine List.filter_congr fun k _ => ?_
  rw [hpassed, Bool.decide_and]

theorem newlyClosed_through {via : List StoreType} {t : StoreStep k}
    (h : ((step (.through via k t)).run d).state.configured.Nodup) :
    d.newlyClosed ((step (.through via k t)).run d).state =
      if ClosesPolicy StoreDraft.policy StoreDraft.step t (d.slot k) then [k] else [] := by
  have hmem : k ∈ ((step (.through via k t)).run d).state.configured := by
    rw [configured_step, mem_append_newVisits]
    exact .inr (List.mem_append_right via List.mem_cons_self)
  have hcloses : ∀ j, ((d.slot j).policy.state = .opened ∧
      (((step (.through via k t)).run d).state.slot j).policy.state = .validated) ↔
      j = k ∧ ClosesPolicy StoreDraft.policy StoreDraft.step t (d.slot k) := by
    intro j
    rw [slot_step, DeploymentStep.onStore?]
    by_cases hj : j = k
    · subst hj
      rw [dif_pos rfl]
      exact (and_iff_right rfl).symm
    · rw [dif_neg (Ne.symm hj)]
      refine iff_of_false ?_ fun hk => hj hk.1
      rintro ⟨hopen, hclosed⟩
      rw [Option.toList_none, StoreDraft.afterAll, Session.after_nil, hopen] at hclosed
      cases hclosed
  rw [newlyClosed]
  simp only [hcloses]
  by_cases hc : ClosesPolicy StoreDraft.policy StoreDraft.step t (d.slot k)
  · simp only [hc, and_true, if_true]
    rw [List.filter_eq, List.count_eq_one_of_mem h hmem]
    rfl
  · simp [hc]

/-! ## Validation and building -/

/-- What the validation of the open ones among some stores tells. -/
def validations (d : DeploymentDraft) (ks : List StoreType) : List Event :=
  (ks.filter fun k => (d.slot k).policy.state = .opened).map fun k =>
    .validated (d.slot k).policy.supported.size

/-- It depends on the drafts of these stores alone. -/
theorem validations_congr (h : ∀ k ∈ ks, d'.slot k = d.slot k) :
    d'.validations ks = d.validations ks := by
  have hopened : (ks.filter fun k => (d'.slot k).policy.state = .opened) =
      ks.filter fun k => (d.slot k).policy.state = .opened :=
    List.filter_congr fun k hk => by rw [h k hk]
  rw [validations, validations, hopened]
  exact List.map_congr_left fun k hk => by rw [h k (List.mem_filter.1 hk).1]

theorem validations_cons (d : DeploymentDraft) (k : StoreType) (rest : List StoreType) :
    d.validations (k :: rest) = d.validations [k] ++ d.validations rest := by
  simp only [validations, ← List.map_append, ← List.filter_append, List.singleton_append]

theorem events_onSlot_validate (d : DeploymentDraft) (k : StoreType) :
    ((onSlot k StoreDraft.validate).run d).events =
      if d.Ready k then d.validations [k] else [] := by
  refine (PolicyDraft.events_validate (d.slot k).policy).trans ?_
  by_cases hr : d.Ready k <;> by_cases hs : (d.slot k).policy.state = .opened
  · rw [if_pos ⟨hs, hr⟩, if_pos hr]
    simp [validations, hs]
  · rw [if_neg fun h => hs h.1, if_pos hr]
    simp [validations, hs]
  · rw [if_neg fun h => hr h.2, if_neg hr]
  · rw [if_neg fun h => hr h.2, if_neg hr]

theorem events_validate_list (h : ks.Nodup) :
    ((ks.forM fun k => onSlot k StoreDraft.validate).run d).events =
      d.validations (d.readyUpTo ks) := by
  induction ks generalizing d with
  | nil => rfl
  | cons k rest ih =>
    obtain ⟨hk, hrest⟩ := List.nodup_cons.1 h
    have hevents := events_onSlot_validate d k
    rw [Action.forM_cons, Action.run_bind]
    rcases hrun : (onSlot k StoreDraft.validate).run d with ⟨answer, state, events⟩
    rw [hrun] at hevents
    rcases answer_state_onSlot_validate d k with ⟨hr, ha, hs⟩ | ⟨hr, ha, hs⟩ <;>
      rw [hrun] at ha hs <;> obtain rfl := ha <;> obtain rfl := hs
    · rw [readyUpTo, List.takeWhile_cons_of_neg (by simpa using hr)]
      exact hevents.trans (if_neg hr)
    · -- the other stores are listed once, so closing this one leaves them as they are
      have hothers : ∀ j ∈ d.readyUpTo rest, (d.close k).slot j = d.slot j := by
        intro j hj
        have hjk : j ≠ k := by
          rintro rfl
          exact hk ((List.takeWhile_prefix _).subset hj)
        rw [slot_close, if_neg hjk]
      have htold := ih (d := d.close k) hrest
      rw [readyUpTo_close, validations_congr hothers] at htold
      rw [if_pos hr] at hevents
      rw [readyUpTo, List.takeWhile_cons_of_pos (by simpa using hr), validations_cons, ← hevents]
      exact congrArg (events ++ ·) htold

/-- **A validation tells** of the stores that it closes, in their order. -/
theorem events_validate (h : d.configured.Nodup) :
    (validate.run d).events = (d.newlyClosed (validate.run d).state).map fun k =>
      .validated (d.slot k).policy.supported.size := by
  rw [newlyClosed_validate h, validate, Action.run_bind, Action.run_state]
  simp only [List.isEmpty_iff]
  by_cases hnone : d.configured = []
  · rw [if_pos hnone, hnone]
    rfl
  · rw [if_neg hnone]
    exact events_validate_list h

theorem events_build_of_error {e : Error} (h : d.configured.Nodup)
    (he : (build.run d).answer = .error e) :
    (build.run d).events = (d.newlyClosed (build.run d).state).map fun k =>
      .validated (d.slot k).policy.supported.size := by
  rw [run_build_eq_of_error (validate_error_of_build_error he)]
  exact events_validate h

/-- **A build that succeeds** tells in the end that it has built, and how many stores. -/
theorem events_build_of_ok {dep : Deployment} (h : d.configured.Nodup)
    (hdep : (build.run d).answer = .ok dep) :
    (build.run d).events = ((d.newlyClosed (build.run d).state).map fun k =>
      .validated (d.slot k).policy.supported.size) ++ [.built d.configured.length] := by
  cases hv : (validate.run d).answer with
  | error e =>
    rw [(run_build_of_error hv).1] at hdep
    cases hdep
  | ok u =>
    rw [state_build, ← events_validate h, run_build_eq_of_ok hv]

/-! ## One step -/

/-- What a step on a deployment tells about its stores, when the stores support these numbers of
types. -/
structure TellsStores (d : DeploymentDraft) (x : DeploymentStep) (count : StoreType → Nat) :
    Prop where
  /-- The stores that are new on the chain of the step are told, in their order. -/
  visits : ((step x).run d).events.filter Event.isVisit =
    (newVisits d.configured x.visits).map .configuring
  /-- The validations of the stores that the step closes are told. -/
  validations : ((step x).run d).events.filter Event.isValidation =
    (d.newlyClosed ((step x).run d).state).map fun k => .validated (count k)
  /-- A deployment that is built is told, and how many stores were visited. -/
  built : ∀ dep, ((step x).run d).answer = .ok (.built dep) →
    ((step x).run d).events.filter Event.isBuild = [.built d.configured.length]
  /-- No other step tells that something is built. -/
  not_built : (∀ dep, ((step x).run d).answer ≠ .ok (.built dep)) →
    ((step x).run d).events.filter Event.isBuild = []
  /-- A step that fails tells of these visits and validations and of nothing else. -/
  failed : ∀ e, ((step x).run d).answer = .error e → ((step x).run d).events =
    (newVisits d.configured x.visits).map .configuring ++
      (d.newlyClosed ((step x).run d).state).map fun k => .validated (count k)

theorem filter_visits (ks : List StoreType) :
    (ks.map Event.configuring).filter Event.isVisit = ks.map .configuring ∧
      (ks.map Event.configuring).filter Event.isValidation = [] ∧
      (ks.map Event.configuring).filter Event.isBuild = [] := by
  induction ks with
  | nil => exact ⟨rfl, rfl, rfl⟩
  | cons k rest ih =>
    obtain ⟨hvisit, hvalidation, hbuild⟩ := ih
    exact ⟨congrArg (List.cons _) hvisit, hvalidation, hbuild⟩

theorem filter_validations (ks : List StoreType) (count : StoreType → Nat) :
    (ks.map fun k => Event.validated (count k)).filter Event.isVisit = [] ∧
      (ks.map fun k => Event.validated (count k)).filter Event.isValidation =
        (ks.map fun k => .validated (count k)) ∧
      (ks.map fun k => Event.validated (count k)).filter Event.isBuild = [] := by
  induction ks with
  | nil => exact ⟨rfl, rfl, rfl⟩
  | cons k rest ih =>
    obtain ⟨hvisit, hvalidation, hbuild⟩ := ih
    exact ⟨hvisit, congrArg (List.cons _) hvalidation, hbuild⟩

/-- It is enough to look at what a step tells behind the visits of its chain. -/
theorem TellsStores.of_events {count : StoreType → Nat} {others : List Event}
    (hevents : ((step x).run d).events =
      (newVisits d.configured x.visits).map .configuring ++ others)
    (hvisit : others.filter Event.isVisit = [])
    (hvalidation : others.filter Event.isValidation =
      (d.newlyClosed ((step x).run d).state).map fun k => .validated (count k))
    (hbuilt : ∀ dep, ((step x).run d).answer = .ok (.built dep) →
      others.filter Event.isBuild = [.built d.configured.length])
    (hnot : (∀ dep, ((step x).run d).answer ≠ .ok (.built dep)) →
      others.filter Event.isBuild = [])
    (hfailed : ∀ e, ((step x).run d).answer = .error e → others =
      (d.newlyClosed ((step x).run d).state).map fun k => .validated (count k)) :
    d.TellsStores x count := by
  obtain ⟨hvisits, hnovalidation, hnobuild⟩ := filter_visits (newVisits d.configured x.visits)
  refine ⟨?_, ?_, fun dep hdep => ?_, fun hn => ?_, fun e he => ?_⟩
  · rw [hevents, List.filter_append, hvisits, hvisit, List.append_nil]
  · rw [hevents, List.filter_append, hnovalidation, hvalidation, List.nil_append]
  · rw [hevents, List.filter_append, hnobuild, hbuilt dep hdep, List.nil_append]
  · rw [hevents, List.filter_append, hnobuild, hnot hn, List.nil_append]
  · rw [hevents, hfailed e he]

theorem tellsStores_visit (d : DeploymentDraft) (chain : List StoreType) :
    d.TellsStores (.visit chain) fun k => (d.slot k).policy.supported.size := by
  have hrun : (step (.visit chain)).run d =
      ⟨.ok .done, d.visited chain, (newVisits d.configured chain).map .configuring ++ []⟩ := by
    rw [step, Action.run_bind_of_ok (run_visitAll chain d)]
    rfl
  have hclosed : d.newlyClosed ((step (.visit chain)).run d).state = [] :=
    newlyClosed_of_slot fun k => by rw [hrun, slot_visited]
  refine .of_events (congrArg Outcome.events hrun) rfl ?_ (fun dep h => ?_) (fun _ => rfl)
    fun e h => ?_
  · rw [hclosed]
    rfl
  · rw [hrun] at h
    cases h
  · rw [hrun] at h
    cases h

theorem tellsStores_through {via : List StoreType} {t : StoreStep k}
    (h : ((step (.through via k t)).run d).state.configured.Nodup) :
    d.TellsStores (.through via k t) fun j => (d.slot j).policy.supported.size := by
  have hclosed := newlyClosed_through h
  have hkind := fun e => (StoreDraft.stepsOnPolicy k).kind_of_mem_events (t := t) (s := d.slot k)
    (e := e)
  have hnobuild : ((StoreDraft.step t).run (d.slot k)).events.filter Event.isBuild = [] :=
    List.filter_eq_nil_iff.2 fun e he => by simp [(hkind e he).2]
  refine .of_events (congrArg Outcome.events (run_step_through via k t d)) ?_ ?_
    (fun dep hdep => ?_) (fun _ => hnobuild) fun e he => ?_
  · exact List.filter_eq_nil_iff.2 fun e he => by simp [(hkind e he).1]
  · rw [hclosed]
    by_cases hc : ClosesPolicy StoreDraft.policy StoreDraft.step t (d.slot k)
    · rw [if_pos hc, (StoreDraft.stepsOnPolicy k).events_of_closes hc]
      rfl
    · rw [if_neg hc, (StoreDraft.stepsOnPolicy k).validations_of_not_closes hc]
      rfl
  · -- the answers of stores are no deployments
    rw [answer_step_through] at hdep
    cases ha : ((StoreDraft.step t).run (d.slot k)).answer with
    | error e =>
      rw [ha] at hdep
      cases hdep
    | ok a =>
      rw [ha] at hdep
      cases a <;> cases hdep
  · rw [answer_step_through, Action.map_eq_error_iff] at he
    have hsilent := (StoreDraft.stepsOnPolicy k).events_of_error he
    have hopen : ¬ ClosesPolicy StoreDraft.policy StoreDraft.step t (d.slot k) := by
      intro hc
      rw [(StoreDraft.stepsOnPolicy k).events_of_closes hc] at hsilent
      cases hsilent
    rw [hclosed, if_neg hopen, hsilent]
    rfl

theorem tellsStores_validate (h : d.configured.Nodup) :
    d.TellsStores .validate fun k => (d.slot k).policy.supported.size := by
  have hrun : (step .validate).run d = ⟨(validate.run d).answer.map fun _ => .done,
      (validate.run d).state, (validate.run d).events⟩ := by
    rw [step, Action.run_bind_return]
  have hevents := events_validate h
  obtain ⟨hvisit, hvalidation, hbuild⟩ := filter_validations
    (d.newlyClosed (validate.run d).state) fun k => (d.slot k).policy.supported.size
  rw [← hevents] at hvisit hvalidation hbuild
  refine .of_events (congrArg Outcome.events hrun) hvisit ?_ (fun dep hdep => ?_) (fun _ => hbuild)
    fun e _ => ?_
  · rw [hrun, hvalidation, hevents]
  · rw [hrun] at hdep
    cases ha : (validate.run d).answer <;> rw [ha] at hdep <;> cases hdep
  · rw [hrun, hevents]

theorem tellsStores_build (h : d.configured.Nodup) :
    d.TellsStores .build fun k => (d.slot k).policy.supported.size := by
  have hrun : (step .build).run d = ⟨(build.run d).answer.map .built,
      (build.run d).state, (build.run d).events⟩ := by
    rw [step, Action.run_bind_return]
  obtain ⟨hvisit, hvalidation, hbuild⟩ := filter_validations
    (d.newlyClosed (build.run d).state) fun k => (d.slot k).policy.supported.size
  cases ha : (build.run d).answer with
  | error e =>
    have hevents := events_build_of_error h ha
    rw [← hevents] at hvisit hvalidation hbuild
    refine .of_events (congrArg Outcome.events hrun) hvisit ?_ (fun dep hdep => ?_)
      (fun _ => hbuild) fun e _ => ?_
    · rw [hrun, hvalidation, hevents]
    · rw [hrun, ha] at hdep
      cases hdep
    · rw [hrun, hevents]
  | ok dep =>
    have hevents := events_build_of_ok h ha
    refine .of_events (congrArg Outcome.events hrun) ?_ ?_ (fun _ _ => ?_) (fun hnot => ?_)
      fun e he => ?_
    · rw [hevents, List.filter_append, hvisit]
      rfl
    · rw [hrun, hevents, List.filter_append, hvalidation]
      exact List.append_nil _
    · rw [hevents, List.filter_append, hbuild]
      rfl
    · refine absurd ?_ (hnot dep)
      rw [hrun, ha]
      rfl
    · rw [hrun, ha] at he
      cases he

/-- **One step** tells of what it changes about the stores, if every store is listed once. -/
theorem tellsStores_step (x : DeploymentStep) (h : d.configured.Nodup) :
    d.TellsStores x fun k => (d.slot k).policy.supported.size := by
  cases x with
  | visit chain => exact tellsStores_visit d chain
  | through via k t =>
    refine tellsStores_through ?_
    rw [configured_step]
    exact nodup_append_newVisits h
  | validate => exact tellsStores_validate h
  | build => exact tellsStores_build h

/-! ## Sessions -/

/-- **A session tells every first visit,** in the order of the visited stores. -/
theorem visits_events (h : d.configured.Nodup) (steps : List DeploymentStep) :
    d.configured.map .configuring ++ (Session.events step steps d).filter Event.isVisit =
      (afterAll steps d).configured.map .configuring := by
  induction steps generalizing d with
  | nil => exact List.append_nil _
  | cons x rest ih =>
    have hnodup : ((step x).run d).state.configured.Nodup := by
      rw [configured_step]
      exact nodup_append_newVisits h
    rw [afterAll_cons, ← ih hnodup, Session.events_cons, List.filter_append,
      (tellsStores_step x h).visits, configured_step, List.map_append, List.append_assoc]

/-- A step makes as many stores validated as it closes. -/
theorem countP_validated_step (tmp : Path) (steps : List DeploymentStep) (x : DeploymentStep) :
    let d := afterAll steps (.new tmp)
    let d' := ((step x).run d).state
    (d'.configured.countP fun k => (d'.slot k).policy.state = .validated) =
      (d.configured.countP fun k => (d.slot k).policy.state = .validated) +
        (d.newlyClosed d').length := by
  intro d d'
  -- a store that is new on the chain of the step was open, as it was never visited
  have hfirst : (newVisits d.configured x.visits).countP
      (fun k => (d.slot k).policy.state = .validated) = 0 := by
    refine List.countP_eq_zero.2 fun k hk hv => ?_
    have hvisit : k ∉ d.configured := fun hmem =>
      (List.nodup_append.1 (nodup_append_newVisits (nodup_configured tmp steps))).2.2 k hmem k hk rfl
    rw [slot_of_not_mem_configured hvisit] at hv
    cases of_decide_eq_true hv
  -- what is validated stays validated, so the rest of the stores were closed by the step
  have hkept : ∀ k, (d'.slot k).policy.state = .validated ∧ (d.slot k).policy.state = .validated ↔
      (d.slot k).policy.state = .validated := by
    intro k
    refine and_iff_right_of_imp fun hk => ?_
    exact (policy_slot_of_sealed (sealed_slot_of_validated hk) [x]).symm ▸ hk
  have hclosed : ∀ k,
      (d'.slot k).policy.state = .validated ∧ ¬ (d.slot k).policy.state = .validated ↔
        (d.slot k).policy.state = .opened ∧ (d'.slot k).policy.state = .validated := by
    intro k
    cases (d.slot k).policy.state <;> simp
  rw [List.countP_eq_countP_filter_add _ _ fun k => (d.slot k).policy.state = .validated,
    List.countP_filter, List.countP_filter, newlyClosed, ← List.countP_eq_length_filter]
  simp only [← Bool.decide_and, ← decide_not, hkept, hclosed]
  rw [configured_step, List.countP_append, hfirst]
  rfl

/-- **A session tells every store that is validated once.** -/
theorem length_validations_events (tmp : Path) (steps : List DeploymentStep) :
    let d := afterAll steps (.new tmp)
    ((Session.events step steps (.new tmp)).filter Event.isValidation).length =
      d.configured.countP fun k => (d.slot k).policy.state = .validated := by
  induction steps using List.reverseRecOn with
  | nil => rfl
  | append_singleton steps x ih =>
    have hstate : afterAll (steps ++ [x]) (.new tmp) =
        ((step x).run (afterAll steps (.new tmp))).state :=
      Session.after_append step steps [x] (.new tmp)
    have hevents : Session.events step (steps ++ [x]) (.new tmp) =
        Session.events step steps (.new tmp) ++ ((step x).run (afterAll steps (.new tmp))).events := by
      rw [Session.events_append, Session.events_cons]
      exact congrArg _ (List.append_nil _)
    simp only [hstate]
    rw [countP_validated_step, ← ih, hevents, List.filter_append, List.length_append,
      (tellsStores_step x (nodup_configured tmp steps)).validations, List.length_map]

end DeploymentDraft

end IdentityStore
