import IdentityStore.Proofs.Follows
import IdentityStore.Proofs.Secrecy.Redaction

/-!
# Steps without secrets

Every step that is taken without secrets, on a state without secrets, follows the step that is taken
with them. So no step looks at a secret: what it succeeds with, what it fails with, what it tells
and what it leaves is the same, except for the secrets that it moves along.

* **Policies** (`PolicyDraft.follows_declare`, `PolicyDraft.follows_validate`).
* **Stores** (`StoreDraft.follows_set`, `StoreDraft.follows_validate`, `StoreDraft.follows_create`).
* **Deployments** (`DeploymentDraft.follows_through`, `DeploymentDraft.follows_validate`,
  `DeploymentDraft.follows_build`).
* **Workspaces** (`Workspace.follows_perform`, `Workspace.follows_execute`): every command.
-/

namespace IdentityStore

open IdentityStore.Action (Follows)

/-! ## Policies -/

namespace PolicyDraft

/-- **A declaration** is refused for the same reasons and tells the same, whatever its secret. -/
theorem follows_declare (x : Declaration) :
    Follows redacted id (declare x.redacted) (declare x) := by
  intro d
  cases hd : d.state with
  | validated =>
    rw [run_declare_validated x hd, run_declare_validated (d := d.redacted) _ hd]
    rfl
  | opened =>
    cases hx : x.fault? with
    | some fault =>
      rw [run_declare_fault hd hx,
        run_declare_fault (d := d.redacted) hd (x.fault?_redacted.trans hx)]
      rfl
    | none =>
      rw [run_declare_opened hd hx,
        run_declare_opened (d := d.redacted) hd (x.fault?_redacted.trans hx)]
      simp only [Outcome.map, redacted, x.redacted_amend, x.events_redacted]
      rfl

theorem follows_validate : Follows redacted id validate validate :=
  Follows.state.bind fun _ => .ite (.fail _)
    (.ite ((Follows.tell _).bind fun _ => .modify fun _ => rfl) (.pure rfl))

end PolicyDraft

/-! ## Stores -/

namespace StoreDraft

variable {k : StoreType}

theorem follows_onPolicy {α β : Type} {g : α → β} {a : Action PolicyDraft α}
    {b : Action PolicyDraft β} (h : Follows PolicyDraft.redacted g b a) :
    Follows (redacted (k := k)) g (onPolicy b) (onPolicy a) :=
  .focus (fun _ => rfl) (fun _ _ => rfl) h

theorem follows_set (setting : Setting k) :
    Follows redacted id (set setting.redacted) (set setting) :=
  .modify fun d => congrArg (mk d.policy.redacted) (setting.redacted_apply d.settings).symm

theorem follows_validate : Follows (redacted (k := k)) id validate validate :=
  follows_onPolicy PolicyDraft.follows_validate

/-- **A store** is created from the same drafts. -/
theorem follows_create :
    Follows (redacted (k := k)) StoreAnswer.redacted (step .create) (step .create) := by
  refine Follows.state.bind fun d => ?_
  rw [d.create_redacted]
  cases d.create with
  | error e => exact .fail e
  | ok store => exact .pure rfl

end StoreDraft

/-! ## Deployments -/

namespace DeploymentDraft

theorem follows_onSlot {k : StoreType} {α β : Type} {g : α → β} {a : Action (StoreDraft k) α}
    {b : Action (StoreDraft k) β} (h : Follows StoreDraft.redacted g b a) :
    Follows redacted g (onSlot k b) (onSlot k a) :=
  .focus (fun d => d.slot_redacted k) (fun d s => (d.redacted_setSlot s).symm) h

theorem follows_visit (k : StoreType) : Follows redacted id (visit k) (visit k) :=
  Follows.state.bind fun _ => .ite
    ((Follows.tell _).bind fun _ => .modify fun _ => rfl) (.pure rfl)

theorem follows_visitAll (chain : List StoreType) :
    Follows redacted id (visitAll chain) (visitAll chain) :=
  .forM follows_visit

theorem follows_through {k : StoreType} {α β : Type} {g : α → β} {a : Action (StoreDraft k) α}
    {b : Action (StoreDraft k) β} (h : Follows StoreDraft.redacted g b a) :
    Follows redacted g (through k b) (through k a) :=
  (follows_visit k).bind fun _ => follows_onSlot h

theorem follows_validate : Follows redacted id validate validate :=
  Follows.state.bind fun _ => .ite (.fail _)
    (.forM fun _ => follows_onSlot StoreDraft.follows_validate)

theorem follows_createStore (k : StoreType) :
    Follows redacted Store.redacted (createStore k) (createStore k) := by
  refine Follows.state.bind fun d => ?_
  rw [d.slot_redacted, StoreDraft.create_redacted]
  cases (d.slot k).create with
  | error e => exact .fail e
  | ok store => exact .pure rfl

/-- **A deployment** is built from the same drafts. -/
theorem follows_build : Follows redacted Deployment.redacted build build := by
  refine follows_validate.bind fun _ => Follows.state.bind fun d =>
    (Follows.mapM follows_createStore).bind fun stores => ?_
  rw [List.length_map]
  exact (Follows.tell _).bind fun _ => .pure rfl

end DeploymentDraft

/-! ## Workspaces -/

namespace Workspace

/-- An action on items follows another one. -/
def ItemAction.Follows (act' act : ItemAction) : Prop :=
  ∀ i, act' i.redacted = (act i).map (Outcome.map Item.redacted Reply.redacted)

theorem within_redacted {σ : Type} {f : σ → σ} (wrap : σ → Item) {a b : Action σ Reply}
    (h : Follows f Reply.redacted b a) (hwrap : ∀ s, wrap (f s) = (wrap s).redacted) (s : σ) :
    some (within wrap b (f s)) =
      (some (within wrap a s)).map (Outcome.map Item.redacted Reply.redacted) := by
  rw [within, h s]
  simp only [Option.map_some, Outcome.map, hwrap, within]

theorem follows_onPolicyDraft (slot : Option StoreType) {a b : Action PolicyDraft Reply}
    (h : Follows PolicyDraft.redacted Reply.redacted b a) :
    ItemAction.Follows (onPolicyDraft slot b) (onPolicyDraft slot a) := by
  intro i
  cases i with
  | policyDraft d =>
    cases slot with
    | none => exact within_redacted .policyDraft h (fun _ => rfl) d
    | some k => rfl
  | storeDraft k d =>
    cases slot with
    | none =>
      exact within_redacted (.storeDraft k) (StoreDraft.follows_onPolicy h) (fun _ => rfl) d
    | some k => rfl
  | deploymentDraft d =>
    cases slot with
    | none => rfl
    | some k =>
      exact within_redacted .deploymentDraft
        (DeploymentDraft.follows_through (StoreDraft.follows_onPolicy h)) (fun _ => rfl) d
  | _ => rfl

theorem follows_onStoreDraft (slot : Option StoreType)
    {a b : (k : StoreType) → Action (StoreDraft k) Reply}
    (h : ∀ k, Follows StoreDraft.redacted Reply.redacted (b k) (a k)) :
    ItemAction.Follows (onStoreDraft slot b) (onStoreDraft slot a) := by
  intro i
  cases i with
  | storeDraft k d =>
    cases slot with
    | none => exact within_redacted (.storeDraft k) (h k) (fun _ => rfl) d
    | some k => rfl
  | deploymentDraft d =>
    cases slot with
    | none => rfl
    | some k =>
      exact within_redacted .deploymentDraft (DeploymentDraft.follows_through (h k))
        (fun _ => rfl) d
  | _ => rfl

theorem follows_onDeploymentDraft {a b : Action DeploymentDraft Reply}
    (h : Follows DeploymentDraft.redacted Reply.redacted b a) :
    ItemAction.Follows (onDeploymentDraft b) (onDeploymentDraft a) := by
  intro i
  cases i with
  | deploymentDraft d => exact within_redacted .deploymentDraft h (fun _ => rfl) d
  | _ => rfl

theorem follows_onContext {a : Action IdentityContext Reply}
    (h : Follows id Reply.redacted a a) : ItemAction.Follows (onContext a) (onContext a) := by
  intro i
  cases i with
  | context c => exact within_redacted .context h (fun _ => rfl) c
  | _ => rfl

theorem follows_actOn (name : String) {act act' : ItemAction} (h : ItemAction.Follows act' act) :
    Follows redacted Reply.redacted (actOn name act') (actOn name act) := by
  intro w
  have found : (w.redacted.item? name).bind act' =
      ((w.item? name).bind act).map (Outcome.map Item.redacted Reply.redacted) := by
    rw [item?_redacted]
    cases w.item? name with
    | none => rfl
    | some i => exact h i
  rw [Action.run, actOn, found, Action.run, actOn]
  cases (w.item? name).bind act with
  | none => rfl
  | some o => simp only [Option.map_some, Outcome.map, redacted_put]

theorem follows_done {σ : Type} {f : σ → σ} {a b : Action σ Unit} (h : Follows f id b a) :
    Follows f Reply.redacted (do b; return .done) (do a; return .done) :=
  h.bind fun _ => .pure rfl

theorem settingFor?_redacted {k : StoreType} (setting : Setting k) (j : StoreType) :
    settingFor? setting.redacted j = (settingFor? setting j).map Setting.redacted := by
  by_cases h : k = j
  · subst h
    simp [settingFor?]
  · simp [settingFor?, h]

theorem follows_setSetting {k : StoreType} (setting : Setting k) (j : StoreType) :
    Follows StoreDraft.redacted Reply.redacted (setSetting setting.redacted j)
      (setSetting setting j) := by
  rw [setSetting, setSetting, settingFor?_redacted]
  cases settingFor? setting j with
  | none => exact .pure rfl
  | some s => exact follows_done (StoreDraft.follows_set s)

theorem follows_createStore (k : StoreType) :
    Follows StoreDraft.redacted Reply.redacted (createStore k) (createStore k) := by
  refine StoreDraft.follows_create.bind fun answer => ?_
  cases answer <;> exact .pure rfl

theorem follows_resolvePolicy :
    Follows PolicyDraft.redacted Reply.redacted resolvePolicy resolvePolicy := by
  refine Follows.state.bind fun d => ?_
  rw [d.resolve_redacted]
  cases d.resolve with
  | error e => exact .fail e
  | ok policy => exact .pure rfl

theorem follows_validateAt (slot : Option StoreType) :
    ItemAction.Follows (validateAt slot) (validateAt slot) := by
  intro i
  have other := follows_onPolicyDraft slot (follows_done PolicyDraft.follows_validate) i
  cases i with
  | deploymentDraft d =>
    cases slot with
    | none =>
      exact within_redacted .deploymentDraft (follows_done DeploymentDraft.follows_validate)
        (fun _ => rfl) d
    | some k =>
      exact within_redacted .deploymentDraft
        (follows_done (DeploymentDraft.follows_through StoreDraft.follows_validate))
        (fun _ => rfl) d
  | _ => exact other

/-- **The work of every command** is the same without secrets. -/
theorem follows_perform (c : Command) :
    Follows redacted Reply.redacted (perform c.redacted) (perform c) := by
  cases c with
  | put name item =>
    exact follows_done (.modify fun w => (w.redacted_put name item).symm)
  | copy source target =>
    refine Follows.state.bind fun w => ?_
    rw [w.item?_redacted]
    cases w.item? source with
    | none => exact .pure rfl
    | some item =>
      exact follows_done (.modify fun w => (w.redacted_put target item).symm)
  | visit name chain =>
    exact follows_actOn _ (follows_onDeploymentDraft (follows_done
      (DeploymentDraft.follows_visitAll chain)))
  | declare place declaration =>
    exact follows_actOn _ (follows_onPolicyDraft _ (follows_done
      (PolicyDraft.follows_declare declaration)))
  | readFrom place source =>
    refine Follows.state.bind fun w => ?_
    rw [w.policy?_redacted]
    cases w.policy? source with
    | none => exact .pure rfl
    | some policy =>
      exact follows_actOn _ (follows_onPolicyDraft _ (follows_done
        (PolicyDraft.follows_declare (.readFrom policy))))
  | set place k setting =>
    exact follows_actOn _ (follows_onStoreDraft _ (follows_setSetting setting))
  | validate place => exact follows_actOn _ (follows_validateAt place.slot)
  | resolve name target => exact follows_actOn _ (follows_onPolicyDraft _ follows_resolvePolicy)
  | create place target => exact follows_actOn _ (follows_onStoreDraft _ follows_createStore)
  | build name target =>
    exact follows_actOn _ (follows_onDeploymentDraft
      (DeploymentDraft.follows_build.bind fun _ => .pure rfl))
  | select name k target =>
    refine Follows.state.bind fun w => ?_
    rw [w.item?_redacted]
    cases w.item? name with
    | none => exact .pure rfl
    | some item =>
      cases item with
      | deployment d =>
        refine .pure ?_
        rw [d.store?_redacted]
        cases d.store? k <;> rfl
      | _ => exact .pure rfl
  | setAttribute name key value =>
    exact follows_actOn _ (follows_onContext fun _ => rfl)
  | prepare source context =>
    refine Follows.state.bind fun w => ?_
    rw [w.policy?_redacted]
    cases w.policy? source with
    | none => exact .pure rfl
    | some policy =>
      exact follows_actOn _ (follows_onContext (follows_done
        (.refl policy.initializeContext)))

/-- **Every command** is carried out in the same way without secrets. -/
theorem follows_execute (c : Command) :
    Follows redacted Reply.redacted (execute c.redacted) (execute c) := by
  refine (follows_perform c).bind fun reply => ?_
  rw [c.target?_redacted]
  cases c.target? with
  | none => exact .pure rfl
  | some target =>
    exact (Follows.modify fun w => (w.redacted_keep target reply).symm).bind fun _ => .pure rfl

end Workspace

end IdentityStore
