import IdentityStore.Deployment.Draft

/-!
# Workspaces

A workspace holds drafts, and what was made of them, under names. Commands say by name what they
work on, so that a list of commands is a complete account of how policies, stores and deployments
come about.

* `Workspace.perform`: does the work of a command.
* `Workspace.execute`: carries a command out, which also keeps what the work brought.
-/

namespace IdentityStore

inductive Item where
  | policyDraft (draft : PolicyDraft)
  | storeDraft (k : StoreType) (draft : StoreDraft k)
  | deploymentDraft (draft : DeploymentDraft)
  | policy (policy : Policy)
  | store (store : Store)
  | deployment (deployment : Deployment)
  | context (context : IdentityContext)

def Item.policy? : Item → Option Policy
  | policy p => some p
  | store s => some s.policy
  | _ => none

structure Workspace where
  items : List (String × Item) := []

/-- The place of a draft: its name, and the type of store when it is a part of the draft of a
deployment. Such a part is visited whenever something is done with it. -/
structure Place where
  name : String
  slot : Option StoreType := none

inductive Command where
  | put (name : String) (item : Item)
  | copy (source target : String)
  | visit (name : String) (chain : List StoreType)
  | declare (place : Place) (declaration : Declaration)
  | readFrom (place : Place) (source : String)
  | set (place : Place) (k : StoreType) (setting : Setting k)
  | validate (place : Place)
  | resolve (name target : String)
  | create (place : Place) (target : String)
  | build (name : String) (target : Option String)
  | select (name : String) (k : StoreType) (target : Option String)
  | setAttribute (name key : String) (value : ConfigValue)
  | prepare (source context : String)

def Command.subject : Command → String
  | put name _ | visit name _ | resolve name _ | build name _ | select name _ _ => name
  | copy source _ => source
  | declare place _ | readFrom place _ | set place _ _ | validate place | create place _ =>
    place.name
  | setAttribute name _ _ => name
  | prepare _ context => context

def Command.target? : Command → Option String
  | resolve _ target | create _ target => some target
  | build _ target | select _ _ target => target
  | _ => none

inductive Reply where
  | done
  | policy (policy : Policy)
  | store (store : Store)
  | deployment (deployment : Deployment)
  | previous (value : Option ConfigValue)
  | nothing
  /-- The command does not fit what is under its names. -/
  | unfit

def Reply.item? : Reply → Option Item
  | policy p => some (.policy p)
  | store s => some (.store s)
  | deployment d => some (.deployment d)
  | _ => none

namespace Workspace

def empty : Workspace := {}

def item? (w : Workspace) (name : String) : Option Item := Keyed.get? w.items name

def put (w : Workspace) (name : String) (item : Item) : Workspace :=
  ⟨Keyed.put w.items name item⟩

def policy? (w : Workspace) (name : String) : Option Policy := (w.item? name).bind Item.policy?

/-! ## Actions on things -/

/-- An action on items of some sort, which leaves an item of that sort. -/
abbrev ItemAction := Item → Option (Outcome Item Reply)

def within {σ : Type} (wrap : σ → Item) (a : Action σ Reply) (s : σ) : Outcome Item Reply :=
  let o := a.run s
  ⟨o.answer, wrap o.state, o.events⟩

/-- Acts on the policy draft at a place: by itself, or inside a store draft. -/
def onPolicyDraft (slot : Option StoreType) (a : Action PolicyDraft Reply) : ItemAction
  | .policyDraft d => if slot.isNone then some (within .policyDraft a d) else none
  | .storeDraft k d =>
    if slot.isNone then some (within (.storeDraft k) (StoreDraft.onPolicy a) d) else none
  | .deploymentDraft d =>
    slot.map fun k =>
      within .deploymentDraft (DeploymentDraft.through k (StoreDraft.onPolicy a)) d
  | _ => none

def onStoreDraft (slot : Option StoreType) (a : (k : StoreType) → Action (StoreDraft k) Reply) :
    ItemAction
  | .storeDraft k d => if slot.isNone then some (within (.storeDraft k) (a k) d) else none
  | .deploymentDraft d =>
    slot.map fun k => within .deploymentDraft (DeploymentDraft.through k (a k)) d
  | _ => none

def onDeploymentDraft (a : Action DeploymentDraft Reply) : ItemAction
  | .deploymentDraft d => some (within .deploymentDraft a d)
  | _ => none

def onContext (a : Action IdentityContext Reply) : ItemAction
  | .context c => some (within .context a c)
  | _ => none

def actOn (name : String) (act : ItemAction) : Action Workspace Reply := fun w =>
  match (w.item? name).bind act with
  | some o => ⟨o.answer, w.put name o.state, o.events⟩
  | none => ⟨.ok .unfit, w, []⟩

/-! ## Commands -/

/-- The setting as one of another type of store, if it is the same type. -/
def settingFor? {k : StoreType} (setting : Setting k) (j : StoreType) : Option (Setting j) :=
  if h : k = j then some (h ▸ setting) else none

def setSetting {k : StoreType} (setting : Setting k) (j : StoreType) :
    Action (StoreDraft j) Reply :=
  match settingFor? setting j with
  | some s => do StoreDraft.set s; return .done
  | none => return .unfit

def createStore (k : StoreType) : Action (StoreDraft k) Reply := do
  match ← StoreDraft.step .create with
  | .created store => return .store store
  | .done => return .done

def resolvePolicy : Action PolicyDraft Reply := do
  match (← Action.state).resolve with
  | .ok policy => return .policy policy
  | .error e => Action.fail e

def validateAt (slot : Option StoreType) : ItemAction
  | .deploymentDraft d =>
    match slot with
    | none => some (within .deploymentDraft (do DeploymentDraft.validate; return .done) d)
    | some k =>
      some (within .deploymentDraft
        (do DeploymentDraft.through k StoreDraft.validate; return .done) d)
  | item => onPolicyDraft slot (do PolicyDraft.validate; return .done) item

/-- The work of a command: all that it does, except that what it brings is not kept yet. -/
def perform : Command → Action Workspace Reply
  | .put name item => do
    Action.modify (·.put name item)
    return .done
  | .copy source target => do
    match (← Action.state).item? source with
    | some item =>
      Action.modify (·.put target item)
      return .done
    | none => return .unfit
  | .visit name chain =>
    actOn name (onDeploymentDraft (do DeploymentDraft.visitAll chain; return .done))
  | .declare place declaration =>
    actOn place.name
      (onPolicyDraft place.slot (do PolicyDraft.declare declaration; return .done))
  | .readFrom place source => do
    match (← Action.state).policy? source with
    | some policy =>
      actOn place.name
        (onPolicyDraft place.slot (do PolicyDraft.declare (.readFrom policy); return .done))
    | none => return .unfit
  | .set place _ setting => actOn place.name (onStoreDraft place.slot (setSetting setting))
  | .validate place => actOn place.name (validateAt place.slot)
  | .resolve name _ => actOn name (onPolicyDraft none resolvePolicy)
  | .create place _ => actOn place.name (onStoreDraft place.slot createStore)
  | .build name _ =>
    actOn name (onDeploymentDraft (return .deployment (← DeploymentDraft.build)))
  | .select name k _ => do
    match (← Action.state).item? name with
    | some (.deployment d) => return ((d.store? k).map Reply.store).getD .nothing
    | _ => return .unfit
  | .setAttribute name key value =>
    actOn name (onContext fun c =>
      let (before, c') := c.setAttribute key value
      ⟨.ok (.previous before), c', []⟩)
  | .prepare source context => do
    match (← Action.state).policy? source with
    | some policy =>
      actOn context (onContext (do policy.initializeContext; return .done))
    | none => return .unfit

def keep (target : String) (reply : Reply) (w : Workspace) : Workspace :=
  match reply.item? with
  | some item => w.put target item
  | none => w

/-- Carries a command out. What its work brings is kept once the work is done, so that it takes
the place of whatever is under its name, be it the draft that it was made from. -/
def execute (c : Command) : Action Workspace Reply := do
  let reply ← perform c
  if let some target := c.target? then Action.modify (keep target reply)
  return reply

/-- The thing that the work of a command leaves under the name that it works on. It is there also
when the command fails, and when what the command brings is then kept under that name. -/
def touched? (c : Command) (w : Workspace) : Option Item :=
  ((perform c).run w).state.item? c.subject

end Workspace

end IdentityStore
