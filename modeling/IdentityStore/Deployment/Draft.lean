import IdentityStore.Deployment.Basic
import IdentityStore.Store.Draft

/-!
# Deployment drafts

A deployment is drafted as one store of each type. Only the stores that are visited belong to it,
in the order of their first visits.

* `DeploymentDraft.through`: visits the store of a type and acts on its draft.
* `DeploymentDraft.validate`, `DeploymentDraft.build`: close the visited stores and create them.
-/

namespace IdentityStore

open Text (Path)

structure DeploymentDraft where
  file : StoreDraft .file
  jpa : StoreDraft .jpa
  ldap : StoreDraft .ldap
  /-- The types of the visited stores, in the order of their first visits. -/
  configured : List StoreType

namespace DeploymentDraft

def new (tmp : Path := .temporary) : DeploymentDraft where
  file := .new .file tmp
  jpa := .new .jpa tmp
  ldap := .new .ldap tmp
  configured := []

/-! ## Slots -/

def slot (d : DeploymentDraft) : (k : StoreType) → StoreDraft k
  | .file => d.file
  | .jpa => d.jpa
  | .ldap => d.ldap

def setSlot (d : DeploymentDraft) : {k : StoreType} → StoreDraft k → DeploymentDraft
  | .file, s => { d with file := s }
  | .jpa, s => { d with jpa := s }
  | .ldap, s => { d with ldap := s }

@[simp] theorem slot_new (tmp : Path) (k : StoreType) :
    (new tmp).slot k = .new k tmp := by
  cases k <;> rfl

@[simp] theorem slot_setSlot (d : DeploymentDraft) {k : StoreType} (s : StoreDraft k) :
    (d.setSlot s).slot k = s := by
  cases k <;> rfl

theorem slot_setSlot_of_ne (d : DeploymentDraft) {j k : StoreType} (s : StoreDraft k)
    (h : j ≠ k) : (d.setSlot s).slot j = d.slot j := by
  cases j <;> cases k <;> simp_all [slot, setSlot]

@[simp] theorem configured_setSlot (d : DeploymentDraft) {k : StoreType} (s : StoreDraft k) :
    (d.setSlot s).configured = d.configured := by
  cases k <;> rfl

def onSlot (k : StoreType) {α : Type} (a : Action (StoreDraft k) α) : Action DeploymentDraft α :=
  Action.focus (·.slot k) (fun d s => d.setSlot s) a

/-! ## Visits -/

/-- Visits the store of a type. The first visit makes it part of the deployment. -/
def visit (k : StoreType) : Action DeploymentDraft Unit := do
  if k ∉ (← Action.state).configured then
    Action.tell (.configuring k)
    Action.modify fun d => { d with configured := d.configured ++ [k] }

def visitAll (chain : List StoreType) : Action DeploymentDraft Unit := chain.forM visit

def through (k : StoreType) {α : Type} (a : Action (StoreDraft k) α) :
    Action DeploymentDraft α := do
  visit k
  onSlot k a

/-! ## Validation and building -/

/-- Validates the visited stores in their order, up to the first that fails. The stores before it
stay validated. -/
def validate : Action DeploymentDraft Unit := do
  let configured := (← Action.state).configured
  if configured.isEmpty then Action.fail (.configuration .noStoreConfigured)
  else configured.forM fun k => onSlot k StoreDraft.validate

def createStore (k : StoreType) : Action DeploymentDraft Store := do
  match ((← Action.state).slot k).create with
  | .ok store => return store
  | .error e => Action.fail e

def build : Action DeploymentDraft Deployment := do
  validate
  let stores ← (← Action.state).configured.mapM createStore
  Action.tell (.built stores.length)
  return ⟨stores⟩

end DeploymentDraft

/-! ## Steps -/

inductive DeploymentStep where
  | visit (chain : List StoreType)
  /-- Stores are visited one after the other, then the store of a type, and a step is taken on
  the draft of this one. -/
  | through (via : List StoreType) (k : StoreType) (step : StoreStep k)
  | validate
  | build

inductive DeploymentAnswer where
  | done
  | created (store : Store)
  | built (deployment : Deployment)

def DeploymentDraft.step : DeploymentStep → Action DeploymentDraft DeploymentAnswer
  | .visit chain => do visitAll chain; return .done
  | .through via k step => do
    visitAll via
    match ← through k (StoreDraft.step step) with
    | .done => return .done
    | .created store => return .created store
  | .validate => do validate; return .done
  | .build => return .built (← build)

end IdentityStore
