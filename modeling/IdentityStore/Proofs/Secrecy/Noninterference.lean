import IdentityStore.Proofs.Secrecy.Steps
import IdentityStore.Settings.Outline

/-!
# Secrets do not show

A view is what can be seen of a thing by everyone: of a policy what it permits, of settings the
texts that they are shown as, of a step the records that it leaves behind, whether it succeeded, the
error if it did not, and the views of everything that is in the workspace then.

* `Policy.view`, `Store.view`, `Deployment.view`, `Item.view`, `Reply.view`, `Workspace.viewStep`:
  the views.
* `StoreSettings.texts_redacted`, `Deployment.view_redacted`, …: a view is the one of the redacted
  thing.
* `Workspace.secrets_do_not_show`: two sessions that differ in their secrets alone look the same,
  step by step.
-/

namespace IdentityStore

/-! ## Settings -/

/-- The outline of settings without the name of their type. -/
def StoreSettings.bareOutline : StoreSettings → Text.Outline
  | file s => s.outline
  | jpa s => s.outline
  | ldap s => s.outline

/-- The texts that settings are shown as: on one line and on several, with the name of their type
and without it. -/
def StoreSettings.texts (s : StoreSettings) : List String :=
  [s.outline.compact, s.outline.expanded, s.bareOutline.compact, s.bareOutline.expanded]

/-- **The secret of a directory store** is not shown, only whether there is one. -/
theorem LdapSettings.outline_redacted (s : LdapSettings) : s.redacted.outline = s.outline := by
  rw [outline, redacted, outline, Option.map_map]
  rfl

theorem StoreSettings.texts_redacted (s : StoreSettings) : s.redacted.texts = s.texts := by
  cases s with
  | ldap s =>
    have : s.redacted.outline = s.outline := s.outline_redacted
    simp only [redacted, texts, outline, bareOutline, this]
  | _ => rfl

/-! ## Policies, stores and deployments -/

structure PolicyView where
  supports : ManagedType → Operation → Bool
  supportsType : ManagedType → Bool

structure StoreView where
  type : StoreType
  policy : PolicyView
  texts : List String

structure DeploymentView where
  stores : List StoreView
  storeFor? : ManagedType → Operation → Option StoreView

def Policy.view (p : Policy) : PolicyView := ⟨p.supports, p.supportsType⟩

def Store.view (s : Store) : StoreView := ⟨s.type, s.policy.view, s.settings.texts⟩

def Deployment.view (d : Deployment) : DeploymentView :=
  ⟨d.stores.map Store.view, fun t o => (d.storeFor? t o).map Store.view⟩

/-- **Permission** does not depend on the values of properties. -/
theorem Policy.view_redacted (p : Policy) : p.redacted.view = p.view := rfl

theorem Store.view_redacted (s : Store) : s.redacted.view = s.view := by
  simp only [view, type, redacted, StoreSettings.type_redacted, Policy.view_redacted,
    StoreSettings.texts_redacted]

/-- **The store that an operation is sent to** does not depend on secrets. -/
theorem Deployment.storeFor?_redacted (d : Deployment) (t : ManagedType) (o : Operation) :
    d.redacted.storeFor? t o = (d.storeFor? t o).map Store.redacted := by
  rw [storeFor?, redacted, List.find?_map]
  rfl

theorem Deployment.view_redacted (d : Deployment) : d.redacted.view = d.view := by
  have hview : Store.view ∘ Store.redacted = Store.view := funext Store.view_redacted
  have hstores : d.redacted.stores = d.stores.map Store.redacted := rfl
  simp only [view, storeFor?_redacted, hstores, List.map_map, Option.map_map, hview]

/-! ## Workspaces -/

inductive ItemView where
  | policyDraft (state : DraftState)
  /-- A store in the making: whether it was validated, and the texts of its settings. -/
  | storeDraft (k : StoreType) (state : DraftState) (texts : List String)
  /-- A deployment in the making: the visited stores, and of each store what can be seen of it. -/
  | deploymentDraft (configured : List StoreType) (state : StoreType → DraftState)
      (texts : StoreType → List String)
  | policy (view : PolicyView)
  | store (view : StoreView)
  | deployment (view : DeploymentView)
  | context (context : IdentityContext)

inductive ReplyView where
  | done
  | brought (view : ItemView)
  | previous (value : Option ConfigValue)
  | nothing
  | unfit

structure StepView where
  /-- The records of what was told, each with its level and its text. -/
  records : List (Level × String)
  answer : Except Error ReplyView
  item? : String → Option ItemView

def Item.view : Item → ItemView
  | policyDraft d => .policyDraft d.state
  | storeDraft k d => .storeDraft k d.policy.state d.settings.pack.texts
  | deploymentDraft d =>
    .deploymentDraft d.configured (fun k => (d.slot k).policy.state)
      (fun k => (d.slot k).settings.pack.texts)
  | policy p => .policy p.view
  | store s => .store s.view
  | deployment d => .deployment d.view
  | context c => .context c

def Reply.view : Reply → ReplyView
  | done => .done
  | policy p => .brought (.policy p.view)
  | store s => .brought (.store s.view)
  | deployment d => .brought (.deployment d.view)
  | previous value => .previous value
  | nothing => .nothing
  | unfit => .unfit

def Workspace.viewStep (o : Outcome Workspace Reply) : StepView where
  records := o.events.map fun e => (e.level, e.message)
  answer := o.answer.map Reply.view
  item? name := (o.state.item? name).map Item.view

theorem StoreDraft.texts_redacted {k : StoreType} (d : StoreDraft k) :
    d.redacted.settings.pack.texts = d.settings.pack.texts := by
  rw [redacted, Settings.pack_redacted, StoreSettings.texts_redacted]

theorem Item.view_redacted (i : Item) : i.redacted.view = i.view := by
  cases i with
  | policyDraft d => rfl
  | storeDraft k d => simp only [redacted, view, d.texts_redacted]; rfl
  | deploymentDraft d =>
    simp only [redacted, view, DeploymentDraft.slot_redacted, StoreDraft.texts_redacted]
    rfl
  | policy p => rfl
  | store s => exact congrArg ItemView.store s.view_redacted
  | deployment d => exact congrArg ItemView.deployment d.view_redacted
  | context c => rfl

theorem Reply.view_redacted (r : Reply) : r.redacted.view = r.view := by
  cases r with
  | store s => exact congrArg (fun v => ReplyView.brought (.store v)) s.view_redacted
  | deployment d => exact congrArg (fun v => ReplyView.brought (.deployment v)) d.view_redacted
  | _ => rfl

namespace Workspace

theorem viewStep_redacted (o : Outcome Workspace Reply) :
    viewStep (o.map redacted Reply.redacted) = viewStep o := by
  have hitem : Item.view ∘ Item.redacted = Item.view := funext Item.view_redacted
  have hanswer : (o.answer.map Reply.redacted).map Reply.view = o.answer.map Reply.view := by
    cases o.answer with
    | error e => rfl
    | ok r => exact congrArg Except.ok r.view_redacted
  simp only [viewStep, Outcome.map, hanswer, item?_redacted, Option.map_map, hitem]

/-! ## The law -/

theorem viewStep_outcomes_redacted (commands : List Command) (w : Workspace) :
    (Session.outcomes execute (commands.map Command.redacted) w.redacted).map viewStep =
      (Session.outcomes execute commands w).map viewStep := by
  have : viewStep ∘ Outcome.map redacted Reply.redacted = viewStep := funext viewStep_redacted
  rw [Session.outcomes_of_follows follows_execute, List.map_map, this]

/-- **Secrets do not show.** Take two sessions with the same commands, except for the values of the
properties for credential handlers and for the secrets of directory stores, and start them in
workspaces that are the same in this sense. Then they look the same step by step: they leave the
same records, succeed or fail with the same error, permit and route the same operations, and show
the same texts. -/
theorem secrets_do_not_show {commands commands' : List Command} {w w' : Workspace}
    (hcommands : commands.map Command.redacted = commands'.map Command.redacted)
    (hw : w.redacted = w'.redacted) :
    (Session.outcomes execute commands w).map viewStep =
      (Session.outcomes execute commands' w').map viewStep := by
  rw [← viewStep_outcomes_redacted commands w, hcommands, hw, viewStep_outcomes_redacted]

/-- A deployment with a directory store is drafted with a property and a secret and is built, its
store is selected and read into the draft of another store. -/
theorem directory_secret_unseen :
    let commands (secret : String) : List Command := [
      .put "deployment" (.deploymentDraft .new),
      .put "files" (.storeDraft .file (.new .file)),
      .declare ⟨"deployment", some .ldap⟩ .supportAllFeatures,
      .declare ⟨"deployment", some .ldap⟩ (.setProperty "pepper" (.string secret)),
      .set ⟨"deployment", some .ldap⟩ .ldap (.url "ldap://a"),
      .set ⟨"deployment", some .ldap⟩ .ldap (.bindCredential secret),
      .build "deployment" (some "built"),
      .declare ⟨"deployment", some .ldap⟩ (.setProperty "pepper" .null),
      .select "built" .ldap (some "directory"),
      .readFrom ⟨"files", none⟩ "directory",
      .validate ⟨"files", none⟩]
    (Session.outcomes execute (commands "swordfish") empty).map viewStep =
      (Session.outcomes execute (commands "") empty).map viewStep :=
  secrets_do_not_show rfl rfl

end Workspace

end IdentityStore
