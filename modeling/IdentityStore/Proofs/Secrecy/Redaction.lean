import IdentityStore.Proofs.Policy.Declaration

/-!
# Redaction

Two kinds of data are secrets: the values of the properties for credential handlers, and the secret
that a directory store signs in with. Redaction blanks them and leaves everything else as it is. It
also keeps that a secret is there: the names of the properties, and whether the store has a secret.

* `Policy.redacted`, `Store.redacted`, `Deployment.redacted` and the drafts of these: things without
  their secrets.
* `Declaration.redacted`, `Setting.redacted`, `Command.redacted`: steps without the secrets that
  they are given.
* `Workspace.redacted`: all things in a workspace without their secrets.
* **Redaction commutes** (`Declaration.redacted_amend`, `Setting.redacted_apply`,
  `Workspace.item?_redacted`, …): a change is made before redaction or after it.
-/

namespace IdentityStore

/-! ## Policies -/

/-- The credentials without the values of their properties. -/
def Credentials.redacted (c : Credentials) : Credentials :=
  { c with properties := c.properties.map fun _ _ => .null }

def Terms.redacted (t : Terms) : Terms := { t with credentials := t.credentials.redacted }

def Policy.redacted (p : Policy) : Policy := ⟨p.toTerms.redacted⟩

def PolicyDraft.redacted (d : PolicyDraft) : PolicyDraft := { d with toTerms := d.toTerms.redacted }

/-- The declaration without the values of properties. -/
def Declaration.redacted : Declaration → Declaration
  | setProperty name _ => setProperty name .null
  | readFrom policy => readFrom policy.redacted
  | x => x

theorem Credentials.redacted_setProperty (c : Credentials) (name : String) (value : ConfigValue) :
    (c.setProperty name value).redacted = c.redacted.setProperty name .null := by
  have : (c.properties.insert name value).map (fun _ _ => ConfigValue.null) =
      (c.properties.map fun _ _ => .null).insert name .null := by
    ext n v
    rw [Std.ExtTreeMap.getElem?_map, Std.ExtTreeMap.getElem?_insert,
      Std.ExtTreeMap.getElem?_insert, Std.ExtTreeMap.getElem?_map]
    split <;> rfl
  rw [setProperty, redacted, this]
  rfl

theorem Credentials.redacted_merge (a b : Credentials) :
    (a.merge b).redacted = a.redacted.merge b.redacted := by
  have : (a.properties.override b.properties).map (fun _ _ => ConfigValue.null) =
      ConfigTable.override (a.properties.map fun _ _ => .null)
        (b.properties.map fun _ _ => .null) := by
    ext n v
    rw [Std.ExtTreeMap.getElem?_map, ConfigTable.getElem?_override, ConfigTable.getElem?_override,
      Std.ExtTreeMap.getElem?_map, Std.ExtTreeMap.getElem?_map]
    cases b.properties[n]? <;> rfl
  rw [merge, redacted, this]
  rfl

theorem Terms.redacted_merge (a b : Terms) :
    (a.merge b).redacted = a.redacted.merge b.redacted := by
  rw [merge, redacted, Credentials.redacted_merge]
  rfl

/-- **A declaration is made before redaction or after it.** -/
theorem Declaration.redacted_amend (x : Declaration) (t : Terms) :
    (x.amend t).redacted = x.redacted.amend t.redacted := by
  cases x with
  | setProperty name value =>
    rw [amend, Terms.redacted, Credentials.redacted_setProperty]
    rfl
  | readFrom policy => exact Terms.redacted_merge t policy.toTerms
  | _ => rfl

@[simp] theorem Declaration.fault?_redacted (x : Declaration) : x.redacted.fault? = x.fault? := by
  cases x <;> rfl

@[simp] theorem Declaration.events_redacted (x : Declaration) : x.redacted.events = x.events := by
  cases x <;> rfl

theorem PolicyDraft.resolve_redacted (d : PolicyDraft) :
    d.redacted.resolve = d.resolve.map Policy.redacted := by
  cases h : d.state with
  | opened => rw [resolve_opened h, resolve_opened (d := d.redacted) h]; rfl
  | validated => rw [resolve_validated h, resolve_validated (d := d.redacted) h]; rfl

/-! ## Stores -/

/-- The settings without the secret. Whether there is one stays. -/
def LdapSettings.redacted (s : LdapSettings) : LdapSettings :=
  { s with bindCredential := s.bindCredential.map fun _ => "" }

def Settings.redacted : {k : StoreType} → Settings k → Settings k
  | .file, s => s
  | .jpa, s => s
  | .ldap, s => LdapSettings.redacted s

def StoreSettings.redacted : StoreSettings → StoreSettings
  | ldap s => ldap s.redacted
  | s => s

def Setting.redacted : {k : StoreType} → Setting k → Setting k
  | _, bindCredential _ => bindCredential ""
  | _, setting => setting

def StoreDraft.redacted {k : StoreType} (d : StoreDraft k) : StoreDraft k :=
  ⟨d.policy.redacted, d.settings.redacted⟩

def Store.redacted (s : Store) : Store := ⟨s.settings.redacted, s.policy.redacted⟩

def StoreAnswer.redacted : StoreAnswer → StoreAnswer
  | created s => created s.redacted
  | done => done

/-- **A setting is changed before redaction or after it.** -/
theorem Setting.redacted_apply {k : StoreType} (setting : Setting k) (s : Settings k) :
    (setting.apply s).redacted = setting.redacted.apply s.redacted := by
  cases setting <;> rfl

@[simp] theorem Settings.pack_redacted {k : StoreType} (s : Settings k) :
    s.redacted.pack = s.pack.redacted := by
  cases k <;> rfl

@[simp] theorem StoreSettings.type_redacted (s : StoreSettings) : s.redacted.type = s.type := by
  cases s <;> rfl

theorem StoreDraft.create_redacted {k : StoreType} (d : StoreDraft k) :
    d.redacted.create = d.create.map Store.redacted := by
  have : d.redacted.policy.resolve = d.policy.resolve.map Policy.redacted :=
    d.policy.resolve_redacted
  rw [create, create, this, redacted, Settings.pack_redacted]
  cases d.policy.resolve <;> rfl

/-! ## Deployments -/

def Deployment.redacted (d : Deployment) : Deployment := ⟨d.stores.map Store.redacted⟩

def DeploymentDraft.redacted (d : DeploymentDraft) : DeploymentDraft :=
  { d with file := d.file.redacted, jpa := d.jpa.redacted, ldap := d.ldap.redacted }

theorem Deployment.store?_redacted (d : Deployment) (k : StoreType) :
    d.redacted.store? k = (d.store? k).map Store.redacted := by
  have : ((fun s : Store => s.type == k) ∘ Store.redacted) = fun s => s.type == k := by
    funext s
    simp [Store.type, Store.redacted]
  rw [store?, redacted, List.find?_map, this, store?]

namespace DeploymentDraft

@[simp] theorem slot_redacted (d : DeploymentDraft) (k : StoreType) :
    d.redacted.slot k = (d.slot k).redacted := by
  cases k <;> rfl

theorem redacted_setSlot (d : DeploymentDraft) {k : StoreType} (s : StoreDraft k) :
    (d.setSlot s).redacted = d.redacted.setSlot s.redacted := by
  cases k <;> rfl

end DeploymentDraft

/-! ## Workspaces -/

/-- The thing without its secrets. A context has none. -/
def Item.redacted : Item → Item
  | policyDraft d => policyDraft d.redacted
  | storeDraft k d => storeDraft k d.redacted
  | deploymentDraft d => deploymentDraft d.redacted
  | policy p => policy p.redacted
  | store s => store s.redacted
  | deployment d => deployment d.redacted
  | context c => context c

def Workspace.redacted (w : Workspace) : Workspace :=
  ⟨w.items.map fun p => (p.1, p.2.redacted)⟩

def Command.redacted : Command → Command
  | put name item => put name item.redacted
  | declare place declaration => declare place declaration.redacted
  | set place k setting => set place k setting.redacted
  | c => c

def Reply.redacted : Reply → Reply
  | policy p => policy p.redacted
  | store s => store s.redacted
  | deployment d => deployment d.redacted
  | r => r

theorem Item.policy?_redacted (i : Item) : i.redacted.policy? = i.policy?.map Policy.redacted := by
  cases i <;> rfl

theorem Reply.item?_redacted (r : Reply) : r.redacted.item? = r.item?.map Item.redacted := by
  cases r <;> rfl

@[simp] theorem Command.target?_redacted (c : Command) : c.redacted.target? = c.target? := by
  cases c <;> rfl

namespace Workspace

theorem item?_redacted (w : Workspace) (name : String) :
    w.redacted.item? name = (w.item? name).map Item.redacted :=
  Keyed.get?_map _ _ _

theorem redacted_put (w : Workspace) (name : String) (item : Item) :
    (w.put name item).redacted = w.redacted.put name item.redacted :=
  congrArg mk (Keyed.put_map _ _ _ _).symm

theorem policy?_redacted (w : Workspace) (name : String) :
    w.redacted.policy? name = (w.policy? name).map Policy.redacted := by
  rw [policy?, policy?, item?_redacted]
  cases w.item? name with
  | none => rfl
  | some i => exact i.policy?_redacted

theorem redacted_keep (w : Workspace) (target : String) (r : Reply) :
    (keep target r w).redacted = keep target r.redacted w.redacted := by
  rw [keep, keep, r.item?_redacted]
  cases r.item? with
  | none => rfl
  | some item => exact w.redacted_put target item

end Workspace

end IdentityStore
