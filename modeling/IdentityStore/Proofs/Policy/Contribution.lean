import IdentityStore.Proofs.Policy.History
import IdentityStore.Proofs.Policy.Merge

/-!
# What declarations contribute

Besides the two ledgers a policy has parts to which declarations contribute by rules of their own.
Handlers and initializers are appended; of the properties under one name the last one written
counts, and so does the last decision about credentials; classes of relationships are united. A
policy that is read contributes all that it has.

* **Contributions** of one declaration: `Declaration.handlers`, `Declaration.initializers`,
  `Declaration.properties`, `Declaration.enabled?`, and the types that it classifies
  (`Declaration.MakesGlobal`, `Declaration.MakesSelfScoped`).
* **One declaration** (`handlers_amend`, …) amends each part by its contribution.
* **A history** is summed up by one lemma for each way to contribute: `amendAll_of_append`,
  `amendAll_of_overwrite` (with `Declaration.last?`), and `amendAll_iff` for classes.
-/

namespace IdentityStore

namespace Declaration

/-- The credential handlers that a declaration adds, in order. -/
def handlers : Declaration → List CredentialHandlerRef
  | addHandler handler => [handler]
  | readFrom policy => policy.credentials.handlers
  | _ => []

/-- The context initializers that a declaration adds, in order. -/
def initializers : Declaration → List ContextInitializer
  | addInitializer initializer => [initializer]
  | readFrom policy => policy.initializers
  | _ => []

/-- The properties that a declaration writes. -/
def properties : Declaration → ConfigTable
  | setProperty name value => Std.ExtTreeMap.insert ∅ name value
  | readFrom policy => policy.credentials.properties
  | _ => ∅

/-- What a declaration decides about the support of credentials, if it does. -/
def enabled? : Declaration → Option Bool
  | supportCredentials enabled => some enabled
  | supportAllFeatures => some true
  | readFrom policy => some policy.supportsCredentials
  | _ => none

/-- The declaration makes a relationship type global: it lists the type, or the policy that it reads
has it. -/
def MakesGlobal : Declaration → RelationshipType → Prop
  | supportGlobal types, r => r ∈ types
  | readFrom policy, r => r ∈ policy.relationships.global
  | _, _ => False

/-- The declaration makes a relationship type self-scoped. -/
def MakesSelfScoped : Declaration → RelationshipType → Prop
  | supportSelf types, r => r ∈ types
  | readFrom policy, r => r ∈ policy.relationships.selfScoped
  | _, _ => False

/-- What the last declaration of a history that contributes something contributes. -/
def last? {α : Type} (part : Declaration → Option α) (history : List Declaration) : Option α :=
  history.reverse.findSome? part

theorem last?_cons {α : Type} (part : Declaration → Option α) (x : Declaration)
    (rest : List Declaration) : last? part (x :: rest) = (last? part rest).or (part x) := by
  rw [last?, List.reverse_cons, List.findSome?_append, List.findSome?_singleton]
  rfl

end Declaration

namespace Terms

variable {t : Terms} {x : Declaration} {history : List Declaration} {r : RelationshipType}

/-! ## One declaration -/

theorem handlers_amend : (x.amend t).credentials.handlers = t.credentials.handlers ++ x.handlers := by
  cases x with
  | addHandler handler => rfl
  | readFrom policy => rfl
  | _ => exact (List.append_nil _).symm

theorem initializers_amend : (x.amend t).initializers = t.initializers ++ x.initializers := by
  cases x with
  | addInitializer initializer => rfl
  | readFrom policy => rfl
  | _ => exact (List.append_nil _).symm

theorem properties_amend :
    (x.amend t).credentials.properties = t.credentials.properties.override x.properties := by
  cases x with
  | setProperty name value => exact ConfigTable.insert_eq_override _ name value
  | readFrom policy => rfl
  | _ => exact (ConfigTable.override_empty _).symm

theorem enabled_amend : (x.amend t).credentials.enabled = x.enabled?.getD t.credentials.enabled := by
  cases x <;> rfl

theorem mem_global_amend :
    r ∈ (x.amend t).relationships.global ↔ r ∈ t.relationships.global ∨ x.MakesGlobal r := by
  cases x with
  | supportGlobal types => exact Relationships.mem_global_addGlobal
  | readFrom policy => exact Relationships.mem_global_merge
  | _ => exact (or_iff_left id).symm

theorem mem_selfScoped_amend : r ∈ (x.amend t).relationships.selfScoped ↔
    r ∈ t.relationships.selfScoped ∨ x.MakesSelfScoped r := by
  cases x with
  | supportSelf types => exact Relationships.mem_selfScoped_addSelf
  | readFrom policy => exact Relationships.mem_selfScoped_merge
  | _ => exact (or_iff_left id).symm

/-! ## A history -/

/-- **A part that declarations append to** is after a history what it was, followed by what the
declarations contribute in order. -/
theorem amendAll_of_append {α : Type} (part : Terms → List α) (added : Declaration → List α)
    (h : ∀ t x, part (x.amend t) = part t ++ added x) :
    part (t.amendAll history) = part t ++ history.flatMap added := by
  induction history generalizing t with
  | nil => exact (List.append_nil _).symm
  | cons x rest ih =>
    rw [amendAll_cons, ih, h, List.flatMap_cons, List.append_assoc]

/-- **A part that declarations overwrite** is after a history what the last declaration that writes
it contributes. -/
theorem amendAll_of_overwrite {α : Type} (part : Terms → Option α) (written : Declaration → Option α)
    (h : ∀ t x, part (x.amend t) = (written x).or (part t)) :
    part (t.amendAll history) = (Declaration.last? written history).or (part t) := by
  induction history generalizing t with
  | nil => rfl
  | cons x rest ih =>
    rw [amendAll_cons, ih, h, Declaration.last?_cons, Option.or_assoc]

theorem handlers_amendAll : (t.amendAll history).credentials.handlers =
    t.credentials.handlers ++ history.flatMap Declaration.handlers :=
  amendAll_of_append (fun t => t.credentials.handlers) _ fun _ _ => handlers_amend

theorem initializers_amendAll : (t.amendAll history).initializers =
    t.initializers ++ history.flatMap Declaration.initializers :=
  amendAll_of_append (fun t => t.initializers) _ fun _ _ => initializers_amend

theorem property?_amendAll (name : String) : (t.amendAll history).credentials.property? name =
    (Declaration.last? (fun x => x.properties[name]?) history).or (t.credentials.property? name) := by
  refine amendAll_of_overwrite (fun t => t.credentials.property? name) _ fun t x => ?_
  rw [Credentials.property?, properties_amend, ConfigTable.getElem?_override]
  rfl

theorem enabled_amendAll : (t.amendAll history).credentials.enabled =
    (Declaration.last? Declaration.enabled? history).getD t.credentials.enabled := by
  have hlast : some (t.amendAll history).credentials.enabled =
      (Declaration.last? Declaration.enabled? history).or (some t.credentials.enabled) := by
    refine amendAll_of_overwrite (fun t => some t.credentials.enabled) _ fun t x => ?_
    rw [enabled_amend]
    cases x.enabled? <;> rfl
  rw [← Option.some_inj, hlast]
  cases Declaration.last? Declaration.enabled? history <;> rfl

theorem mem_global_amendAll : r ∈ (t.amendAll history).relationships.global ↔
    r ∈ t.relationships.global ∨ ∃ x ∈ history, x.MakesGlobal r :=
  amendAll_iff (P := fun t => r ∈ t.relationships.global) fun _ _ => mem_global_amend

theorem mem_selfScoped_amendAll : r ∈ (t.amendAll history).relationships.selfScoped ↔
    r ∈ t.relationships.selfScoped ∨ ∃ x ∈ history, x.MakesSelfScoped r :=
  amendAll_iff (P := fun t => r ∈ t.relationships.selfScoped) fun _ _ => mem_selfScoped_amend

end Terms

end IdentityStore
