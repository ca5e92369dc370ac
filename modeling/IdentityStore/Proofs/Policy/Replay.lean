import IdentityStore.Proofs.Policy.Accumulation
import IdentityStore.Proofs.Policy.Invariant

/-!
# Reading a policy is replaying its history

A draft that reads a policy ends up as if it had been given all the declarations that the policy was
made of, except that the policy decides whether credentials are supported.

* `Terms.amend_merge`, `amendAll_merge`: declarations may be made before or after other terms are
  merged in front, if these support types with all operations.
* `Terms.setEnabled`: terms in which the support of credentials is decided anew. Merging nothing
  takes it back (`merge_empty`), and what follows does not depend on it (`amendAll_setEnabled`).
* `Terms.merge_amendAll_empty`: merging the terms that a history makes is the history, up to this.
* `PolicyDraft.readFrom_replays`: the same on drafts.
-/

namespace IdentityStore

namespace Terms

variable {t : Terms} {history : List Declaration}

/-! ## Merging in front -/

/-- **A declaration may be made before or after terms are merged in front,** if these support types
with all operations. -/
theorem amend_merge (ht : t.supported.Full) (u : Terms) (x : Declaration) :
    x.amend (t.merge u) = t.merge (x.amend u) := by
  have hsupport := Ledger.merge_support ht u.supported
  cases x with
  | supportTypes types => simp only [Declaration.amend, merge, hsupport]
  | unsupportType type operations => simp only [Declaration.amend, merge, Ledger.merge_add]
  | supportGlobal types =>
    simp only [Declaration.amend, merge, hsupport, Relationships.merge_addGlobal]
  | supportSelf types =>
    simp only [Declaration.amend, merge, hsupport, Relationships.merge_addSelf]
  | supportAllFeatures =>
    simp only [Declaration.amend, merge, hsupport, Credentials.merge, Credentials.setEnabled]
  | addInitializer initializer => simp only [Declaration.amend, merge, List.append_assoc]
  | setProperty name value =>
    simp only [Declaration.amend, merge, Credentials.merge, Credentials.setProperty,
      ConfigTable.override_insert]
  | addHandler handler =>
    simp only [Declaration.amend, merge, Credentials.merge, Credentials.addHandler,
      List.append_assoc]
  | supportCredentials enabled => rfl
  | readFrom policy => exact merge_assoc t u policy.toTerms

theorem amendAll_merge (ht : t.supported.Full) (u : Terms) :
    (t.merge u).amendAll history = t.merge (u.amendAll history) := by
  induction history generalizing u with
  | nil => rfl
  | cons x rest ih =>
    rw [amendAll_cons, amend_merge ht, ih, amendAll_cons]

/-! ## The support of credentials -/

/-- The terms with the support of credentials decided anew. -/
def setEnabled (t : Terms) (enabled : Bool) : Terms :=
  { t with credentials := t.credentials.setEnabled enabled }

theorem merge_empty (t : Terms) : t.merge ∅ = t.setEnabled false := by
  have hsupported : t.supported.merge (∅ : Terms).supported = t.supported := Ledger.merge_empty _
  have hunsupported : t.unsupported.merge (∅ : Terms).unsupported = t.unsupported :=
    Ledger.merge_empty _
  have hrelationships : t.relationships.merge (∅ : Terms).relationships = t.relationships :=
    Relationships.merge_empty _
  have hcredentials : t.credentials.merge (∅ : Terms).credentials = t.credentials.setEnabled false :=
    Credentials.merge_empty _
  have hinitializers : t.initializers ++ (∅ : Terms).initializers = t.initializers :=
    List.append_nil _
  rw [merge, hsupported, hunsupported, hrelationships, hcredentials, hinitializers]
  rfl

/-- What a declaration does to the other parts does not depend on whether credentials are
supported. -/
theorem amend_setEnabled (t : Terms) (enabled : Bool) (x : Declaration) :
    x.amend (t.setEnabled enabled) = (x.amend t).setEnabled (x.enabled?.getD enabled) := by
  cases x <;> rfl

theorem amendAll_setEnabled (t : Terms) (enabled : Bool) :
    (t.setEnabled enabled).amendAll history =
      (t.amendAll history).setEnabled
        ((Declaration.last? Declaration.enabled? history).getD enabled) := by
  induction history generalizing t enabled with
  | nil => rfl
  | cons x rest ih =>
    rw [amendAll_cons, amend_setEnabled, ih, Declaration.last?_cons, Option.getD_or, amendAll_cons]

/-- **Merging the terms that a history makes of nothing is the history,** except that they decide
whether credentials are supported. -/
theorem merge_amendAll_empty (ht : t.supported.Full) :
    t.merge (amendAll ∅ history) =
      (t.amendAll history).setEnabled (amendAll ∅ history).credentials.enabled := by
  have henabled : (amendAll ∅ history).credentials.enabled =
      (Declaration.last? Declaration.enabled? history).getD false := enabled_amendAll
  rw [← amendAll_merge ht, merge_empty, amendAll_setEnabled, henabled]

end Terms

namespace PolicyDraft

variable {steps : List PolicyStep} {p : Policy} {b : PolicyDraft}

/-! ## Reading -/

theorem toTerms_of_resolve (hp : (Session.after step steps .new).resolve = .ok p) :
    p.toTerms = Terms.amendAll ∅ (taken steps .new) :=
  (resolve_eq_ok_iff.1 hp).2.trans (toTerms_after steps .new)

theorem resultsFrom_readFrom (hp : (Session.after step steps .new).resolve = .ok p) :
    p.ResultsFrom [.readFrom p] := by
  have hterms : (∅ : Terms).merge p.toTerms = p.toTerms := by
    rw [toTerms_of_resolve hp]
    exact Terms.merge_amendAll_empty Ledger.full_empty
  have hv := (resolve_eq_ok_iff.1 hp).1
  have hsupports : p.supported ≠ ∅ := by
    rw [(resolve_eq_ok_iff.1 hp).2]
    exact (sealed_of_validated steps hv).supports
  exact Policy.resultsFrom_iff.2 ⟨hterms.symm, hsupports⟩

/-- **Reading a policy is replaying its history.** Let a policy be resolved in a session that starts
anew. An open draft that can come about takes all the declarations that this session took, it takes
the policy, and in both ways it stays open and gets the same parts, except that the policy decides
whether credentials are supported. A new draft that reads the policy is validated, and the same
policy is resolved from it. -/
theorem readFrom_replays (hp : (Session.after step steps .new).resolve = .ok p)
    (hb : b.Reachable) (ho : b.state = .opened) :
    let history := taken steps .new
    let replayed := afterAll history b
    let read := (declare (.readFrom p)).run b
    Session.accepted declare history b = history ∧ read.answer = .ok () ∧
      read.state.state = .opened ∧
      read.state = { replayed with toTerms := replayed.toTerms.setEnabled p.supportsCredentials } ∧
      p.ResultsFrom [.readFrom p] := by
  intro history replayed read
  have haccepted : Session.accepted declare history b = history :=
    (accepted_opened history ho).trans (sound_taken steps .new)
  have hreplayed : replayed = { b with toTerms := b.toTerms.amendAll history } := by
    have h := afterAll_opened history ho
    rwa [sound_taken] at h
  have hread : read =
      ⟨.ok (), { b with toTerms := b.toTerms.merge p.toTerms }, [.readPolicy p.supported.size]⟩ :=
    run_declare_opened ho rfl
  have hmerge : b.toTerms.merge p.toTerms =
      (b.toTerms.amendAll history).setEnabled p.supportsCredentials := by
    rw [Policy.supportsCredentials, toTerms_of_resolve hp]
    exact Terms.merge_amendAll_empty hb.wellFormed.supported
  rw [hread, hreplayed, hmerge]
  exact ⟨haccepted, rfl, ho, rfl, resultsFrom_readFrom hp⟩

/-- A policy that itself comes from a read one, a refused declaration and a failed validation is
read into a draft with a handler and with credentials. The handlers follow one another, and
credentials are not supported any more. -/
theorem readFrom_replays_nested :
    let first : CredentialHandlerRef := ⟨"password"⟩
    let second : CredentialHandlerRef := ⟨"token"⟩
    let source : Policy := ⟨Terms.amendAll ∅ [.supportTypes [.identity], .addHandler second]⟩
    let steps : List PolicyStep := [.validate, .declare (.readFrom source),
      .declare (.supportTypes []), .declare (.addHandler first), .validate]
    let p : Policy := ⟨(Session.after step steps .new).toTerms⟩
    let b := afterAll [.addHandler first, .supportCredentials true] .new
    let read := (declare (.readFrom p)).run b
    b.Reachable ∧ b.credentials.enabled = true ∧
      read.state.credentials.handlers = [first, second, first] ∧
      read.state.credentials.enabled = false ∧ p.ResultsFrom [.readFrom p] := by
  intro first second source steps p b read
  have hp : (Session.after step steps .new).resolve = .ok p := rfl
  have hb : b.Reachable := Reachable.new.afterAll (by simp [Declaration.ReadsResolved])
  have htaken : taken steps .new = [.readFrom source, .addHandler first] := rfl
  obtain ⟨-, -, -, hstate, hresults⟩ := readFrom_replays hp hb rfl
  rw [htaken] at hstate
  have hcredentials := congrArg (fun d : PolicyDraft => d.credentials) hstate
  exact ⟨hb, rfl, congrArg Credentials.handlers hcredentials,
    congrArg Credentials.enabled hcredentials, hresults⟩

end PolicyDraft

end IdentityStore
