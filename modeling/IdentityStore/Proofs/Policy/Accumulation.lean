import IdentityStore.Proofs.Policy.Contribution
import IdentityStore.Proofs.Policy.Lifecycle

/-!
# The parts of a policy over whole sessions

A session on the draft of a policy takes some declarations and refuses others. At every point of it
the parts of the draft, and of the policy that is resolved there, are made up by the declarations
taken until then, each part in its own way.

* `PolicyDraft.taken`: the declarations that a session takes, in order.
* `sound_taken`: none of them has a fault.
* `toTerms_after`: a session amends the terms by the declarations that it takes.
* `Terms.MadeUpBy`: how declarations make up the parts of terms.
* `parts_made_up_by_taken_declarations`: they do, in every session that starts anew.
-/

namespace IdentityStore

def PolicyStep.declaration? : PolicyStep → Option Declaration
  | declare x => some x
  | validate | resolve => none

namespace PolicyDraft

/-- The declarations that a session takes, in order. -/
def taken (steps : List PolicyStep) (d : PolicyDraft) : List Declaration :=
  (Session.accepted step steps d).filterMap PolicyStep.declaration?

/-- The declaration that one step takes, if it does. -/
def takenBy (t : PolicyStep) (d : PolicyDraft) : List Declaration :=
  match ((step t).run d).answer with
  | .ok _ => t.declaration?.toList
  | .error _ => []

theorem taken_cons (t : PolicyStep) (rest : List PolicyStep) (d : PolicyDraft) :
    taken (t :: rest) d = takenBy t d ++ taken rest ((step t).run d).state := by
  rw [taken, Session.accepted, takenBy]
  cases ((step t).run d).answer with
  | error e => rfl
  | ok a => cases h : t.declaration? <;> simp [h, taken]

theorem taken_append (steps more : List PolicyStep) (d : PolicyDraft) :
    taken (steps ++ more) d = taken steps d ++ taken more (Session.after step steps d) := by
  rw [taken, Session.accepted_append, List.filterMap_append]
  rfl

theorem taken_of_none {steps : List PolicyStep} {d : PolicyDraft}
    (h : ∀ t ∈ steps, t.declaration? = none) : taken steps d = [] :=
  List.filterMap_eq_nil_iff.2 fun t ht => h t ((Session.accepted_sublist step steps d).subset ht)

theorem takenBy_of_none {t : PolicyStep} (h : t.declaration? = none) (d : PolicyDraft) :
    takenBy t d = [] := by
  rw [takenBy, h]
  split <;> rfl

theorem takenBy_declare (x : Declaration) (d : PolicyDraft) : takenBy (.declare x) d =
    if d.state = .opened then Declaration.sound [x] else [] := by
  rw [takenBy, step, Action.run_bind_return, Declaration.sound]
  cases hs : d.state with
  | validated => rw [run_declare_validated x hs]; rfl
  | opened =>
    cases hx : x.fault? with
    | none => rw [run_declare_opened hs hx]; simp [hx]; rfl
    | some f => rw [run_declare_fault hs hx]; simp [hx]; rfl

theorem taken_of_opened (history : List Declaration) {d : PolicyDraft} (h : d.state = .opened) :
    taken (history.map .declare) d = Declaration.sound history := by
  induction history generalizing d with
  | nil => rfl
  | cons x rest ih =>
    have hopened : ((step (.declare x)).run d).state.state = .opened := by
      rw [state_step]
      exact (congrArg PolicyDraft.state (afterAll_opened [x] h)).trans h
    rw [List.map_cons, taken_cons, ih hopened, takenBy_declare, if_pos h]
    exact (List.filter_append [x] rest).symm

/-- **A step** amends the terms by the declaration that it takes. -/
theorem toTerms_step (t : PolicyStep) (d : PolicyDraft) :
    ((step t).run d).state.toTerms = d.toTerms.amendAll (takenBy t d) := by
  cases t with
  | declare x =>
    rw [takenBy_declare, state_step]
    cases hs : d.state with
    | validated =>
      simp only [run_declare_validated x hs]
      rfl
    | opened => exact congrArg PolicyDraft.toTerms (afterAll_opened [x] hs)
  | validate =>
    rw [takenBy_of_none rfl, state_step]
    exact toTerms_validate d
  | resolve =>
    rw [takenBy_of_none rfl, state_step]
    rfl

theorem sound_taken (steps : List PolicyStep) (d : PolicyDraft) :
    Declaration.sound (taken steps d) = taken steps d := by
  have hby : ∀ (t : PolicyStep) (d : PolicyDraft),
      Declaration.sound (takenBy t d) = takenBy t d := by
    intro t d
    cases t with
    | declare x =>
      rw [takenBy_declare]
      split
      · rw [Declaration.sound, Declaration.sound, List.filter_filter]
        simp only [Bool.and_self]
      · rfl
    | validate => rw [takenBy_of_none rfl]; rfl
    | resolve => rw [takenBy_of_none rfl]; rfl
  induction steps generalizing d with
  | nil => rfl
  | cons t rest ih =>
    have hrest := ih ((step t).run d).state
    rw [taken_cons, Declaration.sound, List.filter_append, ← Declaration.sound,
      ← Declaration.sound, hby, hrest]

/-- **A session** amends the terms by the declarations that it takes. -/
theorem toTerms_after (steps : List PolicyStep) (d : PolicyDraft) :
    (Session.after step steps d).toTerms = d.toTerms.amendAll (taken steps d) := by
  induction steps generalizing d with
  | nil => rfl
  | cons t rest ih =>
    rw [Session.after_cons, ih, taken_cons, toTerms_step, Terms.amendAll_append]

end PolicyDraft

/-- How declarations make up the parts of terms: handlers and initializers follow one another in
the order of the declarations, a property and the support of credentials are as they were written
last, and a relationship type is of a class when any declaration classifies it so. -/
structure Terms.MadeUpBy (t : Terms) (history : List Declaration) : Prop where
  handlers : t.credentials.handlers = history.flatMap Declaration.handlers
  initializers : t.initializers = history.flatMap Declaration.initializers
  property? : ∀ name, t.credentials.property? name =
    Declaration.last? (fun x => x.properties[name]?) history
  enabled : t.credentials.enabled = (Declaration.last? Declaration.enabled? history).getD false
  global : ∀ r, r ∈ t.relationships.global ↔ ∃ x ∈ history, x.MakesGlobal r
  selfScoped : ∀ r, r ∈ t.relationships.selfScoped ↔ ∃ x ∈ history, x.MakesSelfScoped r

theorem Terms.madeUpBy_amendAll (history : List Declaration) :
    (amendAll ∅ history).MadeUpBy history where
  handlers := by
    rw [handlers_amendAll]
    rfl
  initializers := by
    rw [initializers_amendAll]
    rfl
  property? name := by
    have hnone : (∅ : Terms).credentials.property? name = none := Std.ExtTreeMap.getElem?_empty
    rw [property?_amendAll, hnone, Option.or_none]
  enabled := by
    rw [enabled_amendAll]
    rfl
  global r := by
    rw [mem_global_amendAll]
    exact or_iff_right Relationships.mem_global_empty
  selfScoped r := by
    rw [mem_selfScoped_amendAll]
    exact or_iff_right Relationships.mem_selfScoped_empty

namespace PolicyDraft

/-- Supporting all features touches no class of relationships, no handler, no property and no
initializer. -/
structure KeepsParts (d d' : PolicyDraft) : Prop where
  relationships : d'.relationships = d.relationships
  handlers : d'.credentials.handlers = d.credentials.handlers
  properties : d'.credentials.properties = d.credentials.properties
  initializers : d'.initializers = d.initializers

theorem keepsParts_supportAllFeatures (d : PolicyDraft) :
    d.KeepsParts ((declare .supportAllFeatures).run d).state := by
  cases hs : d.state with
  | validated =>
    rw [run_declare_validated _ hs]
    exact ⟨rfl, rfl, rfl, rfl⟩
  | opened =>
    rw [run_declare_opened hs rfl]
    exact ⟨rfl, rfl, rfl, rfl⟩

/-- **The parts of a policy over a whole session.** -/
theorem parts_made_up_by_taken_declarations (steps : List PolicyStep) :
    let d := Session.after step steps .new
    d.toTerms.MadeUpBy (taken steps .new) ∧
      (∀ p : Policy, d.resolve = .ok p → p.toTerms.MadeUpBy (taken steps .new)) ∧
      d.KeepsParts ((declare .supportAllFeatures).run d).state := by
  intro d
  have hd : d.toTerms.MadeUpBy (taken steps .new) := by
    rw [toTerms_after]
    exact Terms.madeUpBy_amendAll _
  refine ⟨hd, fun p hp => ?_, keepsParts_supportAllFeatures d⟩
  rw [(resolve_eq_ok_iff.1 hp).2]
  exact hd

/-- Two declarations are refused, one because it lists nothing and one because it comes after the
validation. A policy that is read appends its handler and its initializer, overwrites a property,
takes the support of credentials back, and classifies one type more. -/
theorem parts_of_session_with_refusals :
    let handler : CredentialHandlerRef := ⟨"password"⟩
    let first : ContextInitializer := ⟨"first", pure ()⟩
    let second : ContextInitializer := ⟨"second", pure ()⟩
    let member : RelationshipType := ⟨⟨.relationship, "Member", by decide, by decide⟩, rfl⟩
    let read : List Declaration := [.addHandler handler, .addInitializer second,
      .setProperty "rounds" (.string "many"), .supportSelf [member]]
    let source : Policy := ⟨Terms.amendAll ∅ read⟩
    let declared : List Declaration :=
      [.supportAllFeatures, .supportTypes [], .addHandler handler, .addInitializer first,
        .setProperty "rounds" (.string "few"), .supportGlobal [.generic], .readFrom source,
        .supportSelf [.generic]]
    let steps : List PolicyStep :=
      declared.map .declare ++ [.validate, .declare (.supportGlobal [member])]
    let p : Policy := ⟨(Session.after step steps .new).toTerms⟩
    (Session.after step steps .new).resolve = .ok p ∧
      p.credentials.handlers = [handler, handler] ∧ p.initializers = [first, second] ∧
      p.supportsCredentials = false ∧ p.property? "rounds" = some (.string "many") ∧
      (∀ r, r ∈ p.relationships.global ↔ r = .generic) ∧
      ∀ r, r ∈ p.relationships.selfScoped ↔ r = member ∨ r = .generic := by
  intro handler first second member read source declared steps p
  have hvalidated : (Session.after step steps .new).state = .validated := by decide
  have hp : (Session.after step steps .new).resolve = .ok p := resolve_validated hvalidated
  have htaken : taken steps .new = Declaration.sound declared := by
    have hclosed : ((step .validate).run
        (Session.after step (declared.map .declare) .new)).state.state ≠ .opened := by decide
    rw [taken_append, taken_of_opened declared rfl, taken_cons, takenBy_of_none rfl, taken_cons,
      takenBy_declare, if_neg hclosed]
    exact List.append_nil _
  have hsource : source.toTerms.MadeUpBy read := Terms.madeUpBy_amendAll read
  have hmade := (parts_made_up_by_taken_declarations steps).2.1 p hp
  rw [htaken] at hmade
  refine ⟨hp, hmade.handlers, hmade.initializers, hmade.enabled, hmade.property? "rounds",
    fun r => (hmade.global r).trans ?_, fun r => (hmade.selfScoped r).trans ?_⟩
  · simp [declared, Declaration.sound, Declaration.fault?, Declaration.MakesGlobal, hsource.global,
      read]
  · simp [declared, Declaration.sound, Declaration.fault?, Declaration.MakesSelfScoped,
      hsource.selfScoped, read]

end PolicyDraft

end IdentityStore
