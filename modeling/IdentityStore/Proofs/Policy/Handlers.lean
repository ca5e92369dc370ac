import IdentityStore.Proofs.Policy.Accumulation

/-!
# Where references to handlers come from

A reference that is made from a name or read from JSON has a name in order: not empty, and without a
blank at its ends. A reference to a handler has the name that the handler declares, whatever it is.

* **Names in order** (`CredentialHandlerRef.WellFormed`) are those from which a reference is made
  again (`wellFormed_iff_make`) and with which it is read again (`wellFormed_iff_decode`).
* **Sources** (`CredentialHandlerRef.Source`) are the ways to come by a reference. All but careless
  handlers give names in order (`Source.wellFormed_iff`).
* **Registered handlers** (`PolicyDraft.mem_handlers_after`) were there at the start of a session or
  come from one of its declarations. So they have names in order if the declarations bring no others
  (`Credentials.WellNamed`).
* `references_checked_unless_declared`: the law. `blank_reference_registered`: a handler that
  declares a blank name is referred to and registered under it.
-/

namespace IdentityStore

open Text (Trimmed trim)

namespace CredentialHandlerRef

variable {h : CredentialHandlerRef}

/-- The name is not empty, and no blank stands at its ends. -/
structure WellFormed (h : CredentialHandlerRef) : Prop where
  nonempty : h.name ≠ ""
  trimmed : Trimmed h.name

theorem wellFormed_of_make {name : String} (made : make name = .ok h) : h.WellFormed := by
  obtain ⟨hname, hnonempty⟩ := make_eq_ok_iff.1 made
  exact ⟨hnonempty, hname ▸ Text.trimmed_trim name⟩

theorem wellFormed_iff_make : h.WellFormed ↔ make h.name = .ok h := by
  constructor
  · rintro ⟨hnonempty, htrimmed⟩
    exact make_eq_ok_iff.2 ⟨(Text.trim_of_trimmed htrimmed).symm, hnonempty⟩
  · exact wellFormed_of_make

theorem decode_eq_ok_iff {j : Json} :
    decode j = .ok h ↔ ∃ name, j = .string name ∧ make name = .ok h := by
  constructor
  · intro hdecode
    cases j with
    | string name =>
      rw [decode_string] at hdecode
      exact ⟨name, rfl, Json.Decoder.refuse_eq_ok_iff.1 hdecode⟩
    | null | bool | number | array | object => cases hdecode
  · rintro ⟨name, rfl, hmake⟩
    rw [decode_string]
    exact Json.Decoder.refuse_eq_ok_iff.2 hmake

theorem wellFormed_of_decode {j : Json} (decoded : decode j = .ok h) : h.WellFormed := by
  obtain ⟨name, -, hmake⟩ := decode_eq_ok_iff.1 decoded
  exact wellFormed_of_make hmake

theorem wellFormed_iff_decode : h.WellFormed ↔ decode h.toJson = .ok h := by
  rw [wellFormed_iff_make, decode_eq_ok_iff, toJson]
  constructor
  · exact fun hmake => ⟨h.name, rfl, hmake⟩
  · rintro ⟨name, hname, hmake⟩
    rwa [Json.string.inj hname]

/-! ## Sources -/

/-- The ways to come by a reference. -/
inductive Source where
  | name (name : String)
  | json (j : Json)
  | handler {σ : Type} (handler : CredentialHandler σ)

namespace Source

/-- The reference that a source gives, if it gives one. -/
def Gives : Source → CredentialHandlerRef → Prop
  | name s, h => make s = .ok h
  | json j, h => decode j = .ok h
  | handler k, h => of k = h

/-- A handler declares a name in order; from a name or from JSON anything will do. -/
def Careful : Source → Prop
  | name _ | json _ => True
  | handler k => k.name ≠ "" ∧ Trimmed k.name

/-- **The sources that give names in order** are the careful ones. -/
theorem wellFormed_iff {source : Source} (given : source.Gives h) :
    h.WellFormed ↔ source.Careful := by
  cases source with
  | name s => exact iff_of_true (wellFormed_of_make given) trivial
  | json j => exact iff_of_true (wellFormed_of_decode given) trivial
  | handler k =>
    obtain rfl : of k = h := given
    constructor
    · exact fun hwell => ⟨hwell.nonempty, hwell.trimmed⟩
    · exact fun hname => ⟨hname.1, hname.2⟩

end Source

end CredentialHandlerRef

/-! ## Registered handlers -/

/-- All handlers have names in order. -/
def Credentials.WellNamed (c : Credentials) : Prop := ∀ h ∈ c.handlers, h.WellFormed

namespace PolicyDraft

variable {steps : List PolicyStep} {d : PolicyDraft}

theorem declare_mem_of_taken {x : Declaration} (hx : x ∈ taken steps d) : .declare x ∈ steps := by
  obtain ⟨t, ht, htx⟩ := List.mem_filterMap.1 hx
  have hmem := (Session.accepted_sublist step steps d).subset ht
  cases t with
  | declare y =>
    cases htx
    exact hmem
  | validate | resolve => cases htx

/-- **Every registered handler** was there at the start or comes from a declaration. -/
theorem mem_handlers_after {h : CredentialHandlerRef}
    (hmem : h ∈ (Session.after step steps d).credentials.handlers) :
    h ∈ d.credentials.handlers ∨ ∃ x, .declare x ∈ steps ∧ h ∈ x.handlers := by
  rw [toTerms_after, Terms.handlers_amendAll] at hmem
  rcases List.mem_append.1 hmem with hstart | hadded
  · exact .inl hstart
  · obtain ⟨x, hx, hxh⟩ := List.mem_flatMap.1 hadded
    exact .inr ⟨x, declare_mem_of_taken hx, hxh⟩

theorem wellNamed_after (hd : d.credentials.WellNamed)
    (hsteps : ∀ x, .declare x ∈ steps → ∀ h ∈ x.handlers, h.WellFormed) :
    (Session.after step steps d).credentials.WellNamed := by
  intro h hmem
  rcases mem_handlers_after hmem with hstart | ⟨x, hx, hxh⟩
  · exact hd h hstart
  · exact hsteps x hx h hxh

end PolicyDraft

theorem Policy.wellNamed_of_resolve {d : PolicyDraft} {p : Policy} (hd : d.credentials.WellNamed)
    (hp : d.resolve = .ok p) : p.credentials.WellNamed := by
  rw [(PolicyDraft.resolve_eq_ok_iff.1 hp).2]
  exact hd

namespace CredentialHandlerRef

/-- **References are checked unless a handler declares its name.** A reference has a name in order
exactly when its source is careful, and just then it is made again from its name and read again from
its JSON value. A session that declares references from careful sources only, policies to read
included, registers no other names in the draft and in the policies that are resolved from it. -/
theorem references_checked_unless_declared {source : Source} {h : CredentialHandlerRef}
    (given : source.Gives h) :
    (h.WellFormed ↔ source.Careful) ∧ (make h.name = .ok h ↔ source.Careful) ∧
    (decode h.toJson = .ok h ↔ source.Careful) ∧
    ∀ (steps : List PolicyStep) (d : PolicyDraft), d.credentials.WellNamed →
      (∀ x, .declare x ∈ steps → ∀ g ∈ x.handlers, ∃ s : Source, s.Gives g ∧ s.Careful) →
      (Session.after PolicyDraft.step steps d).credentials.WellNamed ∧
      ∀ p : Policy, (Session.after PolicyDraft.step steps d).resolve = .ok p →
        p.credentials.WellNamed := by
  have hcareful := Source.wellFormed_iff given
  refine ⟨hcareful, wellFormed_iff_make.symm.trans hcareful,
    wellFormed_iff_decode.symm.trans hcareful, fun steps d hd hsteps => ?_⟩
  have hafter := PolicyDraft.wellNamed_after hd fun x hx g hg => by
    obtain ⟨s, hs, hsource⟩ := hsteps x hx g hg
    exact (Source.wellFormed_iff hs).2 hsource
  exact ⟨hafter, fun p hp => Policy.wellNamed_of_resolve hafter hp⟩

/-- A handler that is registered by a name with blanks around it, and one by the name that it
declares. -/
theorem references_checked_of_two_handlers :
    let totp : CredentialHandler Unit :=
      { name := "totp", configure := fun _ s => .ok s, supports := fun _ kind => kind == "totp" }
    let steps : List PolicyStep := [.declare .supportAllFeatures,
      .declare (.addHandler ⟨"password"⟩), .declare (.addHandler (of totp)), .validate]
    let p : Policy := ⟨(Session.after PolicyDraft.step steps .new).toTerms⟩
    make " password " = .ok ⟨"password"⟩ ∧ (of totp).WellFormed ∧
      (Session.after PolicyDraft.step steps .new).resolve = .ok p ∧
      p.credentials.handlers = [⟨"password"⟩, ⟨"totp"⟩] ∧ p.credentials.WellNamed := by
  intro totp steps p
  have hpassword : (Source.name " password ").Gives ⟨"password"⟩ :=
    make_eq_ok_iff.2 (by decide)
  have htotp : (Source.handler totp).Gives (of totp) := rfl
  have hcareful : (Source.handler totp).Careful := ⟨by decide, by decide⟩
  obtain ⟨hwell, -, -, hregistered⟩ := references_checked_unless_declared htotp
  have hp : (Session.after PolicyDraft.step steps .new).resolve = .ok p := rfl
  have hnew : PolicyDraft.new.credentials.WellNamed := fun h hh => absurd hh List.not_mem_nil
  refine ⟨hpassword, hwell.2 hcareful, hp, rfl, (hregistered steps .new hnew ?_).2 p hp⟩
  intro x hx g hg
  simp only [steps, List.mem_cons, List.not_mem_nil, or_false, PolicyStep.declare.injEq,
    reduceCtorEq] at hx
  rcases hx with rfl | rfl | rfl
  · cases hg
  · obtain rfl := List.mem_singleton.1 hg
    exact ⟨.name " password ", hpassword, trivial⟩
  · obtain rfl := List.mem_singleton.1 hg
    exact ⟨.handler totp, htotp, hcareful⟩

/-- **A blank name is registered** when a handler declares it. The reference is neither made from its
own name nor read from its own JSON value. -/
theorem blank_reference_registered :
    let blank : CredentialHandler Unit :=
      { name := "", configure := fun _ s => .ok s, supports := fun _ _ => false }
    let h := of blank
    h.name = "" ∧ make h.name = .error (.invalidArgument .blankHandlerName) ∧
      decode h.toJson = .error (.rejected (.invalidArgument .blankHandlerName)) ∧
      ((PolicyDraft.declare (.addHandler h)).run .new).answer = .ok () ∧
      ((PolicyDraft.declare (.addHandler h)).run .new).state.credentials.handlers = [h] :=
  ⟨rfl, rfl, rfl, rfl, rfl⟩

end CredentialHandlerRef

end IdentityStore
