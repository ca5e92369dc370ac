import IdentityStore.ConfigValue.Table
import IdentityStore.Text.Blank

/-!
# Credential handlers

A credential handler is a component of a store that checks one class of credentials. A policy
refers to handlers by name and carries properties for them.
-/

namespace IdentityStore

open Text (Outline trim)

structure CredentialHandler (σ : Type) where
  name : String
  configure : ConfigTable → σ → Except Error σ
  supports : σ → String → Bool

structure CredentialHandlerRef where
  name : String
deriving DecidableEq

namespace CredentialHandlerRef

/-- The reference by a name. The blanks around the name are dropped; a name of blanks is
refused. -/
def make (name : String) : Except Error CredentialHandlerRef :=
  if trim name = "" then .error (.invalidArgument .blankHandlerName) else .ok ⟨trim name⟩

theorem make_eq_ok_iff {name : String} {h : CredentialHandlerRef} :
    make name = .ok h ↔ h.name = trim name ∧ h.name ≠ "" := by
  obtain ⟨given⟩ := h
  unfold make
  split
  · next hblank =>
    constructor
    · intro he
      cases he
    · rintro ⟨hname, hnonempty⟩
      exact absurd (hname.trans hblank) hnonempty
  · next hname =>
    constructor
    · rintro ⟨⟩
      exact ⟨rfl, hname⟩
    · rintro ⟨rfl, -⟩
      rfl

/-- The reference to a handler. The name it declares is taken as it is. -/
def of {σ : Type} (handler : CredentialHandler σ) : CredentialHandlerRef := ⟨handler.name⟩

def display (h : CredentialHandlerRef) : String := h.name

def outline (h : CredentialHandlerRef) : Outline :=
  .tagged "CredentialHandlerRef" [.text h.name]

instance : Ord CredentialHandlerRef := ⟨compareOn name⟩

def toJson (h : CredentialHandlerRef) : Json := .string h.name

def decode : Json.Decoder CredentialHandlerRef := fun j => do
  let name ← Json.Decoder.string j
  Json.Decoder.refuse (make name)

theorem decode_string (name : String) : decode (.string name) = Json.Decoder.refuse (make name) := by
  rw [decode, Json.Decoder.string, Json.Decoder.ok_bind]

end CredentialHandlerRef

end IdentityStore
