import IdentityStore.StoreType
import IdentityStore.Text.Path

/-!
# Settings of stores

Each type of store has settings of its own. The library carries them along and interprets none.
-/

namespace IdentityStore

open Text (Path)

structure FileSettings where
  workingDirectory : Path
  preserveState : Bool := false
  asyncWrite : Bool := false
  asyncThreadPool : UInt64 := 5
deriving DecidableEq

structure JpaSettings where
  /-- The names of the entities that types are mapped to, without repetition. -/
  mappedEntities : List String := []
deriving DecidableEq

structure LdapSettings where
  url : Option String := none
  baseDn : Option String := none
  bindDn : Option String := none
  bindCredential : Option String := none
deriving DecidableEq

abbrev Settings : StoreType → Type
  | .file => FileSettings
  | .jpa => JpaSettings
  | .ldap => LdapSettings

/-- The settings of a store in which nothing was set. Files are kept below the temporary directory
of the environment. -/
def Settings.default (k : StoreType) (tmp : Path := .temporary) : Settings k :=
  match k with
  | .file => ({ workingDirectory := tmp.join "idm-store" } : FileSettings)
  | .jpa => ({} : JpaSettings)
  | .ldap => ({} : LdapSettings)

inductive StoreSettings where
  | file (settings : FileSettings)
  | jpa (settings : JpaSettings)
  | ldap (settings : LdapSettings)
deriving DecidableEq

def Settings.pack : {k : StoreType} → Settings k → StoreSettings
  | .file, s => .file s
  | .jpa, s => .jpa s
  | .ldap, s => .ldap s

namespace StoreSettings

def type : StoreSettings → StoreType
  | file _ => .file
  | jpa _ => .jpa
  | ldap _ => .ldap

@[simp] theorem type_pack {k : StoreType} (s : Settings k) : s.pack.type = k := by
  cases k <;> rfl

end StoreSettings

/-! ## Changes -/

inductive Setting : StoreType → Type where
  | workingDirectory (path : Path) : Setting .file
  | preserveState (keep : Bool) : Setting .file
  | asyncWrite (background : Bool) : Setting .file
  | asyncThreadPool (threads : UInt64) : Setting .file
  | mappedEntities (names : List String) : Setting .jpa
  | url (address : String) : Setting .ldap
  | baseDn (name : String) : Setting .ldap
  | bindDn (name : String) : Setting .ldap
  | bindCredential (secret : String) : Setting .ldap

/-- Adds names of entities behind the others. A name that is there already is not added, be it
from an earlier call or from the same one. -/
def JpaSettings.addMapped (s : JpaSettings) (names : List String) : JpaSettings :=
  let add (known : List String) (name : String) : List String :=
    if name ∈ known then known else known ++ [name]
  { s with mappedEntities := names.foldl add s.mappedEntities }

def Setting.apply : {k : StoreType} → Setting k → Settings k → Settings k
  | _, workingDirectory path, s => { (s : FileSettings) with workingDirectory := path }
  | _, preserveState keep, s => { (s : FileSettings) with preserveState := keep }
  | _, asyncWrite background, s => { (s : FileSettings) with asyncWrite := background }
  | _, asyncThreadPool threads, s => { (s : FileSettings) with asyncThreadPool := threads }
  | _, mappedEntities names, s => JpaSettings.addMapped s names
  | _, url address, s => { (s : LdapSettings) with url := some address }
  | _, baseDn name, s => { (s : LdapSettings) with baseDn := some name }
  | _, bindDn name, s => { (s : LdapSettings) with bindDn := some name }
  | _, bindCredential secret, s => { (s : LdapSettings) with bindCredential := some secret }

/-! ## Equality -/

/-- Equality of settings of stores that keep files: the directories lead to the same place. -/
def FileSettings.equal (a b : FileSettings) : Bool :=
  a.workingDirectory.same b.workingDirectory && a.preserveState == b.preserveState &&
    a.asyncWrite == b.asyncWrite && a.asyncThreadPool == b.asyncThreadPool

def StoreSettings.equal : StoreSettings → StoreSettings → Bool
  | file a, file b => a.equal b
  | jpa a, jpa b => a == b
  | ldap a, ldap b => a == b
  | _, _ => false

end IdentityStore
