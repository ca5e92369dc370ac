import IdentityStore.Settings.Basic

/-!
# Settings and JSON

The settings of each type of store are an object. Settings of any type are the same object with
the type of the store in the field `type`. From an array the type is the first item.
-/

namespace IdentityStore

open Json (Decoder DecodeError RecordReader)
open Json.Decoder
open Json.RecordReader

/-! ## Settings of one type -/

namespace FileSettings

/-- Reads the settings of a store that keeps files. Only the directory has no default. -/
def reader : RecordReader FileSettings where
  name := "FileStoreSettings"
  size := 4
  ofFields fields := do
    let threads ← field? fields "async_thread_pool" size
    let background ← field? fields "async_write" bool
    let keep ← field? fields "preserve_state" bool
    let directory ← field? fields "working_directory" path
    return {
      workingDirectory := ← require "working_directory" directory
      preserveState := keep.getD false
      asyncWrite := background.getD false
      asyncThreadPool := threads.getD 5 }
  ofItems tooShort items := do
    let directory ← requireItem tooShort items 0 path
    let keep ← item? items 1 bool
    let background ← item? items 2 bool
    let threads ← item? items 3 size
    return {
      workingDirectory := directory
      preserveState := keep.getD false
      asyncWrite := background.getD false
      asyncThreadPool := threads.getD 5 }

def toFields (s : FileSettings) : List (String × Json) := [
  ("working_directory", .string s.workingDirectory.text),
  ("preserve_state", .bool s.preserveState),
  ("async_write", .bool s.asyncWrite),
  ("async_thread_pool", .ofUInt64 s.asyncThreadPool)]

def toJson (s : FileSettings) : Json := .ofFields s.toFields

def decode : Decoder FileSettings := reader.decode

end FileSettings

namespace JpaSettings

def reader : RecordReader JpaSettings where
  name := "JpaStoreSettings"
  size := 1
  ofFields fields := do
    let names ← field? fields "mapped_entities" strings
    return { mappedEntities := names.getD [] }
  ofItems _ items := do
    let names ← item? items 0 strings
    return { mappedEntities := names.getD [] }

def toFields (s : JpaSettings) : List (String × Json) := [
  ("mapped_entities", .array (s.mappedEntities.map .string))]

def toJson (s : JpaSettings) : Json := .ofFields s.toFields

def decode : Decoder JpaSettings := reader.decode

end JpaSettings

namespace LdapSettings

/-- Reads the settings of a store that keeps a directory. A missing field is not set; an array
has to have all items. -/
def reader : RecordReader LdapSettings where
  name := "LdapStoreSettings"
  size := 4
  ofFields fields := do
    let baseDn ← field? fields "base_dn" (optional string)
    let bindCredential ← field? fields "bind_credential" (optional string)
    let bindDn ← field? fields "bind_dn" (optional string)
    let url ← field? fields "url" (optional string)
    return {
      url := url.join
      baseDn := baseDn.join
      bindDn := bindDn.join
      bindCredential := bindCredential.join }
  ofItems tooShort items := do
    let url ← requireItem tooShort items 0 (optional string)
    let baseDn ← requireItem tooShort items 1 (optional string)
    let bindDn ← requireItem tooShort items 2 (optional string)
    let bindCredential ← requireItem tooShort items 3 (optional string)
    return { url, baseDn, bindDn, bindCredential }

def toFields (s : LdapSettings) : List (String × Json) := [
  ("url", .ofOption s.url),
  ("base_dn", .ofOption s.baseDn),
  ("bind_dn", .ofOption s.bindDn),
  ("bind_credential", .ofOption s.bindCredential)]

def toJson (s : LdapSettings) : Json := .ofFields s.toFields

def decode : Decoder LdapSettings := reader.decode

end LdapSettings

/-! ## Settings of any type -/

namespace StoreSettings

def tag : String := "type"

def toFields : StoreSettings → List (String × Json)
  | file s => s.toFields
  | jpa s => s.toFields
  | ldap s => s.toFields

def toJson (s : StoreSettings) : Json := .ofFields ((tag, s.type.toJson) :: s.toFields)

def decodeTag : Decoder StoreType
  | .string name => named StoreType.choices name
  | j => mismatch j "variant identifier"

def ofFields (fields : List (String × Json)) : StoreType → Except DecodeError StoreSettings
  | .file => (FileSettings.reader.ofFields fields).map .file
  | .jpa => (JpaSettings.reader.ofFields fields).map .jpa
  | .ldap => (LdapSettings.reader.ofFields fields).map .ldap

/-- The error for an array with items left over after `size` of them were read. -/
def leftOver (length size : Nat) : DecodeError :=
  .invalidLength length
    (toString size ++ (if size = 1 then " element" else " elements") ++ " in sequence")

def takeAll {α : Type} (items : List Json) (r : RecordReader α) : Except DecodeError α :=
  r.ofArray (leftOver items.length r.size) items

def ofItems (items : List Json) : StoreType → Except DecodeError StoreSettings
  | .file => (takeAll items FileSettings.reader).map .file
  | .jpa => (takeAll items JpaSettings.reader).map .jpa
  | .ldap => (takeAll items LdapSettings.reader).map .ldap

/-- Reads settings. The type decides how the rest is read. -/
def decode : Decoder StoreSettings
  | .object fields => do
    match Keyed.get? fields tag with
    | none => .error (.missingField tag)
    | some j => ofFields (fields.filter (·.1 != tag)) (← decodeTag j)
  | .array [] => .error (.missingField tag)
  | .array (j :: items) => do ofItems items (← decodeTag j)
  | j => mismatch j "internally tagged enum StoreSettings"

end StoreSettings

end IdentityStore
