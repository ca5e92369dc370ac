import IdentityStore.Settings.Basic
import IdentityStore.Text.Outline

/-!
# Outlines of settings

Settings as a developer wants to see them. The secret of a directory store is never shown, only
whether there is one.
-/

namespace IdentityStore

open Text (Outline)

def FileSettings.outline (s : FileSettings) : Outline :=
  .record "FileStoreSettings" [
    ("working_directory", .text s.workingDirectory.text),
    ("preserve_state", .bool s.preserveState),
    ("async_write", .bool s.asyncWrite),
    ("async_thread_pool", .leaf (toString s.asyncThreadPool.toNat))]

def JpaSettings.outline (s : JpaSettings) : Outline :=
  .record "JpaStoreSettings" [("mapped_entities", .list (s.mappedEntities.map .text))]

/-- The settings of a store that keeps a directory. Three asterisks stand for the secret. -/
def LdapSettings.outline (s : LdapSettings) : Outline :=
  .record "LdapStoreSettings" [
    ("url", .optional (s.url.map .text)),
    ("base_dn", .optional (s.baseDn.map .text)),
    ("bind_dn", .optional (s.bindDn.map .text)),
    ("bind_credential", .optional (s.bindCredential.map fun _ => .text "***"))]

def StoreSettings.outline : StoreSettings → Outline
  | file s => .tagged "File" [s.outline]
  | jpa s => .tagged "Jpa" [s.outline]
  | ldap s => .tagged "Ldap" [s.outline]

end IdentityStore
