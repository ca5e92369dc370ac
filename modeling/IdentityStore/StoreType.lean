import IdentityStore.Json.Decode

/-!
# Types of stores

A store keeps its entities in files, in a database or in a directory.
-/

namespace IdentityStore

inductive StoreType where
  | file
  | jpa
  | ldap
deriving DecidableEq

namespace StoreType

def all : List StoreType := [file, jpa, ldap]

def name : StoreType → String
  | file => "file"
  | jpa => "jpa"
  | ldap => "ldap"

def label : StoreType → String
  | file => "File"
  | jpa => "Jpa"
  | ldap => "Ldap"

def choices : List (String × StoreType) := all.map fun k => (k.name, k)

def toJson (k : StoreType) : Json := .string k.name

def decode : Json.Decoder StoreType := .choice choices

end StoreType

end IdentityStore
