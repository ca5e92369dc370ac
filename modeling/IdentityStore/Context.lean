import IdentityStore.ConfigValue.Table

/-!
# Contexts

A store sets up a context around each operation: the partition the operation runs in, and
attributes that context initializers write.
-/

namespace IdentityStore

open Text (Outline)

structure IdentityContext where
  partition : Option String := none
  attributes : ConfigTable := ∅

namespace IdentityContext

instance : EmptyCollection IdentityContext := ⟨{}⟩

def forPartition (partition : String) : IdentityContext := { partition := some partition }

def attribute? (c : IdentityContext) (name : String) : Option ConfigValue := c.attributes[name]?

/-- Sets an attribute. The first component is the attribute as it was before. -/
def setAttribute (c : IdentityContext) (name : String) (value : ConfigValue) :
    Option ConfigValue × IdentityContext :=
  (c.attribute? name, { c with attributes := c.attributes.insert name value })

def equal (a b : IdentityContext) : Bool :=
  a.partition == b.partition && a.attributes.equal b.attributes

/-! ## JSON -/

def toJson (c : IdentityContext) : Json :=
  .ofFields [("partition", .ofOption c.partition), ("attributes", c.attributes.toJson)]

/-- Reads a context. A missing partition is none. -/
def reader : Json.RecordReader IdentityContext where
  name := "IdentityContext"
  size := 2
  ofFields fields := do
    let attributes ← Json.Decoder.field? fields "attributes" ConfigTable.decode
    let partition ← Json.Decoder.field? fields "partition"
      (Json.Decoder.optional Json.Decoder.string)
    return { partition := partition.join,
             attributes := ← Json.Decoder.require "attributes" attributes }
  ofItems tooShort items := do
    let partition ← Json.RecordReader.requireItem tooShort items 0
      (Json.Decoder.optional Json.Decoder.string)
    let attributes ← Json.RecordReader.requireItem tooShort items 1 ConfigTable.decode
    return { partition, attributes }

def decode : Json.Decoder IdentityContext := reader.decode

end IdentityContext

/-- An extension that prepares contexts. It leaves a context behind whether it succeeds or
fails. -/
structure ContextInitializer where
  id : String
  run : EStateM Error IdentityContext Unit

def ContextInitializer.outline (i : ContextInitializer) : Outline :=
  .record "ContextInitializer" [("id", .text i.id)]

end IdentityStore
