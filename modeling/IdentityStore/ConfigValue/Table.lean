import IdentityStore.ConfigValue.Equality
import IdentityStore.ConfigValue.Json
import Std.Data.ExtTreeMap

/-!
# Tables of configuration values

Properties of credential handlers and attributes of contexts are tables: at most one configuration
value under each name.
-/

namespace IdentityStore

abbrev ConfigTable := Std.ExtTreeMap String ConfigValue

namespace ConfigTable

def equal (a b : ConfigTable) : Bool :=
  a.size == b.size && a.toList.all fun p =>
    match b[p.1]? with
    | some w => p.2.equal w
    | none => false

/-- Both tables together. Where both have a name, the value of the second wins. -/
def override (a b : ConfigTable) : ConfigTable := a ∪ b

theorem getElem?_override (a b : ConfigTable) (name : String) :
    (override a b)[name]? = b[name]?.or a[name]? :=
  Std.ExtTreeMap.getElem?_union

def toJson (t : ConfigTable) : Json := .object (ConfigValue.toFields t.toList)

def decode : Json.Decoder ConfigTable
  | .object fields => do return .ofList (← ConfigValue.decodeFields fields)
  | j => Json.Decoder.mismatch j "a map"

end ConfigTable

end IdentityStore
