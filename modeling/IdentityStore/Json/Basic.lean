import IdentityStore.Json.Number
import IdentityStore.Keyed

/-!
# JSON values

A JSON value in memory. The fields of an object have distinct names and stand in the order of the
names (`Json.WellFormed`).
-/

namespace IdentityStore

inductive Json where
  | null
  | bool (b : Bool)
  | number (n : Json.Number)
  | string (s : String)
  | array (items : List Json)
  /-- An object: its fields in the order of their names. -/
  | object (fields : List (String × Json))
deriving Inhabited

namespace Json

/-- The object written by a list of fields. A later field of a name wins. -/
def ofFields (fields : List (String × Json)) : Json :=
  .object (Keyed.sorted (Keyed.ofList fields))

def ofInt64 (i : Int64) : Json := .number (.ofInt64 i)

def ofUInt64 (n : UInt64) : Json := .number (.ofUInt64 n)

/-- A double as a JSON value: JSON has no infinities and no NaN, they become `null`. -/
def ofDouble (x : Binary64) : Json :=
  if h : x.isFinite then .number (.double x h) else .null

def ofOption : Option String → Json
  | none => .null
  | some s => .string s

def Ordered (fields : List (String × Json)) : Prop :=
  (Keyed.names fields).Pairwise (· < ·)

instance (fields : List (String × Json)) : Decidable (Ordered fields) :=
  inferInstanceAs (Decidable (List.Pairwise _ _))

theorem Ordered.distinct {fields : List (String × Json)} (h : Ordered fields) :
    Keyed.Distinct fields :=
  h.imp fun hlt => String.ne_of_lt hlt

theorem Ordered.sorted_eq {fields : List (String × Json)} (h : Ordered fields) :
    Keyed.sorted fields = fields :=
  Keyed.sorted_of_pairwise ((List.pairwise_map.1 h).imp fun hlt =>
    String.not_lt.1 (String.lt_asymm hlt))

theorem ofFields_of_ordered {fields : List (String × Json)} (h : Ordered fields) :
    ofFields fields = .object fields := by
  rw [ofFields, Keyed.ofList_of_distinct h.distinct, h.sorted_eq]

/-- Every object in the value has strictly increasing names. -/
inductive WellFormed : Json → Prop where
  | null : WellFormed .null
  | bool (b : Bool) : WellFormed (.bool b)
  | number (n : Number) : WellFormed (.number n)
  | string (s : String) : WellFormed (.string s)
  | array {items : List Json} (each : ∀ j ∈ items, WellFormed j) : WellFormed (.array items)
  | object {fields : List (String × Json)} (ordered : Ordered fields)
      (each : ∀ p ∈ fields, WellFormed p.2) : WellFormed (.object fields)

end Json

end IdentityStore
