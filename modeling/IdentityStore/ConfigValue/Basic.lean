import IdentityStore.Keyed
import IdentityStore.Number.Rounding

/-!
# Configuration values

The values of properties of credential handlers and of attributes of contexts, and the views of a
value as one of another type. Two values are `Reordered` when they have the same content, the order
in maps apart.
-/

namespace IdentityStore

inductive ConfigValue where
  | null
  | bool (b : Bool)
  | integer (i : Int64)
  | float (x : Binary64)
  | string (s : String)
  | array (items : List ConfigValue)
  /-- Values under distinct names, in the order in which the names were first written. -/
  | map (entries : List (String × ConfigValue))
deriving Inhabited

namespace ConfigValue

/-- The map written by a list of entries. A later entry of a name wins. -/
def ofEntries (entries : List (String × ConfigValue)) : ConfigValue :=
  .map (Keyed.ofList entries)

/-- No map in the value, at any depth, has a name twice. -/
inductive WellFormed : ConfigValue → Prop where
  | null : WellFormed .null
  | bool (b : Bool) : WellFormed (.bool b)
  | integer (i : Int64) : WellFormed (.integer i)
  | float (x : Binary64) : WellFormed (.float x)
  | string (s : String) : WellFormed (.string s)
  | array {items : List ConfigValue} (each : ∀ v ∈ items, WellFormed v) :
      WellFormed (.array items)
  | map {entries : List (String × ConfigValue)} (distinct : Keyed.Distinct entries)
      (each : ∀ p ∈ entries, WellFormed p.2) : WellFormed (.map entries)

/-! ## Content -/

/-- A double occurs in a value, at any depth. -/
inductive HoldsFloat (x : Binary64) : ConfigValue → Prop where
  | float : HoldsFloat x (.float x)
  | item {items : List ConfigValue} {v : ConfigValue} (mem : v ∈ items) (holds : HoldsFloat x v) :
      HoldsFloat x (.array items)
  | entry {entries : List (String × ConfigValue)} {p : String × ConfigValue} (mem : p ∈ entries)
      (holds : HoldsFloat x p.2) : HoldsFloat x (.map entries)

/-- Two values have the same shape and the same leaves throughout, doubles bit by bit. At any depth,
the entries of a map may stand in another order. -/
inductive Reordered : ConfigValue → ConfigValue → Prop where
  | null : Reordered .null .null
  | bool (b : Bool) : Reordered (.bool b) (.bool b)
  | integer (i : Int64) : Reordered (.integer i) (.integer i)
  | float (x : Binary64) : Reordered (.float x) (.float x)
  | string (s : String) : Reordered (.string s) (.string s)
  | array {items others : List ConfigValue} (length : others.length = items.length)
      (each : ∀ p ∈ items.zip others, Reordered p.1 p.2) : Reordered (.array items) (.array others)
  | map {entries others : List (String × ConfigValue)}
      (names : (Keyed.names entries).Perm (Keyed.names others))
      (each : ∀ p ∈ entries, ∀ q ∈ others, p.1 = q.1 → Reordered p.2 q.2) :
      Reordered (.map entries) (.map others)

/-! ## Views -/

def isNull : ConfigValue → Bool
  | null => true
  | _ => false

def asBool? : ConfigValue → Option Bool
  | bool b => some b
  | _ => none

/-- The value of a double as an integer of 64 bits. The doubles from `-2^63` to `2^63` that
denote integers have one, and `2^63` itself gives the greatest integer there is. -/
def integerOfFloat? (x : Binary64) : Option Int64 := do
  let n ← x.integer?
  if -0x8000000000000000 ≤ n ∧ n ≤ 0x8000000000000000 then
    some (.ofInt (min n 0x7FFFFFFFFFFFFFFF))
  else none

/-- The value as an integer: an integer itself, or a double without a fraction in range. -/
def asInteger? : ConfigValue → Option Int64
  | integer i => some i
  | float x => integerOfFloat? x
  | _ => none

def asFloat? : ConfigValue → Option Binary64
  | float x => some x
  | integer i => some (.ofInt i.toInt)
  | _ => none

def asString? : ConfigValue → Option String
  | string s => some s
  | _ => none

def asArray? : ConfigValue → Option (List ConfigValue)
  | array items => some items
  | _ => none

def asMap? : ConfigValue → Option (List (String × ConfigValue))
  | map entries => some entries
  | _ => none

def get? (v : ConfigValue) (name : String) : Option ConfigValue :=
  v.asMap?.bind (Keyed.get? · name)

end ConfigValue

/-! ## Conversions -/

/-- The types whose values can be given where a configuration value is wanted. -/
class ToConfigValue (α : Type) where
  toConfigValue : α → ConfigValue

namespace ToConfigValue

instance : ToConfigValue ConfigValue := ⟨id⟩
instance : ToConfigValue Bool := ⟨.bool⟩
instance : ToConfigValue Int32 := ⟨fun i => .integer i.toInt64⟩
instance : ToConfigValue Int64 := ⟨.integer⟩
instance : ToConfigValue UInt32 := ⟨fun n => .integer (.ofNat n.toNat)⟩
instance : ToConfigValue Binary64 := ⟨.float⟩
instance : ToConfigValue String := ⟨.string⟩

variable {α : Type} [ToConfigValue α]

instance : ToConfigValue (List α) := ⟨fun l => .array (l.map toConfigValue)⟩

/-- Values under names. A later value of a name wins. -/
instance : ToConfigValue (List (String × α)) :=
  ⟨fun l => .ofEntries (l.map fun p => (p.1, toConfigValue p.2))⟩

instance : ToConfigValue (Option α) := ⟨fun o => (o.map toConfigValue).getD .null⟩

end ToConfigValue

end IdentityStore
