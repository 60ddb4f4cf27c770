import LiveFlags.Flag.Cell
import LiveFlags.Flag.Scalar
import LiveFlags.Key
import LiveFlags.SortedMap

/-!
# The registry of flags

Flags by name, in the order of their names.  A name is one non-empty path
segment and is taken once.  A flag is registered for start-up only and may be
marked as dynamic, which lets a watcher change it.
-/

namespace LiveFlags

/-- A registered flag. -/
structure Flag (V : Type) where
  value : V
  usage : String := ""
  /-- Whether the flag may change after start-up. -/
  dynamic : Bool := false

namespace Flag

variable {V : Type} [FlagValue V]

def set (flag : Flag V) (input : String) : Outcome × Flag V :=
  let (outcome, value) := FlagValue.set flag.value input
  (outcome, { flag with value })

def current (flag : Flag V) : String := FlagValue.current flag.value

/-- The fields of a flag as an inspection shows them. -/
def inspection (name : String) (flag : Flag V) : List (String × String) :=
  [("name", Text.quoted name),
    ("type", Text.quoted (FlagValue.typeName flag.value)),
    ("value", Text.quoted flag.current), ("dynamic", toString flag.dynamic)]

end Flag

/-- Registered flags by name. -/
structure FlagSet (V : Type) where
  flags : SortedMap (Flag V)

namespace FlagSet

variable {V : Type}

def empty : FlagSet V := ⟨.empty⟩

instance : Inhabited (FlagSet V) := ⟨empty⟩

def lookup? (registry : FlagSet V) (name : String) : Option (Flag V) :=
  registry.flags.get? name

def names (registry : FlagSet V) : List String := registry.flags.keys

def contains (registry : FlagSet V) (name : String) : Bool :=
  (registry.lookup? name).isSome

/-- Register a flag under a name that can name a flag and is not taken. -/
def register (registry : FlagSet V) (name : String) (flag : Flag V) :
    Except Error (FlagSet V) :=
  if !Key.isFlagName name then
    .error (.config s!"invalid flag name: {Text.quoted name}")
  else if registry.contains name then .error (.duplicateFlag name)
  else .ok ⟨registry.flags.insert name flag⟩

/-- The registry with another flag under a name. -/
def replace (registry : FlagSet V) (name : String) (flag : Flag V) :
    FlagSet V :=
  ⟨registry.flags.insert name flag⟩

/-- Let a registered flag change after start-up, or not. -/
def setDynamic? (registry : FlagSet V) (name : String) (dynamic : Bool) :
    Option (FlagSet V) :=
  (registry.lookup? name).map fun flag =>
    registry.replace name { flag with dynamic }

def markDynamic (registry : FlagSet V) (name : String) :
    Except Error (FlagSet V) :=
  match registry.setDynamic? name true with
  | some registry => .ok registry
  | none => .error (.flagLookupFailed name)

def set? [FlagValue V] (registry : FlagSet V) (name input : String) :
    Option (Outcome × FlagSet V) :=
  (registry.lookup? name).map fun flag =>
    let (outcome, flag) := flag.set input
    (outcome, registry.replace name flag)

def values [FlagValue V] (registry : FlagSet V) : List (String × String) :=
  registry.flags.toList.map fun entry => (entry.1, entry.2.current)

@[simp]
theorem lookup?_replace (registry : FlagSet V) (name : String) (flag : Flag V)
    (sought : String) :
    (registry.replace name flag).lookup? sought =
      if sought = name then some flag else registry.lookup? sought :=
  SortedMap.get?_insert registry.flags name flag sought

end FlagSet

end LiveFlags
