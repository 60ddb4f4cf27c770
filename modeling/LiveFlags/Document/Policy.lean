import LiveFlags.Document.Limits
import LiveFlags.SortedMap

/-!
# Policies

Documents with required, optional, repeated and nested fields, and labels sorted
by their names.
-/

namespace LiveFlags

/-- A policy. -/
structure Policy where
  enabled : Bool := false
  offset : Int64 := 0
  name : Option String := none
  ports : List UInt32 := []
  limits : Option Limits := none
  labels : SortedMap String := .empty
deriving DecidableEq, Inhabited

namespace Policy

/-- A value that may be absent, written as null. -/
def orNull {α : Type} (write : α → Json) : Option α → Json
  | some value => write value
  | none => .null

/-- The JSON object with the fields in order. -/
def toJson (policy : Policy) : Json :=
  .record [("enabled", .bool policy.enabled),
    ("offset", .integer policy.offset.toInt),
    ("name", orNull .text policy.name),
    ("ports", .array (policy.ports.map fun number => .integer number.toNat)),
    ("limits", orNull Limits.toJson policy.limits),
    ("labels",
      .record (policy.labels.toList.map fun label => (label.1, .text label.2)))]

def signed? (json : Json) : Option Int64 :=
  (json.integerIn? Int64.minValue.toInt Int64.maxValue.toInt).map Int64.ofInt

def portNumber? (json : Json) : Option UInt32 :=
  (json.natural? UInt32.size).map UInt32.ofNat

/-- A policy from a JSON record; only `enabled` must be there.  Of labels with
one name the last wins. -/
def ofJson? (json : Json) : Option Policy :=
  match json.fields?
    ["enabled", "offset", "name", "ports", "limits", "labels"] with
  | some [enabled, offset, name, ports, limits, labels] => do
    return {
      enabled := ← enabled.bind Json.bool?
      offset := ← Json.fieldOr 0 signed? offset
      name := ← Json.fieldOr none (Json.nullable? Json.text?) name
      ports := ← Json.fieldOr [] (Json.list? portNumber?) ports
      limits := ← Json.fieldOr none (Json.nullable? Limits.ofJson?) limits
      labels := .ofList (← Json.fieldOr [] (Json.entries? Json.text?) labels) }
  | _ => none

/-- Merge one field of a label into its name and value. -/
def mergeLabel (depth : Nat) (key : Wire.Key) (label : String × String)
    (bytes : List UInt8) : Option ((String × String) × List UInt8) :=
  match key.number with
  | 1 => (Wire.expectText key bytes).map fun (name, rest) =>
    ((name, label.2), rest)
  | 2 => (Wire.expectText key bytes).map fun (value, rest) =>
    ((label.1, value), rest)
  | _ => (Wire.skipField depth key bytes).map fun rest => (label, rest)

/-- Merge one field into a policy, other fields passed over within `depth`
groups.  A nested message is merged into the one already there, and a label is
read whatever the wire type of its key says. -/
def mergeWithin (depth : Nat) (key : Wire.Key) (policy : Policy)
    (bytes : List UInt8) : Option (Policy × List UInt8) :=
  match key.number with
  | 1 => (Wire.expectVarint key bytes).map fun (value, rest) =>
    ({ policy with enabled := value ≠ 0 }, rest)
  | 2 => (Wire.expectVarint key bytes).map fun (code, rest) =>
    ({ policy with offset := Int64.ofInt (Wire.unzigzag code) }, rest)
  | 3 => (Wire.expectText key bytes).map fun (name, rest) =>
    ({ policy with name := some name }, rest)
  | 4 => (Wire.expectWords key bytes).map fun (ports, rest) =>
    ({ policy with ports := policy.ports ++ ports }, rest)
  | 5 => do
    let (payload, rest) ← Wire.expectDelimited key bytes
    let limits ← Wire.mergeMessage (Limits.mergeWithin (depth - 1))
      (policy.limits.getD {}) payload
    return ({ policy with limits := some limits }, rest)
  | 6 => do
    let (payload, rest) ← Wire.readDelimited bytes
    let (name, value) ←
      Wire.mergeMessage (mergeLabel (depth - 1)) ("", "") payload
    return ({ policy with labels := policy.labels.insert name value }, rest)
  | _ => (Wire.skipField depth key bytes).map fun rest => (policy, rest)

def labelBytes (label : String × String) : List UInt8 :=
  Wire.writeText 1 label.1 ++ Wire.writeText 2 label.2

/-- The binary form.  Optional fields are written when set, ports in one packed
field, and each label as a message of its own. -/
def toBytes (policy : Policy) : List UInt8 :=
  Wire.writeNumber 1 policy.enabled.toNat ++
    Wire.writeNumber 2 (Wire.zigzag policy.offset.toInt) ++
    (policy.name.elim [] fun name =>
      Wire.writeDelimited 3 (Wire.bytesOfText name)) ++
    (if policy.ports = [] then []
      else Wire.writeDelimited 4
        (policy.ports.flatMap fun number => Wire.writeVarint number.toNat)) ++
    (policy.limits.elim [] fun limits =>
      Wire.writeDelimited 5 limits.toBytes) ++
    policy.labels.toList.flatMap fun label =>
      Wire.writeDelimited 6 (labelBytes label)

instance : Document Policy where
  blank := {}
  ofJson? := ofJson?
  toJson := toJson
  displayable := true
  merge := mergeWithin Wire.nestingLimit
  toBytes := toBytes

/-- The complaint about an enabled policy without a name. -/
def named (policy : Policy) : Option String :=
  if policy.enabled && policy.name.isNone then
    some "enabled policy needs a name"
  else none

end Policy

end LiveFlags
