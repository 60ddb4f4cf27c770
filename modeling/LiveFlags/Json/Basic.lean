/-!
# JSON values

The values that a JSON text can spell, as far as a reader of settings tells them
apart.  Numbers are integers or not; a string may contain the escape of a lone
surrogate and then names no text.
-/

namespace LiveFlags

/-- A JSON value.  Members of an object keep their order, and a key may occur
more than once. -/
inductive Json where
  | null
  | bool (value : Bool)
  | integer (value : Int)
  /-- A number with a fraction or an exponent, or negative zero: no integer
  field takes it. -/
  | fractional
  /-- A string; `none` when it escapes a lone surrogate and so is no text. -/
  | string (content : Option String)
  | array (elements : List Json)
  | object (members : List (Option String × Json))
deriving Inhabited

namespace Json

def text (content : String) : Json := .string (some content)

def record (fields : List (String × Json)) : Json :=
  .object (fields.map fun field => (some field.1, field.2))

def bool? : Json → Option Bool
  | .bool value => some value
  | _ => none

/-- An integer of at least `least` and at most `greatest`. -/
def integerIn? (least greatest : Int) : Json → Option Int
  | .integer value =>
    if least ≤ value ∧ value ≤ greatest then some value else none
  | _ => none

def natural? (bound : Nat) (json : Json) : Option Nat :=
  (json.integerIn? 0 (bound - 1)).map Int.toNat

def text? : Json → Option String
  | .string content => content
  | _ => none

def nullable? {α : Type} (read : Json → Option α) : Json → Option (Option α)
  | .null => some none
  | json => (read json).map some

/-- An array whose elements all can be read. -/
def list? {α : Type} (read : Json → Option α) : Json → Option (List α)
  | .array elements => elements.mapM read
  | _ => none

/-- An object whose values all can be read, with the keys as they come. -/
def entries? {α : Type} (read : Json → Option α) :
    Json → Option (List (String × α))
  | .object members =>
    members.mapM fun member => do
      let key ← member.1
      let value ← read member.2
      return (key, value)
  | _ => none

/-- The one value of a member: absent when there is none, and a failure when
there are several. -/
def member? (members : List (Option String × Json)) (name : String) :
    Option (Option Json) :=
  match members.filter fun member => member.1 = some name with
  | [] => some none
  | [member] => some (some member.2)
  | _ => none

/-- The values given for the fields of a record, in the order of `names`.  A
record is written as an object, in which a field occurs at most once and other
members are passed over, or as an array of the leading fields. -/
def fields? (names : List String) : Json → Option (List (Option Json))
  | .object members =>
    if members.any fun member => member.1.isNone then none
    else names.mapM (member? members)
  | .array elements =>
    if names.length < elements.length then none
    else
      some (elements.map some ++
        List.replicate (names.length - elements.length) none)
  | _ => none

/-- Read the value given for a field, or take the field's default. -/
def fieldOr {α : Type} (default : α) (read : Json → Option α) :
    Option Json → Option α
  | some json => read json
  | none => some default

end Json

end LiveFlags
