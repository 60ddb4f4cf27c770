import LiveFlags.Document.Opaque
import LiveFlags.Document.Policy
import LiveFlags.Flag.Registry

/-!
# The settings that flags hold

The values in use: scalars, cells for each type of document, and values that
take no input at all.
-/

namespace LiveFlags

/-- A cell for one of the types of documents. -/
inductive Structured where
  | limits (cell : Cell Limits)
  | policy (cell : Cell Policy)
  | unseen (cell : Cell Opaque)

namespace Structured

/-- Look at the cell, whichever documents it holds. -/
def view {β : Type} (look : {α : Type} → [Document α] → Cell α → β) :
    Structured → β
  | limits cell => look cell
  | policy cell => look cell
  | unseen cell => look cell

/-- Change the cell, whichever documents it holds, and answer something. -/
def update {β : Type}
    (change : {α : Type} → [Document α] → Cell α → β × Cell α) :
    Structured → β × Structured
  | limits cell => ((change cell).1, limits (change cell).2)
  | policy cell => ((change cell).1, policy (change cell).2)
  | unseen cell => ((change cell).1, unseen (change cell).2)

/-- Read, validate and publish an input of bytes. -/
def setBytes (structured : Structured) (bytes : List UInt8) :
    Outcome × Structured :=
  structured.update fun cell => cell.setBytes bytes

/-- Read, validate and publish an input of text. -/
def set (structured : Structured) (input : String) : Outcome × Structured :=
  structured.update fun cell => cell.set input

def display (structured : Structured) : String := structured.view Cell.display

/-- The current publication, its document as a JSON value. -/
def current (structured : Structured) : Published Json :=
  structured.view fun cell =>
    ⟨Document.toJson cell.current.document, cell.current.number⟩

/-- Make all calls of the notifier that are owed, with documents as JSON
values. -/
def deliver (structured : Structured) : List (Delivery Json) × Structured :=
  structured.update fun cell =>
    let (deliveries, cell) := cell.deliver
    let shown := deliveries.map fun delivery => match delivery with
      | .observed previous fresh =>
        .observed (Document.toJson previous) (Document.toJson fresh)
      | .crashed detail => .crashed detail
    (shown, cell)

end Structured

instance : FlagValue Structured where
  set := Structured.set
  current := Structured.display
  typeName structured := structured.view fun cell => FlagValue.typeName cell

/-- What a flag holds. -/
inductive Setting where
  | scalar (scalar : Scalar)
  | structured (structured : Structured)
  /-- A value that refuses every input with one failure. -/
  | refusing (error : Error)
  | crashing (detail : String)

namespace Setting

def set (setting : Setting) (input : String) : Outcome × Setting :=
  match setting with
  | scalar value =>
    let (outcome, value) := FlagValue.set value input
    (outcome, scalar value)
  | structured value =>
    let (outcome, value) := value.set input
    (outcome, structured value)
  | refusing error => (.failed error, refusing error)
  | crashing detail => (.crashed detail, crashing detail)

def current : Setting → String
  | scalar value => value.text
  | structured value => value.display
  | refusing _ | crashing _ => "failing"

/-- A word for the type of the value. -/
def typeName : Setting → String
  | scalar value => value.type.name
  | structured value => FlagValue.typeName value
  | refusing _ | crashing _ => "failing"

instance : FlagValue Setting where
  set := set
  current := current
  typeName := typeName

/-- Make all calls of the notifier that are owed. -/
def deliver : Setting → List (Delivery Json) × Setting
  | structured value =>
    let (deliveries, value) := value.deliver
    (deliveries, structured value)
  | setting => ([], setting)

end Setting

namespace FlagSet

/-- Read, validate and publish an input of bytes for a structured flag. -/
def setBytes? (registry : FlagSet Setting) (name : String)
    (bytes : List UInt8) : Option (Outcome × FlagSet Setting) :=
  match registry.lookup? name with
  | some flag =>
    match flag.value with
    | .structured value =>
      let (outcome, value) := value.setBytes bytes
      some (outcome,
        registry.replace name { flag with value := .structured value })
    | _ => none
  | none => none

/-- Make all calls of notifiers that are owed, each with the name of its
flag. -/
def deliver (registry : FlagSet Setting) :
    List (String × Delivery Json) × FlagSet Setting :=
  let deliveries := registry.flags.toList.flatMap fun (name, flag) =>
    flag.value.deliver.1.map fun delivery => (name, delivery)
  (deliveries, ⟨registry.flags.mapValues fun flag =>
    { flag with value := flag.value.deliver.2 }⟩)

end FlagSet

end LiveFlags
