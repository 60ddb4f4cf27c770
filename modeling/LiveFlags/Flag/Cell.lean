import LiveFlags.Document.Basic
import LiveFlags.Flag.Value
import LiveFlags.Text.Quoted
import LiveFlags.Text.Utf8Fault

/-!
# Cells for structured documents

A cell holds one published document.  An input is read, as JSON if it looks like
an object and as a binary message otherwise, then validated, and only then
published, replacing the document in one step.  Every publication is owed one
call of the notifier, made later with the document before and the document
after.
-/

namespace LiveFlags

/-- What watches a cell for changes. -/
inductive Notifier where
  | recording
  | crashing (detail : String)
deriving DecidableEq, Repr

/-- What came of one call of a notifier. -/
inductive Delivery (α : Type) where
  | observed (previous fresh : α)
  | crashed (detail : String)
deriving Repr

/-- One publication of a document; the number tells it from other publications
of an equal one. -/
structure Published (α : Type) where
  document : α
  number : Nat
deriving DecidableEq, Repr

/-- A holder of one document that can be replaced. -/
structure Cell (α : Type) where
  current : Published α
  /-- The complaint about a document, if there is one. -/
  validator : Option (α → Option String) := none
  notifier : Option Notifier := none
  /-- Changes that the notifier has not been called for, oldest first. -/
  owed : List (α × α) := []

/-- Whether a byte is a blank of ASCII. -/
def isAsciiBlank (byte : UInt8) : Bool :=
  byte = 0x20 || byte = 0x09 || byte = 0x0a || byte = 0x0c || byte = 0x0d

/-- Whether bytes, blanks at the ends aside, begin and end like a JSON
object. -/
def looksLikeObject (bytes : List UInt8) : Bool :=
  (bytes.dropWhile isAsciiBlank).head? = some 0x7b &&
    (bytes.reverse.dropWhile isAsciiBlank).head? = some 0x7d

namespace Cell

variable {α : Type} [Document α]

def create (initial : α) (validator : Option (α → Option String))
    (notifier : Option Notifier) : Cell α :=
  { current := ⟨initial, 0⟩, validator, notifier }

def parse (bytes : List UInt8) : Except Error α :=
  if looksLikeObject bytes then
    match Wire.textOfBytes bytes with
    | none =>
      let fault := (Text.firstFault 0 bytes).map Text.Utf8Fault.message
      let detail := fault.getD omittedDetail
      .error (.parse s!"invalid JSON: {detail}")
    | some text =>
      match Document.ofText? text with
      | some document => .ok document
      | none => .error (.parse s!"invalid JSON: {omittedDetail}")
  else
    match Document.ofBytes? bytes with
    | some document => .ok document
    | none => .error (.parse s!"invalid protobuf: {omittedDetail}")

/-- The document that an input spells, if the validator has no complaint. -/
def candidate (cell : Cell α) (bytes : List UInt8) : Except Error α :=
  match parse bytes with
  | .error error => .error error
  | .ok document =>
    match cell.validator.bind fun complaint => complaint document with
    | some detail => .error (.validation detail)
    | none => .ok document

omit [Document α] in
/-- Replace the document, and owe the notifier a call if there is one. -/
def publish (cell : Cell α) (document : α) : Cell α :=
  { cell with
    current := ⟨document, cell.current.number + 1⟩
    owed :=
      if cell.notifier.isSome then
        cell.owed ++ [(cell.current.document, document)]
      else cell.owed }

/-- Read, validate and publish an input of bytes. -/
def setBytes (cell : Cell α) (bytes : List UInt8) : Outcome × Cell α :=
  match cell.candidate bytes with
  | .ok document => (.done, cell.publish document)
  | .error error => (.failed error, cell)

/-- Read, validate and publish an input of text. -/
def set (cell : Cell α) (input : String) : Outcome × Cell α :=
  cell.setBytes (Wire.bytesOfText input)

/-- Shown in place of a document that cannot be displayed. -/
def displayErrorMark : String := "ERR"

def display (cell : Cell α) : String :=
  (Document.compact? cell.current.document).getD displayErrorMark

/-- The text of the document with a line for each field. -/
def pretty (cell : Cell α) : String :=
  (Document.pretty? cell.current.document).getD displayErrorMark

/-- The fields of a cell as an inspection shows them. -/
def inspection (cell : Cell α) : List (String × String) :=
  [("value", Text.quoted cell.display),
    ("validator", toString cell.validator.isSome),
    ("notifier", toString cell.notifier.isSome)]

omit [Document α] in
/-- Make all calls of the notifier that are owed. -/
def deliver (cell : Cell α) : List (Delivery α) × Cell α :=
  let call (change : α × α) : Delivery α := match cell.notifier with
    | some (.crashing detail) => .crashed detail
    | _ => .observed change.1 change.2
  (cell.owed.map call, { cell with owed := [] })

instance : FlagValue (Cell α) where
  set := set
  current := display
  typeName _ := "dyn_proto_json"

end Cell

/-- A record on one line: its name, and its fields between braces. -/
def inspectLine (name : String) (fields : List (String × String)) : String :=
  let shown := fields.map fun field => field.1 ++ ": " ++ field.2
  name ++ " \x7b " ++ String.intercalate ", " shown ++ " \x7d"

/-- A record with a line for each field. -/
def inspectLines (name : String) (fields : List (String × String)) : String :=
  let lines := fields.map fun field =>
    "    " ++ field.1 ++ ": " ++ field.2 ++ ",\n"
  name ++ " \x7b\n" ++ String.join lines ++ "\x7d"

end LiveFlags
