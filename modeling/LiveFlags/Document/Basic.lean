import LiveFlags.Json.Printer
import LiveFlags.Json.Reader
import LiveFlags.Wire.Field

/-!
# Structured documents

What a type of document offers a flag that holds one: a blank value, a JSON form
and a binary form, each read and written.  A type may refuse to be displayed;
its JSON form then serves inspection only.
-/

namespace LiveFlags

/-- A type of documents with a JSON form and a binary form. -/
class Document (α : Type) where
  /-- The document in which every field has its default. -/
  blank : α
  ofJson? : Json → Option α
  toJson : α → Json
  /-- Whether documents of this type can be displayed. -/
  displayable : Bool
  /-- Merge the payload of one key of the binary form into a document. -/
  merge : Wire.Key → α → List UInt8 → Option (α × List UInt8)
  /-- The binary form: fields in the order of their numbers, defaults left
  out. -/
  toBytes : α → List UInt8

namespace Document

variable {α : Type} [Document α]

def ofText? (text : String) : Option α :=
  (Json.ofText? text).bind ofJson?

/-- The document that a binary message spells, its fields merged into the blank
one. -/
def ofBytes? (bytes : List UInt8) : Option α :=
  Wire.mergeMessage merge blank bytes

/-- The compact JSON text, unless the type refuses to be displayed. -/
def compact? (document : α) : Option String :=
  if displayable α then some (toJson document).compact else none

/-- The JSON text with a line for each field, unless the type refuses to be
displayed. -/
def pretty? (document : α) : Option String :=
  if displayable α then some (toJson document).pretty else none

end Document

end LiveFlags
