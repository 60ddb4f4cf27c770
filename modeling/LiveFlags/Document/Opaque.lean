import LiveFlags.Document.Limits

/-!
# Documents that cannot be displayed

A document with a level that is read like any other but has no text of its own.
-/

namespace LiveFlags

/-- A level that is never shown. -/
structure Opaque where
  level : UInt32 := 0
deriving DecidableEq, Repr, Inhabited

namespace Opaque

def toJson (document : Opaque) : Json :=
  .record [("level", .integer document.level.toNat)]

def ofJson? (json : Json) : Option Opaque :=
  match json.fields? ["level"] with
  | some [level] => do return { level := ← Limits.word? level }
  | _ => none

def merge (key : Wire.Key) (document : Opaque) (bytes : List UInt8) :
    Option (Opaque × List UInt8) :=
  match key.number with
  | 1 => (Wire.expectWord key bytes).map fun (level, rest) =>
    ({ document with level }, rest)
  | _ => (Wire.skipField Wire.nestingLimit key bytes).map fun rest =>
    (document, rest)

def toBytes (document : Opaque) : List UInt8 :=
  Wire.writeNumber 1 document.level.toNat

instance : Document Opaque where
  blank := {}
  ofJson? := ofJson?
  toJson := toJson
  displayable := false
  merge := merge
  toBytes := toBytes

def refused (_ : Opaque) : Option String := some ""

end Opaque

end LiveFlags
