import LiveFlags.Wire.Varint

/-!
# Fields of a binary message

A message is a sequence of fields, each a key (field number and wire type) and a
payload.  This module reads keys and payloads, passes over fields that a message
does not know, and writes fields.
-/

namespace LiveFlags.Wire

/-- How the payload of a field is laid out. -/
inductive WireType where
  | varint
  | fixed64
  | delimited
  | groupStart
  | groupEnd
  | fixed32
deriving DecidableEq, Repr

/-- The number that stands for a wire type in a key. -/
def WireType.code : WireType → Nat
  | varint => 0
  | fixed64 => 1
  | delimited => 2
  | groupStart => 3
  | groupEnd => 4
  | fixed32 => 5

def WireType.ofCode? : Nat → Option WireType
  | 0 => some varint
  | 1 => some fixed64
  | 2 => some delimited
  | 3 => some groupStart
  | 4 => some groupEnd
  | 5 => some fixed32
  | _ => none

/-- The key in front of a payload. -/
structure Key where
  number : Nat
  type : WireType
deriving DecidableEq, Repr

/-- Read a key: a number of 32 bits whose three lowest tell the wire type and
whose others are a field number above zero. -/
def readKey (bytes : List UInt8) : Option (Key × List UInt8) := do
  let (code, rest) ← readVarint bytes
  if UInt32.size ≤ code ∨ code < 8 then none
  else
    let type ← WireType.ofCode? (code % 8)
    return (⟨code / 8, type⟩, rest)

/-- Drop a fixed number of bytes, all of which must be there. -/
def skipBytes (count : Nat) (bytes : List UInt8) : Option (List UInt8) :=
  if count ≤ bytes.length then some (bytes.drop count) else none

/-- Read a payload that is preceded by its length. -/
def readDelimited (bytes : List UInt8) : Option (List UInt8 × List UInt8) := do
  let (length, rest) ← readVarint bytes
  if length ≤ rest.length then some (rest.take length, rest.drop length)
  else none

/-- Pass over payloads up to the end of the groups that are open, given by their
field numbers, innermost first.  No field may lie in `depth` open groups or
more, and at most `fuel` keys are read. -/
def skipGroups (depth : Nat) : Nat → List Nat → List UInt8 → Option (List UInt8)
  | _, [], bytes => some bytes
  | 0, _ :: _, _ => none
  | fuel + 1, group :: outer, bytes => do
    let (key, rest) ← readKey bytes
    if key.type = .groupEnd then
      if key.number = group then skipGroups depth fuel outer rest else none
    else if depth ≤ outer.length + 1 then none
    else
      match key.type with
      | .varint => skipGroups depth fuel (group :: outer) (← readVarint rest).2
      | .fixed64 => skipGroups depth fuel (group :: outer) (← skipBytes 8 rest)
      | .delimited =>
        skipGroups depth fuel (group :: outer) (← readDelimited rest).2
      | .fixed32 => skipGroups depth fuel (group :: outer) (← skipBytes 4 rest)
      | _ => skipGroups depth fuel (key.number :: group :: outer) rest

/-- Pass over the payload of a field that is not known.  Groups must be
balanced. -/
def skipField (depth : Nat) (key : Key) (bytes : List UInt8) :
    Option (List UInt8) :=
  match key.type with
  | .varint => (readVarint bytes).map Prod.snd
  | .fixed64 => skipBytes 8 bytes
  | .delimited => (readDelimited bytes).map Prod.snd
  | .groupStart => skipGroups depth bytes.length [key.number] bytes
  | .groupEnd => none
  | .fixed32 => skipBytes 4 bytes

/-- How many groups may be open around a field that is passed over in a whole
message. -/
def nestingLimit : Nat := 100

/-- Read a number whose field must have the wire type for it. -/
def expectVarint (key : Key) (bytes : List UInt8) : Option (Nat × List UInt8) :=
  if key.type = .varint then readVarint bytes else none

/-- Read a payload with a length whose field must have the wire type for it. -/
def expectDelimited (key : Key) (bytes : List UInt8) :
    Option (List UInt8 × List UInt8) :=
  if key.type = .delimited then readDelimited bytes else none

def textOfBytes (bytes : List UInt8) : Option String :=
  String.fromUTF8? (ByteArray.mk bytes.toArray)

def expectText (key : Key) (bytes : List UInt8) :
    Option (String × List UInt8) := do
  let (payload, rest) ← expectDelimited key bytes
  return (← textOfBytes payload, rest)

/-- Read a number of 32 bits; higher bits are dropped. -/
def expectWord (key : Key) (bytes : List UInt8) :
    Option (UInt32 × List UInt8) :=
  (expectVarint key bytes).map fun (value, rest) => (UInt32.ofNat value, rest)

/-- Read numbers one after the other to the end of a payload. -/
def readWords : Nat → List UInt8 → Option (List UInt32)
  | _, [] => some []
  | 0, _ :: _ => none
  | fuel + 1, byte :: bytes => do
    let (value, rest) ← readVarint (byte :: bytes)
    let later ← readWords fuel rest
    return UInt32.ofNat value :: later

/-- Read the numbers of a repeated field: all of them packed into one payload,
or a single one. -/
def expectWords (key : Key) (bytes : List UInt8) :
    Option (List UInt32 × List UInt8) :=
  if key.type = .delimited then do
    let (payload, rest) ← readDelimited bytes
    return (← readWords payload.length payload, rest)
  else
    (expectWord key bytes).map fun (value, rest) => ([value], rest)

/-- Merge the fields of a message into a value, each by `merge`, which reads the
payload of one key.  At most `fuel` fields are read. -/
def mergeFields {α : Type}
    (merge : Key → α → List UInt8 → Option (α × List UInt8)) :
    Nat → α → List UInt8 → Option α
  | _, value, [] => some value
  | 0, _, _ :: _ => none
  | fuel + 1, value, byte :: bytes => do
    let (key, rest) ← readKey (byte :: bytes)
    let (value, rest) ← merge key value rest
    mergeFields merge fuel value rest

/-- The value that the fields of a whole message make of an initial value. -/
def mergeMessage {α : Type}
    (merge : Key → α → List UInt8 → Option (α × List UInt8)) (initial : α)
    (bytes : List UInt8) : Option α :=
  mergeFields merge bytes.length initial bytes

def writeKey (key : Key) : List UInt8 :=
  writeVarint (8 * key.number + key.type.code)

/-- A field with a number; zero is left out. -/
def writeNumber (number value : Nat) : List UInt8 :=
  if value = 0 then [] else writeKey ⟨number, .varint⟩ ++ writeVarint value

def writeDelimited (number : Nat) (payload : List UInt8) : List UInt8 :=
  writeKey ⟨number, .delimited⟩ ++ writeVarint payload.length ++ payload

def bytesOfText (text : String) : List UInt8 := text.toUTF8.data.toList

/-- A field with a text; the empty text is left out. -/
def writeText (number : Nat) (text : String) : List UInt8 :=
  if text = "" then [] else writeDelimited number (bytesOfText text)

end LiveFlags.Wire
