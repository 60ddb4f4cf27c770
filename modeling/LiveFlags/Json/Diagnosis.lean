import LiveFlags.Decimal.Binary64

/-!
# Where a text stops being JSON

The first flaw of a malformed text and its place, by line and by byte within the
line.  The reading goes byte by byte in the order of the text.  A flaw is placed
behind the bytes taken so far, one further when it lies in a byte that was only
looked at.
-/

namespace LiveFlags.Json

open Decimal (Binary64)

/-- What is wrong with a text. -/
inductive FlawKind where
  | endInList
  | endInObject
  | endInString
  | endInValue
  | expectedColon
  | expectedListEnd
  | expectedObjectEnd
  | expectedWord
  | expectedValue
  | invalidEscape
  | invalidNumber
  | numberOutOfRange
  | controlCharacter
  | keyNotString
  | loneSurrogate
  | trailingComma
  | trailingCharacters
  | endOfHexEscape
  | tooDeep
deriving DecidableEq, Repr

def FlawKind.message : FlawKind → String
  | endInList => "EOF while parsing a list"
  | endInObject => "EOF while parsing an object"
  | endInString => "EOF while parsing a string"
  | endInValue => "EOF while parsing a value"
  | expectedColon => "expected `:`"
  | expectedListEnd => "expected `,` or `]`"
  | expectedObjectEnd => "expected `,` or `\x7d`"
  | expectedWord => "expected ident"
  | expectedValue => "expected value"
  | invalidEscape => "invalid escape"
  | invalidNumber => "invalid number"
  | numberOutOfRange => "number out of range"
  | controlCharacter =>
    "control character (\\u0000-\\u001F) found while parsing a string"
  | keyNotString => "key must be a string"
  | loneSurrogate => "lone leading surrogate in hex escape"
  | trailingComma => "trailing comma"
  | trailingCharacters => "trailing characters"
  | endOfHexEscape => "unexpected end of hex escape"
  | tooDeep => "recursion limit exceeded"

/-- What is wrong, and how many bytes follow the place. -/
structure Flaw where
  kind : FlawKind
  remaining : Nat
deriving DecidableEq, Repr

namespace Flaw

/-- The bytes that are left, or a flaw. -/
abbrev Reading := Except Flaw (List UInt8)

/-- A flaw behind the bytes taken so far. -/
def behind {α : Type} (kind : FlawKind) (rest : List UInt8) : Except Flaw α :=
  .error ⟨kind, rest.length⟩

/-- A flaw in the byte that comes next. -/
def atNext {α : Type} (kind : FlawKind) (rest : List UInt8) : Except Flaw α :=
  .error ⟨kind, rest.length - 1⟩

def code (c : Char) : UInt8 := c.toNat.toUInt8

def skipSpaces (bytes : List UInt8) : List UInt8 :=
  bytes.dropWhile fun byte =>
    byte = 0x20 || byte = 0x09 || byte = 0x0a || byte = 0x0d

def isDigit (byte : UInt8) : Bool := 0x30 ≤ byte && byte ≤ 0x39

def skipDigits (bytes : List UInt8) : List UInt8 := bytes.dropWhile isDigit

def word : List UInt8 → List UInt8 → Reading
  | [], bytes => .ok bytes
  | _ :: _, [] => behind .endInValue []
  | expected :: later, byte :: bytes =>
    if byte = expected then word later bytes else behind .expectedWord bytes

/-- Append decimal digits to a significand of 64 bits.  Answers with the
significand, the number of digits taken into it, the number of digits it had no
room for, and what follows. -/
def significand (value taken : Nat) : List UInt8 → Nat × Nat × Nat × List UInt8
  | [] => (value, taken, 0, [])
  | byte :: bytes =>
    if isDigit byte then
      let next := 10 * value + (byte.toNat - 0x30)
      if UInt64.size ≤ next then
        let rest := skipDigits (byte :: bytes)
        (value, taken, (byte :: bytes).length - rest.length, rest)
      else significand next (taken + 1) bytes
    else (value, taken, 0, byte :: bytes)

/-- Whether a significand times a power of ten is beyond the range of doubles.
Both factors are rounded to doubles first, and their product once more, so that
close to the limit the answer can differ from that for the exact number.
Negative powers divide, which never leaves the range. -/
def isUnbounded (value : Nat) (exponent : Int) : Bool :=
  if value = 0 ∨ exponent < 0 then false
  else
    308 < exponent ||
      (Binary64.ofNat value).mul (.ofNat (Nat.pow 10 exponent.toNat)) =
        .infinite false

/-- Check that a number is not beyond the range of doubles. -/
def inRange (value : Nat) (exponent : Int) (rest : List UInt8) : Reading :=
  if isUnbounded value exponent then behind .numberOutOfRange rest else .ok rest

example : isUnbounded 17976931348623157 292 = false := by decide +kernel

example : isUnbounded 17976931348623158 292 = true := by decide +kernel

/-- The exponent that digits spell, as long as it fits 32 bits with a sign. -/
def exponentDigits (value : Nat) : List UInt8 → Option Nat × List UInt8
  | [] => (some value, [])
  | byte :: bytes =>
    if isDigit byte then
      let next := 10 * value + (byte.toNat - 0x30)
      if 0x80000000 ≤ next then (none, bytes) else exponentDigits next bytes
    else (some value, byte :: bytes)

def exponent (value : Nat) (start : Int) (bytes : List UInt8) : Reading :=
  let (negative, bytes) := match bytes with
    | byte :: rest =>
      if byte = code '+' then (false, rest)
      else if byte = code '-' then (true, rest)
      else (false, bytes)
    | [] => (false, [])
  match bytes with
  | [] => behind .endInValue []
  | byte :: rest =>
    if !isDigit byte then behind .invalidNumber rest
    else
      match exponentDigits 0 bytes with
      | (some size, rest) =>
        inRange value (if negative then start - size else start + size) rest
      | (none, rest) =>
        if value ≠ 0 ∧ !negative then behind .numberOutOfRange rest
        else .ok (skipDigits rest)

/-- Take the exponent of a number, if it has one. -/
def optionalExponent (value : Nat) (start : Int) (bytes : List UInt8) :
    Reading :=
  match bytes with
  | byte :: rest =>
    if byte = code 'e' ∨ byte = code 'E' then exponent value start rest
    else inRange value start bytes
  | [] => inRange value start []

/-- Take what follows the whole part of a number. -/
def afterWhole (value : Nat) (start : Int) (bytes : List UInt8) : Reading :=
  match bytes with
  | byte :: rest =>
    if byte = code '.' then
      let (value, taken, dropped, after) := significand value 0 rest
      if taken + dropped = 0 then
        atNext (if after.isEmpty then .endInValue else .invalidNumber) after
      else optionalExponent value (start - taken) after
    else optionalExponent value start bytes
  | [] => optionalExponent value start []

def number (bytes : List UInt8) : Reading :=
  match bytes with
  | [] => behind .endInValue []
  | first :: rest =>
    if first = code '0' then
      match rest with
      | next :: _ =>
        if isDigit next then atNext .invalidNumber rest else afterWhole 0 0 rest
      | [] => .ok []
    else if isDigit first then
      let (value, _, dropped, after) := significand 0 0 bytes
      afterWhole value dropped after
    else behind .invalidNumber rest

def hexDigit? (byte : UInt8) : Option Nat :=
  if isDigit byte then some (byte.toNat - 0x30)
  else if 0x61 ≤ byte ∧ byte ≤ 0x66 then some (byte.toNat - 0x61 + 10)
  else if 0x41 ≤ byte ∧ byte ≤ 0x46 then some (byte.toNat - 0x41 + 10)
  else none

def hexUnit : List UInt8 → Except Flaw (Nat × List UInt8)
  | a :: b :: c :: d :: rest =>
    match hexDigit? a, hexDigit? b, hexDigit? c, hexDigit? d with
    | some a, some b, some c, some d =>
      .ok (((a * 16 + b) * 16 + c) * 16 + d, rest)
    | _, _, _, _ => behind .invalidEscape rest
  | _ => behind .endInString []

/-- Take one expected byte of the escape of a trailing surrogate. -/
def surrogateMark (c : Char) : List UInt8 → Reading
  | [] => behind .endInString []
  | byte :: rest =>
    if byte = code c then .ok rest else behind .endOfHexEscape rest

/-- Take the escape of a unit, and of the unit that completes it to a pair. -/
def unicodeEscape (bytes : List UInt8) : Reading := do
  let (unit, rest) ← hexUnit bytes
  if 0xdc00 ≤ unit ∧ unit ≤ 0xdfff then behind .loneSurrogate rest
  else if 0xd800 ≤ unit ∧ unit < 0xdc00 then
    let rest ← surrogateMark '\\' rest
    let rest ← surrogateMark 'u' rest
    let (second, rest) ← hexUnit rest
    if 0xdc00 ≤ second ∧ second ≤ 0xdfff then .ok rest
    else behind .loneSurrogate rest
  else .ok rest

def escape : List UInt8 → Reading
  | [] => behind .endInString []
  | mark :: rest =>
    if mark = code 'u' then unicodeEscape rest
    else if ("\"\\/bfnrt".toList.map code).contains mark then .ok rest
    else behind .invalidEscape rest

/-- Take a string behind its opening quote; every round takes at least one
byte. -/
def string : Nat → List UInt8 → Reading
  | 0, rest => behind .endInString rest
  | _ + 1, [] => behind .endInString []
  | fuel + 1, byte :: rest =>
    if byte = code '"' then .ok rest
    else if byte = code '\\' then
      match escape rest with
      | .ok rest => string fuel rest
      | .error flaw => .error flaw
    else if byte < 0x20 then behind .controlCharacter rest
    else string fuel rest

/-- How many arrays and objects may lie in each other. -/
def depthLimit : Nat := 127

mutual

def value (depth : Nat) : Nat → List UInt8 → Reading
  | 0, bytes => atNext .tooDeep bytes
  | fuel + 1, bytes =>
    let bytes := skipSpaces bytes
    match bytes with
    | [] => atNext .endInValue []
    | first :: rest =>
      if first = code 'n' then word ("ull".toList.map code) rest
      else if first = code 't' then word ("rue".toList.map code) rest
      else if first = code 'f' then word ("alse".toList.map code) rest
      else if first = code '-' then number rest
      else if isDigit first then number bytes
      else if first = code '"' then string rest.length.succ rest
      else if first = code '[' then
        if depth = 0 then atNext .tooDeep bytes
        else
          match skipSpaces rest with
          | [] => atNext .endInList []
          | next :: after =>
            if next = code ']' then .ok after
            else elements (depth - 1) fuel (next :: after)
      else if first = code '{' then
        if depth = 0 then atNext .tooDeep bytes
        else
          match skipSpaces rest with
          | [] => atNext .endInObject []
          | next :: after =>
            if next = code '}' then .ok after
            else members (depth - 1) fuel (next :: after)
      else atNext .expectedValue bytes

def elements (depth : Nat) : Nat → List UInt8 → Reading
  | 0, bytes => atNext .tooDeep bytes
  | fuel + 1, bytes =>
    match value depth fuel bytes with
    | .error flaw => .error flaw
    | .ok rest =>
      match skipSpaces rest with
      | [] => atNext .endInList []
      | mark :: after =>
        if mark = code ']' then .ok after
        else if mark = code ',' then
          match skipSpaces after with
          | [] => atNext .endInValue []
          | next :: later =>
            if next = code ']' then atNext .trailingComma (next :: later)
            else elements depth fuel (next :: later)
        else atNext .expectedListEnd (mark :: after)

def members (depth : Nat) : Nat → List UInt8 → Reading
  | 0, bytes => atNext .tooDeep bytes
  | _ + 1, [] => atNext .endInValue []
  | fuel + 1, quote :: bytes =>
    if quote ≠ code '"' then atNext .keyNotString (quote :: bytes)
    else
      match string bytes.length.succ bytes with
      | .error flaw => .error flaw
      | .ok rest =>
        match skipSpaces rest with
        | [] => atNext .endInObject []
        | colon :: after =>
          if colon ≠ code ':' then atNext .expectedColon (colon :: after)
          else
            match value depth fuel after with
            | .error flaw => .error flaw
            | .ok rest =>
              match skipSpaces rest with
              | [] => atNext .endInObject []
              | mark :: after =>
                if mark = code '}' then .ok after
                else if mark = code ',' then
                  match skipSpaces after with
                  | [] => atNext .endInValue []
                  | next :: later =>
                    if next = code '}' then
                      atNext .trailingComma (next :: later)
                    else members depth fuel (next :: later)
                else atNext .expectedObjectEnd (mark :: after)

end

def find? (bytes : List UInt8) : Option Flaw :=
  match value depthLimit (2 * bytes.length + 1) bytes with
  | .error flaw => some flaw
  | .ok rest =>
    match skipSpaces rest with
    | [] => none
    | later => some ⟨.trailingCharacters, later.length - 1⟩

/-- The words for a flaw and its place in a text. -/
def describe (bytes : List UInt8) (flaw : Flaw) : String :=
  let before := bytes.take (bytes.length - flaw.remaining)
  let line := 1 + before.count 0x0a
  let column := (before.reverse.takeWhile fun byte => byte ≠ 0x0a).length
  s!"{flaw.kind.message} at line {line} column {column}"

end Flaw

/-- What is wrong with a text and where, if it is no JSON. -/
def diagnose? (text : String) : Option String :=
  let bytes := text.toUTF8.data.toList
  (Flaw.find? bytes).map (Flaw.describe bytes)

end LiveFlags.Json
