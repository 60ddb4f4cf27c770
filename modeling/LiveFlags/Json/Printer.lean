import LiveFlags.Json.Basic

/-!
# Writing JSON

The compact text of a value and the one with a line for each element and member.
A string escapes the quote, the backslash and the control characters below the
space, nothing else.
-/

namespace LiveFlags.Json

def hexDigit (value : Nat) : Char := Nat.digitChar (value % 16)

def escaped (c : Char) : List Char :=
  match c with
  | '"' => ['\\', '"']
  | '\\' => ['\\', '\\']
  | '\x08' => ['\\', 'b']
  | '\x0c' => ['\\', 'f']
  | '\n' => ['\\', 'n']
  | '\r' => ['\\', 'r']
  | '\t' => ['\\', 't']
  | c =>
    if c < ' ' then
      ['\\', 'u', '0', '0', hexDigit (c.toNat / 16), hexDigit c.toNat]
    else [c]

/-- A string between quotes.  One that is no text is written as a lone
surrogate. -/
def writeString : Option String → List Char
  | some content => '"' :: content.toList.flatMap escaped ++ ['"']
  | none => "\"\\ud800\"".toList

def writeAtom : Json → List Char
  | .null => "null".toList
  | .bool true => "true".toList
  | .bool false => "false".toList
  | .integer value => (toString value).toList
  | .fractional => "0.5".toList
  | .string content => writeString content
  | .array _ => "[]".toList
  | .object _ => ['{', '}']

mutual

def writeCompact : Json → List Char
  | .array elements => '[' :: writeElements elements ++ [']']
  | .object members => '{' :: writeMembers members ++ ['}']
  | atom => writeAtom atom

def writeElements : List Json → List Char
  | [] => []
  | [element] => writeCompact element
  | element :: rest => writeCompact element ++ ',' :: writeElements rest

def writeMembers : List (Option String × Json) → List Char
  | [] => []
  | [(key, value)] => writeString key ++ ':' :: writeCompact value
  | (key, value) :: rest =>
    writeString key ++ ':' :: writeCompact value ++ ',' :: writeMembers rest

end

/-- A line break and two spaces for each level of nesting. -/
def lineBreak (level : Nat) : List Char :=
  '\n' :: List.replicate (2 * level) ' '

mutual

/-- The text of a value with a line for each element and member, at a level of
nesting.  Empty arrays and objects stay on their line. -/
def writePretty (level : Nat) : Json → List Char
  | .array (element :: rest) =>
    '[' :: prettyElements (level + 1) (element :: rest) ++
      lineBreak level ++ [']']
  | .object (member :: rest) =>
    '{' :: prettyMembers (level + 1) (member :: rest) ++
      lineBreak level ++ ['}']
  | atom => writeAtom atom

/-- Elements, each on a line of its own. -/
def prettyElements (level : Nat) : List Json → List Char
  | [] => []
  | [element] => lineBreak level ++ writePretty level element
  | element :: rest =>
    lineBreak level ++ writePretty level element ++
      ',' :: prettyElements level rest

/-- Members, each on a line of its own. -/
def prettyMembers (level : Nat) : List (Option String × Json) → List Char
  | [] => []
  | [(key, value)] =>
    lineBreak level ++ writeString key ++ ':' :: ' ' :: writePretty level value
  | (key, value) :: rest =>
    lineBreak level ++ writeString key ++
      ':' :: ' ' :: writePretty level value ++ ',' :: prettyMembers level rest

end

def compact (json : Json) : String := String.ofList (writeCompact json)

/-- The text with a line for each element and member. -/
def pretty (json : Json) : String := String.ofList (writePretty 0 json)

end LiveFlags.Json
