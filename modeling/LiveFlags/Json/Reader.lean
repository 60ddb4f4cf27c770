import LiveFlags.Json.Basic
import LiveFlags.Json.Token

/-!
# Reading JSON

From tokens to values, by recursive descent, and from a whole text to the one
value it spells.
-/

namespace LiveFlags.Json

mutual

/-- The value at the start of a token list, and the tokens after it. -/
def readValue : Nat → List Token → Option (Json × List Token)
  | 0, _ => none
  | fuel + 1, tokens =>
    match tokens with
    | .null :: rest => some (.null, rest)
    | .bool value :: rest => some (.bool value, rest)
    | .integer value :: rest => some (.integer value, rest)
    | .fractional :: rest => some (.fractional, rest)
    | .string content :: rest => some (.string content, rest)
    | .openBracket :: .closeBracket :: rest => some (.array [], rest)
    | .openBracket :: rest =>
      (readElements fuel rest).map fun (elements, rest) =>
      (.array elements, rest)
    | .openBrace :: .closeBrace :: rest => some (.object [], rest)
    | .openBrace :: rest => (readMembers fuel rest).map fun (members, rest) =>
      (.object members, rest)
    | _ => none

/-- One or more elements up to the closing bracket. -/
def readElements : Nat → List Token → Option (List Json × List Token)
  | 0, _ => none
  | fuel + 1, tokens =>
    match readValue fuel tokens with
    | some (element, .comma :: rest) =>
      (readElements fuel rest).map fun (elements, rest) =>
      (element :: elements, rest)
    | some (element, .closeBracket :: rest) => some ([element], rest)
    | _ => none

/-- One or more members up to the closing brace. -/
def readMembers :
    Nat → List Token → Option (List (Option String × Json) × List Token)
  | 0, _ => none
  | fuel + 1, .string key :: .colon :: tokens =>
    match readValue fuel tokens with
    | some (value, .comma :: rest) =>
      (readMembers fuel rest).map fun (members, rest) =>
      ((key, value) :: members, rest)
    | some (value, .closeBrace :: rest) => some ([(key, value)], rest)
    | _ => none
  | _ + 1, _ => none

end

/-- The value that a token list spells from its first token to its last. -/
def ofTokens? (tokens : List Token) : Option Json :=
  match readValue (2 * tokens.length + 1) tokens with
  | some (value, []) => some value
  | _ => none

/-- The value that a text spells, with spaces allowed around every token. -/
def ofText? (text : String) : Option Json :=
  (Token.ofText? text.toList).bind ofTokens?

end LiveFlags.Json
