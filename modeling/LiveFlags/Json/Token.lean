/-!
# JSON tokens

The marks and literals of a JSON text, without the blanks between them, and the
reading of a text into tokens.  Two value tokens side by side never make a
value, so the reading needs no look at what follows a literal.
-/

namespace LiveFlags.Json

/-- A mark or a literal. -/
inductive Token where
  | openBrace
  | closeBrace
  | openBracket
  | closeBracket
  | colon
  | comma
  | null
  | bool (value : Bool)
  | integer (value : Int)
  | fractional
  | string (content : Option String)
deriving DecidableEq, Repr

namespace Token

def isSpace (c : Char) : Bool :=
  c = ' ' || c = '\t' || c = '\n' || c = '\r'

/-- What stands for a piece of a string: a character itself, or a unit of UTF-16
by its number. -/
inductive Piece where
  | char (c : Char)
  | unit (number : Nat)
deriving DecidableEq, Repr

/-- The value of a hexadecimal digit in either case. -/
def hexDigit? (c : Char) : Option Nat :=
  if '0' ≤ c ∧ c ≤ '9' then some (c.toNat - '0'.toNat)
  else if 'a' ≤ c ∧ c ≤ 'f' then some (c.toNat - 'a'.toNat + 10)
  else if 'A' ≤ c ∧ c ≤ 'F' then some (c.toNat - 'A'.toNat + 10)
  else none

def hexUnit? (a b c d : Char) : Option Nat := do
  let a ← hexDigit? a
  let b ← hexDigit? b
  let c ← hexDigit? c
  let d ← hexDigit? d
  return ((a * 16 + b) * 16 + c) * 16 + d

/-- The character that a short escape stands for. -/
def shortEscape? : Char → Option Char
  | '"' => some '"'
  | '\\' => some '\\'
  | '/' => some '/'
  | 'b' => some '\x08'
  | 'f' => some '\x0c'
  | 'n' => some '\n'
  | 'r' => some '\r'
  | 't' => some '\t'
  | _ => none

/-- The pieces of a string up to its closing quote, and what follows the quote.
Raw control characters are refused. -/
def pieces : List Char → Option (List Piece × List Char)
  | [] => none
  | '"' :: rest => some ([], rest)
  | '\\' :: 'u' :: a :: b :: c :: d :: rest => do
    let number ← hexUnit? a b c d
    let (later, rest) ← pieces rest
    return (.unit number :: later, rest)
  | '\\' :: mark :: rest => do
    let c ← shortEscape? mark
    let (later, rest) ← pieces rest
    return (.char c :: later, rest)
  | c :: rest =>
    if c < ' ' ∨ c = '\\' then none
    else do
      let (later, rest) ← pieces rest
      return (.char c :: later, rest)

def isHighSurrogate (number : Nat) : Bool := 0xd800 ≤ number && number < 0xdc00

def isLowSurrogate (number : Nat) : Bool := 0xdc00 ≤ number && number < 0xe000

/-- The text that pieces make; `none` when a surrogate stands alone. -/
def assemble : List Piece → Option (List Char)
  | [] => some []
  | .char c :: rest => (assemble rest).map (c :: ·)
  | .unit high :: .unit low :: rest =>
    if isHighSurrogate high && isLowSurrogate low then
      let code := 0x10000 + (high - 0xd800) * 0x400 + (low - 0xdc00)
      (assemble rest).map (Char.ofNat code :: ·)
    else if isHighSurrogate high || isLowSurrogate high then none
    else (assemble (.unit low :: rest)).map (Char.ofNat high :: ·)
  | .unit number :: rest =>
    if isHighSurrogate number || isLowSurrogate number then none
    else (assemble rest).map (Char.ofNat number :: ·)

/-- The digits at the start of a text. -/
def digits (chars : List Char) : List Char := chars.takeWhile Char.isDigit

/-- What follows the digits at the start of a text. -/
def afterDigits (chars : List Char) : List Char := chars.dropWhile Char.isDigit

def natural (digits : List Char) : Nat :=
  digits.foldl (fun value c => 10 * value + (c.toNat - '0'.toNat)) 0

/-- Pass over the fraction of a number, if there is one; a failure if it has no
digit. -/
def afterFraction : List Char → Option (Bool × List Char)
  | '.' :: rest =>
    if (digits rest).isEmpty then none else some (true, afterDigits rest)
  | rest => some (false, rest)

/-- Pass over the exponent of a number, if there is one; a failure if it has no
digit. -/
def afterExponent : List Char → Option (Bool × List Char)
  | mark :: rest =>
    if mark = 'e' ∨ mark = 'E' then
      let unsigned := match rest with
        | '+' :: rest => rest
        | '-' :: rest => rest
        | rest => rest
      if (digits unsigned).isEmpty then none
      else some (true, afterDigits unsigned)
    else some (false, mark :: rest)
  | [] => some (false, [])

/-- The number at the start of a text, its minus sign already taken.  A leading
zero stands alone. -/
def number (negative : Bool) (chars : List Char) :
    Option (Token × List Char) := do
  let whole := digits chars
  if whole.isEmpty || (whole.head? = some '0' && 1 < whole.length) then none
  else
    let (hasFraction, rest) ← afterFraction (afterDigits chars)
    let (hasExponent, rest) ← afterExponent rest
    let value := natural whole
    if hasFraction || hasExponent || (negative && value = 0) then
      return (.fractional, rest)
    else return (.integer (if negative then -value else value), rest)

/-- The token at the start of a text that does not begin with a space, and what
follows it. -/
def next? : List Char → Option (Token × List Char)
  | '{' :: rest => some (.openBrace, rest)
  | '}' :: rest => some (.closeBrace, rest)
  | '[' :: rest => some (.openBracket, rest)
  | ']' :: rest => some (.closeBracket, rest)
  | ':' :: rest => some (.colon, rest)
  | ',' :: rest => some (.comma, rest)
  | '"' :: rest => do
    let (content, rest) ← pieces rest
    return (.string ((assemble content).map String.ofList), rest)
  | 'n' :: 'u' :: 'l' :: 'l' :: rest => some (.null, rest)
  | 't' :: 'r' :: 'u' :: 'e' :: rest => some (.bool true, rest)
  | 'f' :: 'a' :: 'l' :: 's' :: 'e' :: rest => some (.bool false, rest)
  | '-' :: rest => number true rest
  | chars => number false chars

/-- The tokens of a text, at most `fuel` of them counting spaces. -/
def readUpTo : Nat → List Char → Option (List Token)
  | _, [] => some []
  | 0, _ => none
  | fuel + 1, c :: rest =>
    if isSpace c then readUpTo fuel rest
    else do
      let (token, rest) ← next? (c :: rest)
      let later ← readUpTo fuel rest
      return token :: later

def ofText? (chars : List Char) : Option (List Token) :=
  readUpTo chars.length chars

end Token

end LiveFlags.Json
