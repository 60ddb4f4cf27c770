import LiveFlags.Text.Unprintable

/-!
# Quoted text

How a text is shown inside a message: between double quotes, with a backslash
before the quote and the backslash, the short escapes for line feed, carriage
return, tab and NUL, and the code point in hexadecimal for every other
unprintable character.
-/

namespace LiveFlags.Text

def escaped (c : Char) : List Char :=
  match c with
  | '"' => ['\\', '"']
  | '\\' => ['\\', '\\']
  | '\n' => ['\\', 'n']
  | '\r' => ['\\', 'r']
  | '\t' => ['\\', 't']
  | '\x00' => ['\\', '0']
  | c =>
    if isUnprintable c then ['\\', 'u', '{'] ++ Nat.toDigits 16 c.toNat ++ ['}']
    else [c]

/-- A text between double quotes, every character escaped as needed. -/
def quoted (text : String) : String :=
  String.ofList ('"' :: text.toList.flatMap escaped ++ ['"'])

end LiveFlags.Text
