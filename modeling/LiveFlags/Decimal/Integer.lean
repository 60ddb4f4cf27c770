/-!
# Bounded integers in decimal

The twelve integer types of scalar flags and the reading of a decimal into one
of them.  Digits are taken from left to right, and the first fault met, a
character that is no digit or a value out of range, is the one reported.
-/

namespace LiveFlags.Decimal

/-- The integer types, by signedness and width. -/
inductive IntegerType where
  | i8 | i16 | i32 | i64 | i128 | isize
  | u8 | u16 | u32 | u64 | u128 | usize
deriving DecidableEq, Repr

namespace IntegerType

def signed : IntegerType → Bool
  | i8 | i16 | i32 | i64 | i128 | isize => true
  | u8 | u16 | u32 | u64 | u128 | usize => false

/-- The width; the two word types have 64 bits. -/
def bits : IntegerType → Nat
  | i8 | u8 => 8
  | i16 | u16 => 16
  | i32 | u32 => 32
  | i64 | u64 | isize | usize => 64
  | i128 | u128 => 128

def least (type : IntegerType) : Int :=
  if type.signed then -(Nat.pow 2 (type.bits - 1) : Nat) else 0

def greatest (type : IntegerType) : Int :=
  if type.signed then (Nat.pow 2 (type.bits - 1) : Nat) - 1
  else (Nat.pow 2 type.bits : Nat) - 1

def name : IntegerType → String
  | i8 => "i8"
  | i16 => "i16"
  | i32 => "i32"
  | i64 => "i64"
  | i128 => "i128"
  | isize => "isize"
  | u8 => "u8"
  | u16 => "u16"
  | u32 => "u32"
  | u64 => "u64"
  | u128 => "u128"
  | usize => "usize"

theorem least_le_zero (type : IntegerType) : type.least ≤ 0 := by
  cases type <;> decide

theorem zero_le_greatest (type : IntegerType) : 0 ≤ type.greatest := by
  cases type <;> decide

end IntegerType

/-- Why a text is no integer of a type. -/
inductive IntegerFault where
  | empty
  | invalidDigit
  | tooLarge
  | tooSmall
deriving DecidableEq, Repr

def IntegerFault.message : IntegerFault → String
  | empty => "cannot parse integer from empty string"
  | invalidDigit => "invalid digit found in string"
  | tooLarge => "number too large to fit in target type"
  | tooSmall => "number too small to fit in target type"

def digit? (c : Char) : Option Nat :=
  if '0' ≤ c ∧ c ≤ '9' then some (c.toNat - '0'.toNat) else none

/-- Append digits to a value read so far, away from zero on the side of the
sign. -/
def appendDigits (type : IntegerType) (negative : Bool) :
    Int → List Char → Except IntegerFault Int
  | value, [] => .ok value
  | value, c :: rest =>
    match digit? c with
    | none => .error .invalidDigit
    | some digit =>
      let next := if negative then 10 * value - digit else 10 * value + digit
      if next < type.least then .error .tooSmall
      else if type.greatest < next then .error .tooLarge
      else appendDigits type negative next rest

/-- Read a whole text as an integer: an optional sign, a minus only for a signed
type, then at least one digit. -/
def readInteger (type : IntegerType) (chars : List Char) :
    Except IntegerFault Int :=
  match chars with
  | [] => .error .empty
  | ['+'] | ['-'] => .error .invalidDigit
  | '+' :: digits => appendDigits type false 0 digits
  | '-' :: digits =>
    if type.signed then appendDigits type true 0 digits
    else .error .invalidDigit
  | digits => appendDigits type false 0 digits

end LiveFlags.Decimal
