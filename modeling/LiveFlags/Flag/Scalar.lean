import LiveFlags.Decimal.Binary64
import LiveFlags.Flag.Value
import LiveFlags.Text.Blank
import LiveFlags.Text.Quoted

/-!
# Scalar values

Truth values, characters, texts, doubles and bounded integers.  A scalar keeps
its type: an input is read as that type with the blanks around it removed, and
one that cannot be read changes nothing.
-/

namespace LiveFlags

/-- The type of a scalar. -/
inductive ScalarType where
  | bool
  | char
  | string
  | float
  | integer (type : Decimal.IntegerType)
deriving DecidableEq, Repr

def ScalarType.name : ScalarType → String
  | bool => "bool"
  | char => "char"
  | string => "String"
  | float => "f64"
  | integer type => type.name

def ScalarType.all : List ScalarType :=
  [.bool, .char, .string, .float, .integer .i8, .integer .i16, .integer .i32,
    .integer .i64, .integer .i128, .integer .isize, .integer .u8, .integer .u16,
    .integer .u32, .integer .u64, .integer .u128, .integer .usize]

def ScalarType.ofName? (name : String) : Option ScalarType :=
  all.find? fun type => type.name = name

/-- A scalar value. -/
inductive Scalar where
  | bool (value : Bool)
  | char (value : Char)
  | string (value : String)
  | float (value : Decimal.Binary64)
  | integer (type : Decimal.IntegerType) (value : Int)
deriving DecidableEq, Repr

/-- Why an input is no scalar of a type. -/
inductive ScalarFault where
  | notBool
  | noChar
  | manyChars
  | float (fault : Decimal.Binary64.Fault)
  | integer (fault : Decimal.IntegerFault)
deriving DecidableEq, Repr

def ScalarFault.message : ScalarFault → String
  | notBool => "provided string was not `true` or `false`"
  | noChar => "cannot parse char from empty string"
  | manyChars => "too many characters in string"
  | float fault => fault.message
  | integer fault => fault.message

namespace Scalar

def type : Scalar → ScalarType
  | bool _ => .bool
  | char _ => .char
  | string _ => .string
  | float _ => .float
  | integer type _ => .integer type

/-- The value that a flag of a type has unless told otherwise. -/
def default : ScalarType → Scalar
  | .bool => bool false
  | .char => char '\x00'
  | .string => string ""
  | .float => float .zero
  | .integer type => integer type 0

/-- Read a text as a scalar of a type. -/
def read (type : ScalarType) (text : String) : Except ScalarFault Scalar :=
  match type with
  | .bool =>
    if text = "true" then .ok (bool true)
    else if text = "false" then .ok (bool false)
    else .error .notBool
  | .char =>
    match text.toList with
    | [] => .error .noChar
    | [c] => .ok (char c)
    | _ => .error .manyChars
  | .string => .ok (string text)
  | .float =>
    match Decimal.Binary64.read text.toList with
    | .ok value => .ok (float value)
    | .error fault => .error (.float fault)
  | .integer type =>
    match Decimal.readInteger type text.toList with
    | .ok value => .ok (integer type value)
    | .error fault => .error (.integer fault)

def text : Scalar → String
  | bool value => if value then "true" else "false"
  | char value => value.toString
  | string value => value
  | float value => value.text
  | integer _ value => toString value

/-- Read an input as a value of the same type; the failure quotes the input as
it came. -/
def set (scalar : Scalar) (input : String) : Except Error Scalar :=
  match read scalar.type (Text.trim input) with
  | .ok value => .ok value
  | .error fault => .error (.parse s!"{Text.quoted input}: {fault.message}")

/-- Whatever is read has the type it is read as. -/
theorem type_of_read {type : ScalarType} {input : String} {scalar : Scalar}
    (found : read type input = .ok scalar) : scalar.type = type := by
  unfold read at found
  split at found
  · split at found
    · cases found; rfl
    · split at found
      · cases found; rfl
      · cases found
  · split at found
    · cases found
    · cases found; rfl
    · cases found
  · cases found; rfl
  · split at found
    · cases found; rfl
    · cases found
  · split at found
    · cases found; rfl
    · cases found

/-- Setting never changes the type. -/
theorem type_of_set {scalar result : Scalar} {input : String}
    (set : scalar.set input = .ok result) : result.type = scalar.type := by
  unfold Scalar.set at set
  split at set
  · cases set
    exact type_of_read ‹_›
  · cases set

end Scalar

instance : FlagValue Scalar where
  set scalar input := match scalar.set input with
    | .ok value => (.done, value)
    | .error error => (.failed error, scalar)
  current := Scalar.text
  typeName scalar := scalar.type.name

end LiveFlags
