import LiveFlags.Decimal.Integer

/-!
# Binary floating point in decimal

Numbers of 53 significant bits: reading a decimal to the nearest of them, ties
to an even significand, multiplying two of them, and writing the fewest decimal
digits that read back.  All work on exact natural numbers.
-/

namespace LiveFlags.Decimal

/-- A double: the finite ones are `significand * 2 ^ exponent`, with a
significand below `2 ^ 53` and the exponent as small as the format allows. -/
inductive Binary64 where
  | nan
  | infinite (negative : Bool)
  | finite (negative : Bool) (significand : Nat) (exponent : Int)
deriving DecidableEq, Repr

namespace Binary64

/-- The exponent of the smallest positive number. -/
def leastExponent : Int := -1074

/-- The exponent of the largest finite numbers. -/
def greatestExponent : Int := 971

/-- The significands of a full exponent start here. -/
def leastSignificand : Nat := Nat.pow 2 52

def zero : Binary64 := .finite false 0 leastExponent

/-- Numerator and denominator of `significand * base ^ exponent`. -/
def ratio (base significand : Nat) (exponent : Int) : Nat × Nat :=
  match exponent with
  | .ofNat power => (significand * Nat.pow base power, 1)
  | .negSucc power => (significand, Nat.pow base (power + 1))

/-- A quotient rounded to the nearest integer, ties to the even one. -/
def divideToEven (numerator denominator : Nat) : Nat :=
  let quotient := numerator / denominator
  let twice := 2 * (numerator % denominator)
  if denominator < twice ∨ (twice = denominator ∧ quotient % 2 = 1) then
    quotient + 1
  else quotient

def ofRatio (negative : Bool) (numerator denominator : Nat) : Binary64 :=
  let guess : Int := (numerator.log2 : Int) - denominator.log2 - 53
  let scaled (exponent : Int) : Nat × Nat :=
    let power := ratio 2 1 exponent
    (numerator * power.2, denominator * power.1)
  let fit := scaled guess
  let needed :=
    if 2 * leastSignificand * fit.2 ≤ fit.1 then guess + 1 else guess
  let exponent := max leastExponent needed
  let target := scaled exponent
  let significand := divideToEven target.1 target.2
  let normal :=
    if significand = 2 * leastSignificand then (leastSignificand, exponent + 1)
    else (significand, exponent)
  if greatestExponent < normal.2 then .infinite negative
  else .finite negative normal.1 normal.2

def ofNat (value : Nat) : Binary64 :=
  if value = 0 then zero else ofRatio false value 1

/-- The double nearest to the exact product of two doubles. -/
def mul (left right : Binary64) : Binary64 :=
  match left, right with
  | nan, _ | _, nan => nan
  | infinite negative, infinite negative' => infinite (negative != negative')
  | infinite negative, finite negative' significand _
  | finite negative' significand _, infinite negative =>
    if significand = 0 then nan else infinite (negative != negative')
  | finite negative significand exponent,
    finite negative' significand' exponent' =>
    if significand * significand' = 0 then
      finite (negative != negative') 0 leastExponent
    else
      let product := ratio 2 (significand * significand') (exponent + exponent')
      ofRatio (negative != negative') product.1 product.2

/-- The double nearest to `digits * 10 ^ exponent`, where `digits` has `width`
decimal digits.  Values far outside the range are settled without computing the
power. -/
def ofDecimal (negative : Bool) (digits width : Nat) (exponent : Int) :
    Binary64 :=
  if digits = 0 then .finite negative 0 leastExponent
  else if 400 < exponent + width then .infinite negative
  else if exponent + width < -400 then .finite negative 0 leastExponent
  else
    let quotient := ratio 10 digits exponent
    ofRatio negative quotient.1 quotient.2

/-- Why a text is no double. -/
inductive Fault where
  | empty
  | invalid
deriving DecidableEq, Repr

def Fault.message : Fault → String
  | empty => "cannot parse float from empty string"
  | invalid => "invalid float literal"

/-- The digits at the start of a text and what follows them. -/
def spanDigits (chars : List Char) : List Nat × List Char :=
  match chars with
  | [] => ([], [])
  | c :: rest =>
    match digit? c with
    | some digit => ((digit :: (spanDigits rest).1), (spanDigits rest).2)
    | none => ([], c :: rest)

def ofDigits (digits : List Nat) : Nat :=
  digits.foldl (fun value digit => 10 * value + digit) 0

/-- The size of a written exponent; once it has reached `2 ^ 16`, further digits
do not count. -/
def exponentSize (digits : List Nat) : Nat :=
  digits.foldl
    (fun value digit => if value < 0x10000 then 10 * value + digit else value) 0

/-- The exponent after the digits of a number: nothing, or `e` with an optional
sign and at least one digit, up to the end of the text. -/
def readExponent (chars : List Char) : Option Int :=
  match chars with
  | [] => some 0
  | mark :: rest =>
    if mark = 'e' ∨ mark = 'E' then
      let (negative, rest) := match rest with
        | '-' :: rest => (true, rest)
        | '+' :: rest => (false, rest)
        | rest => (false, rest)
      match spanDigits rest with
      | ([], _) => none
      | (digits, []) =>
        let size : Int := exponentSize digits
        some (if negative then -size else size)
      | _ => none
    else none

/-- Digits with an optional point among them and an optional exponent. -/
def readMagnitude (negative : Bool) (chars : List Char) : Option Binary64 :=
  let (whole, rest) := spanDigits chars
  let (fraction, rest) := match rest with
    | '.' :: rest => spanDigits rest
    | rest => ([], rest)
  let digits := whole ++ fraction
  if digits.isEmpty then none
  else
    (readExponent rest).map fun exponent =>
      let significant := digits.dropWhile (· = 0)
      ofDecimal negative (ofDigits significant) significant.length
        (exponent - fraction.length)

/-- The words for the values that are not numbers, in any case of letters. -/
def readWord (negative : Bool) (chars : List Char) : Option Binary64 :=
  match String.ofList (chars.map Char.toLower) with
  | "inf" | "infinity" => some (.infinite negative)
  | "nan" => some .nan
  | _ => none

def read (chars : List Char) : Except Fault Binary64 :=
  let (negative, rest) := match chars with
    | '-' :: rest => (true, rest)
    | '+' :: rest => (false, rest)
    | rest => (false, rest)
  if chars.isEmpty then .error .empty
  else
    match (readMagnitude negative rest).orElse
      fun _ => readWord negative rest with
    | some value => .ok value
    | none => .error .invalid

/-- A point of a decimal grid: `count * 10 ^ scale`. -/
structure GridPoint where
  count : Nat
  scale : Int
deriving DecidableEq, Repr

/-- The least power of ten above a positive quotient, found from an estimate. -/
def decimalPosition (numerator denominator : Nat) : Int :=
  let estimate : Int :=
    (((numerator.log2 : Int) - denominator.log2) * 1233) / 4096 - 1
  let above (position : Int) : Bool :=
    let power := ratio 10 1 position
    numerator * power.2 < denominator * power.1
  if above estimate then estimate
  else if above (estimate + 1) then estimate + 1
  else if above (estimate + 2) then estimate + 2
  else estimate + 3

/-- The value in the middle of an interval of reals, all as numerators over one
denominator: the reals that round to a double, its ends included or not. -/
structure Rounding where
  denominator : Nat
  low : Nat
  value : Nat
  high : Nat
  closed : Bool

/-- The reals that round to `significand * 2 ^ exponent`: up to half the gap on
either side, where the gap below the least significand of an exponent is half as
wide, ends included when the significand is even. -/
def Rounding.of (significand : Nat) (exponent : Int) : Rounding :=
  let quotient := ratio 2 significand (exponent - 2)
  let unit := (ratio 2 1 (exponent - 2)).1
  let below :=
    if significand = leastSignificand ∧ leastExponent < exponent then unit
    else 2 * unit
  { denominator := quotient.2
    low := 4 * quotient.1 - below
    value := 4 * quotient.1
    high := 4 * quotient.1 + 2 * unit
    closed := significand % 2 = 0 }

/-- The point of the grid `10 ^ scale` that lies in the interval, the nearer to
the value if both its neighbours do and the upper one of two equally near. -/
def Rounding.nearest (rounding : Rounding) (scale : Int) : Option GridPoint :=
  let power := ratio 10 1 scale
  let numerator := rounding.value * power.2
  let denominator := rounding.denominator * power.1
  let floor := numerator / denominator
  let within (count : Nat) : Bool :=
    let point := count * denominator
    let low := rounding.low * power.2
    let high := rounding.high * power.2
    if rounding.closed then low ≤ point && point ≤ high
    else low < point && point < high
  let lower := within floor
  let upper := within (floor + 1)
  let upperNearer := denominator ≤ 2 * (numerator % denominator)
  if lower && !(upper && upperNearer) then some ⟨floor, scale⟩
  else if upper then some ⟨floor + 1, scale⟩
  else none

/-- The point with the fewest digits that reads back, looked for among `tries`
widths of which `width` is the first. -/
def Rounding.shortest (rounding : Rounding) (position : Int) (width : Nat) :
    Nat → Option GridPoint
  | 0 => none
  | tries + 1 =>
    match rounding.nearest (position - width) with
    | some point => some point
    | none => rounding.shortest position (width + 1) tries

def GridPoint.positional (point : GridPoint) : List Char :=
  let digits := Nat.toDigits 10 point.count
  match point.scale with
  | .ofNat zeros => digits ++ List.replicate zeros '0'
  | .negSucc _ =>
    let places := point.scale.natAbs
    let padded := List.replicate (places + 1 - digits.length) '0' ++ digits
    let whole := padded.take (padded.length - places)
    let fraction := padded.drop (padded.length - places)
    match (fraction.reverse.dropWhile (· = '0')).reverse with
    | [] => whole
    | fraction => whole ++ '.' :: fraction

/-- The shortest decimal that reads back, without an exponent. -/
def text (value : Binary64) : String :=
  match value with
  | nan => "NaN"
  | infinite negative => if negative then "-inf" else "inf"
  | finite negative significand exponent =>
    let magnitude :=
      if significand = 0 then ['0']
      else
        let rounding := Rounding.of significand exponent
        let position := decimalPosition rounding.value rounding.denominator
        match rounding.shortest position 1 17 with
        | some point => point.positional
        | none => []
    String.ofList (if negative then '-' :: magnitude else magnitude)

end Binary64

end LiveFlags.Decimal
