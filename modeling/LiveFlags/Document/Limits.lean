import LiveFlags.Document.Basic

/-!
# Rate limits

Documents with a burst, a rate and a tier, and the checks that a flag may put on
them.
-/

namespace LiveFlags

/-- Limits on requests. -/
structure Limits where
  burst : UInt32 := 0
  rate : UInt32 := 0
  tier : String := ""
deriving DecidableEq, Repr, Inhabited

namespace Limits

/-- The JSON object with the fields in order. -/
def toJson (limits : Limits) : Json :=
  .record [("burst", .integer limits.burst.toNat),
    ("rate", .integer limits.rate.toNat), ("tier", .text limits.tier)]

/-- A field of 32 bits that may be left out. -/
def word? : Option Json → Option UInt32 :=
  Json.fieldOr 0 fun json => (json.natural? UInt32.size).map UInt32.ofNat

/-- Limits from a JSON record; what is left out has its default. -/
def ofJson? (json : Json) : Option Limits :=
  match json.fields? ["burst", "rate", "tier"] with
  | some [burst, rate, tier] => do
    return {
      burst := ← word? burst
      rate := ← word? rate
      tier := ← Json.fieldOr "" Json.text? tier }
  | _ => none

/-- Merge one field into limits, other fields passed over within `depth`
groups. -/
def mergeWithin (depth : Nat) (key : Wire.Key) (limits : Limits)
    (bytes : List UInt8) : Option (Limits × List UInt8) :=
  match key.number with
  | 1 => (Wire.expectWord key bytes).map fun (burst, rest) =>
    ({ limits with burst }, rest)
  | 2 => (Wire.expectWord key bytes).map fun (rate, rest) =>
    ({ limits with rate }, rest)
  | 3 => (Wire.expectText key bytes).map fun (tier, rest) =>
    ({ limits with tier }, rest)
  | _ => (Wire.skipField depth key bytes).map fun rest => (limits, rest)

def toBytes (limits : Limits) : List UInt8 :=
  Wire.writeNumber 1 limits.burst.toNat ++
    Wire.writeNumber 2 limits.rate.toNat ++ Wire.writeText 3 limits.tier

instance : Document Limits where
  blank := {}
  ofJson? := ofJson?
  toJson := toJson
  displayable := true
  merge := mergeWithin Wire.nestingLimit
  toBytes := toBytes

def ratePositive (limits : Limits) : Option String :=
  if limits.rate = 0 then some "rate must be positive" else none

/-- The complaint about a rate above a thousand. -/
def rateBounded (limits : Limits) : Option String :=
  if 1000 < limits.rate then some s!"rate {limits.rate.toNat} above 1000"
  else none

/-- The complaint about a burst above the rate. -/
def burstWithinRate (limits : Limits) : Option String :=
  if limits.rate < limits.burst then
    some s!"burst {limits.burst.toNat} exceeds rate {limits.rate.toNat}"
  else none

/-- The complaint about the tier that is never allowed. -/
def tierAllowed (limits : Limits) : Option String :=
  if limits.tier = "bad" then some "tier check failed" else none

end Limits

end LiveFlags
