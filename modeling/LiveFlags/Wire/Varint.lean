/-!
# Variable-length integers

Numbers as bytes of seven bits, lowest first, each byte but the last with its
high bit set, and the zigzag order that puts signed numbers of small size among
the small naturals.
-/

namespace LiveFlags.Wire

def writeVarint (value : Nat) : List UInt8 :=
  if value < 128 then [value.toUInt8]
  else (value % 128 + 128).toUInt8 :: writeVarint (value / 128)
termination_by value
decreasing_by omega

/-- Read a number of at most `room` bytes whose last allowed byte may hold one
bit only. -/
def readVarintWithin : Nat → List UInt8 → Option (Nat × List UInt8)
  | 0, _ => none
  | _ + 1, [] => none
  | room + 1, byte :: rest =>
    if byte.toNat < 128 then
      if room = 0 ∧ 1 < byte.toNat then none else some (byte.toNat, rest)
    else
      (readVarintWithin room rest).map fun (higher, rest) =>
        (byte.toNat - 128 + 128 * higher, rest)

/-- Read a number of 64 bits, in at most ten bytes. -/
def readVarint (bytes : List UInt8) : Option (Nat × List UInt8) :=
  readVarintWithin 10 bytes

/-- The natural number that stands for a signed one. -/
def zigzag (value : Int) : Nat :=
  match value with
  | .ofNat magnitude => 2 * magnitude
  | .negSucc magnitude => 2 * magnitude + 1

/-- The signed number that a natural one stands for. -/
def unzigzag (code : Nat) : Int :=
  if code % 2 = 0 then .ofNat (code / 2) else .negSucc (code / 2)

@[simp]
theorem unzigzag_zigzag (value : Int) : unzigzag (zigzag value) = value := by
  cases value with
  | ofNat magnitude =>
      have even : 2 * magnitude % 2 = 0 := by omega
      have half : 2 * magnitude / 2 = magnitude := by omega
      simp [zigzag, unzigzag, even, half]
  | negSucc magnitude =>
      have odd : (2 * magnitude + 1) % 2 = 1 := by omega
      have half : (2 * magnitude + 1) / 2 = magnitude := by omega
      simp [zigzag, unzigzag, odd, half]

end LiveFlags.Wire
