/-!
# Faults in UTF-8

Which bytes may follow a leading byte, and where a byte sequence stops being
UTF-8.  Overlong forms, surrogates and code points above the last one are faults
like any other.
-/

namespace LiveFlags.Text

/-- The first fault of a byte sequence: the number of bytes before it that are
well formed, and the length of the broken sequence, absent when the input ends
inside it. -/
structure Utf8Fault where
  validUpTo : Nat
  brokenLength : Option Nat
deriving DecidableEq, Repr

/-- Bytes from `10000000` to `10111111`. -/
def continuation : Nat × Nat := (0x80, 0xbf)

/-- The ranges that the bytes after a leading byte must lie in; `none` for a
byte that leads nothing. -/
def followers (lead : Nat) : Option (List (Nat × Nat)) :=
  if lead < 0x80 then some []
  else if lead < 0xc2 then none
  else if lead < 0xe0 then some [continuation]
  else if lead = 0xe0 then some [(0xa0, 0xbf), continuation]
  else if lead = 0xed then some [(0x80, 0x9f), continuation]
  else if lead < 0xf0 then some [continuation, continuation]
  else if lead = 0xf0 then some [(0x90, 0xbf), continuation, continuation]
  else if lead < 0xf4 then some [continuation, continuation, continuation]
  else if lead = 0xf4 then some [(0x80, 0x8f), continuation, continuation]
  else none

/-- How the bytes after a leading byte fit their ranges. -/
inductive Following where
  | complete (rest : List UInt8)
  | cutShort
  | brokenAfter (length : Nat)

/-- Match bytes with the ranges they must lie in, `matched` bytes of the
sequence being read. -/
def follow (matched : Nat) : List (Nat × Nat) → List UInt8 → Following
  | [], bytes => .complete bytes
  | _ :: _, [] => .cutShort
  | (low, high) :: ranges, byte :: bytes =>
    if low ≤ byte.toNat && byte.toNat ≤ high then
      follow (matched + 1) ranges bytes
    else .brokenAfter matched

theorem length_le_of_follow {matched : Nat} {ranges : List (Nat × Nat)}
    {bytes rest : List UInt8}
    (complete : follow matched ranges bytes = .complete rest) :
    rest.length ≤ bytes.length := by
  fun_induction follow matched ranges bytes with
  | case1 => cases complete; exact Nat.le_refl _
  | case2 => cases complete
  | case3 matched low high ranges byte bytes fits ih =>
      exact Nat.le_trans (ih complete) (Nat.le_succ _)
  | case4 => cases complete

/-- The first fault in `bytes`, `offset` well-formed bytes having gone
before. -/
def firstFault (offset : Nat) (bytes : List UInt8) : Option Utf8Fault :=
  match bytes with
  | [] => none
  | lead :: tail =>
    match followers lead.toNat with
    | none => some ⟨offset, some 1⟩
    | some ranges =>
      match h : follow 1 ranges tail with
      | .complete rest => firstFault (offset + ranges.length + 1) rest
      | .cutShort => some ⟨offset, none⟩
      | .brokenAfter length => some ⟨offset, some length⟩
termination_by bytes.length
decreasing_by
  have := length_le_of_follow h
  simp only [List.length_cons]
  omega

def Utf8Fault.message (fault : Utf8Fault) : String :=
  match fault.brokenLength with
  | some length =>
    s!"invalid utf-8 sequence of {length} bytes from index {fault.validUpTo}"
  | none => s!"incomplete utf-8 byte sequence from index {fault.validUpTo}"

end LiveFlags.Text
