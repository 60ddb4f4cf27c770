import LiveFlags.Error

/-!
# What a flag can hold

A type of values that can be set from a text.  Setting may be refused with any
failure and may even crash; either way the value that is left is part of the
answer.
-/

namespace LiveFlags

/-- The outcome of a call. -/
inductive Outcome where
  | done
  | failed (error : Error)
  | crashed (detail : String)
deriving Inhabited

/-- A type of values that flags can hold. -/
class FlagValue (V : Type) where
  /-- Read a text and make it the value. -/
  set : V → String → Outcome × V
  current : V → String
  /-- A word for the type of the value. -/
  typeName : V → String

end LiveFlags
