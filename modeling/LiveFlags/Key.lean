/-!
# Keys

Keys of a store are paths with `/` between their segments.  A directory is
implied by the keys below it and is named with a closing separator.
-/

namespace LiveFlags.Key

def separator : Char := '/'

/-- A path with a closing separator, added unless it is there. -/
def asDirectory (path : String) : String :=
  if path.toList.getLast? = some separator then path else path.push separator

def after? : List Char → List Char → Option (List Char)
  | [], chars => some chars
  | _ :: _, [] => none
  | first :: start, c :: chars => if first = c then after? start chars else none

/-- What follows a directory in a key below it. -/
def below? (directory key : String) : Option String :=
  (after? directory.toList key.toList).map String.ofList

def isBelow (directory key : String) : Bool :=
  (below? directory key).isSome

/-- Whether a text has a separator in it. -/
def hasSeparator (text : String) : Bool := text.toList.contains separator

def segments (path : String) : List String :=
  (path.toList.splitOn separator).map String.ofList

/-- Whether a watch of a path is about a key: the key is the path, or lies below
it and the watch looks there. -/
def isWatched (path : String) (recursive : Bool) (key : String) : Bool :=
  key = path || (recursive && isBelow (asDirectory path) key)

/-- Whether a store takes a key: it is neither empty nor a directory. -/
def isStorable (key : String) : Bool :=
  key ≠ "" && key.toList.getLast? ≠ some separator

/-- Whether a text can name a flag: it is one segment and not empty. -/
def isFlagName (name : String) : Bool :=
  name ≠ "" && !hasSeparator name

theorem after?_eq_some_iff {start whole rest : List Char} :
    after? start whole = some rest ↔ whole = start ++ rest := by
  induction start generalizing whole with
  | nil => simp [after?]
  | cons first later ih =>
      cases whole with
      | nil => simp [after?]
      | cons c chars =>
          by_cases same : first = c
          · simp [after?, same, ih]
          · simp [after?, same, Ne.symm same]

theorem below?_eq_some_iff {directory key rest : String} :
    below? directory key = some rest ↔ key = directory ++ rest := by
  rw [below?, Option.map_eq_some_iff, ← String.toList_inj, String.toList_append]
  constructor
  · rintro ⟨chars, found, rfl⟩
    rw [String.toList_ofList, after?_eq_some_iff.mp found]
  · intro split
    exact ⟨rest.toList, after?_eq_some_iff.mpr split, String.ofList_toList⟩

end LiveFlags.Key
