import LiveFlags.Key
import LiveFlags.Sync.Load
import Mathlib.Data.String.Basic

/-!
# Keys below a directory

In key order the keys below a directory stand together: they start at the
directory itself, and a key between two of them is one of them.  A key that a
store takes is never a directory path, and the keys that stand for flags are
the directory followed by the name of a flag.
-/

namespace LiveFlags

namespace Key

/-- Whether a path is written with its closing separator. -/
def IsDirectory (path : String) : Prop :=
  path.toList.getLast? = some separator

instance (path : String) : Decidable (IsDirectory path) :=
  inferInstanceAs (Decidable (_ = _))

theorem isDirectory_asDirectory (path : String) :
    IsDirectory (asDirectory path) := by
  unfold asDirectory
  split
  · assumption
  · simp [IsDirectory]

@[simp] theorem asDirectory_of_isDirectory {path : String}
    (directory : IsDirectory path) : asDirectory path = path :=
  if_pos directory

theorem not_isDirectory_of_isStorable {key : String}
    (storable : isStorable key = true) : ¬ IsDirectory key := by
  simp only [isStorable, Bool.and_eq_true, decide_eq_true_eq] at storable
  exact storable.2

theorem isBelow_iff {directory key : String} :
    isBelow directory key = true ↔ ∃ rest, key = directory ++ rest := by
  rw [isBelow, Option.isSome_iff_exists]
  simp only [below?_eq_some_iff]

/-- A watch of a whole directory is about exactly the keys below it. -/
theorem isWatched_directory {directory key : String}
    (isDirectory : IsDirectory directory) (storable : isStorable key = true) :
    isWatched directory true key = isBelow directory key := by
  have different : key ≠ directory := by
    rintro rfl
    exact not_isDirectory_of_isStorable storable isDirectory
  simp [isWatched, different, isDirectory]

private theorem not_append_lt (start rest : List Char) :
    ¬ start ++ rest < start := by
  induction start with
  | nil => exact List.not_lt_nil rest
  | cons first start induction =>
      rw [List.cons_append, List.cons_lt_cons_iff]
      rintro (smaller | ⟨_, smaller⟩)
      · exact absurd smaller (Std.lt_irrefl)
      · exact induction smaller

private theorem startsWith_of_between (start rest : List Char)
    {middle : List Char} (above : ¬ middle < start)
    (below : middle < start ++ rest) : ∃ tail, middle = start ++ tail := by
  induction start generalizing middle with
  | nil => exact ⟨middle, rfl⟩
  | cons first start induction =>
      cases middle with
      | nil => exact absurd (List.nil_lt_cons first start) above
      | cons c middle =>
          rw [List.cons_lt_cons_iff] at above
          rw [List.cons_append, List.cons_lt_cons_iff] at below
          rcases below with smaller | ⟨rfl, later⟩
          · exact absurd (.inl smaller) above
          · obtain ⟨tail, rfl⟩ :=
              induction (fun smaller => above (.inr ⟨rfl, smaller⟩)) later
            exact ⟨tail, rfl⟩

theorem not_lt_directory {directory key : String}
    (below : isBelow directory key = true) : ¬ key < directory := by
  obtain ⟨rest, rfl⟩ := isBelow_iff.mp below
  rw [String.lt_iff_toList_lt, String.toList_append]
  exact not_append_lt directory.toList rest.toList

/-- Between a directory and a key below it there are only keys below it. -/
theorem isBelow_of_between {directory middle key : String}
    (above : ¬ middle < directory) (before : middle < key)
    (below : isBelow directory key = true) :
    isBelow directory middle = true := by
  obtain ⟨rest, rfl⟩ := isBelow_iff.mp below
  rw [String.lt_iff_toList_lt] at above
  rw [String.lt_iff_toList_lt, String.toList_append] at before
  obtain ⟨tail, same⟩ := startsWith_of_between _ _ above before
  refine isBelow_iff.mpr ⟨String.ofList tail, String.toList_inj.mp ?_⟩
  rw [String.toList_append, String.toList_ofList, same]

end Key

/-- The keys that stand for flags are those of a directory followed by the name
of a flag. -/
theorem flagName_eq_ok_iff {directory key name : String} {isDirectory : Bool} :
    flagName directory key isDirectory = .ok name ↔
      isDirectory = false ∧ key = directory ++ name ∧
        Key.isFlagName name = true := by
  unfold flagName
  cases isDirectory with
  | true => simp
  | false =>
      simp only [Bool.false_eq_true, if_false, true_and]
      cases found : Key.below? directory key with
      | none =>
          simp only [reduceCtorEq, false_iff]
          rintro ⟨rfl, _⟩
          rw [Key.below?_eq_some_iff.mpr rfl] at found
          cases found
      | some rest =>
          obtain rfl := Key.below?_eq_some_iff.mp found
          dsimp only
          by_cases empty : rest = ""
          · simp only [empty, if_true, reduceCtorEq, false_iff]
            rintro ⟨same, valid⟩
            have sameRest := String.append_right_inj directory |>.mp same
            rw [← sameRest] at valid
            simp [Key.isFlagName] at valid
          · rw [if_neg empty]
            by_cases deep : Key.hasSeparator rest = true
            · simp only [deep, if_true, reduceCtorEq, false_iff]
              rintro ⟨same, valid⟩
              have sameRest := String.append_right_inj directory |>.mp same
              rw [← sameRest] at valid
              simp [Key.isFlagName, deep] at valid
            · rw [if_neg deep]
              constructor
              · intro same
                cases same
                simp [Key.isFlagName, empty, deep]
              · rintro ⟨same, _⟩
                rw [String.append_right_inj directory |>.mp same]

theorem flagName_of_isFlagName (directory : String) {name : String}
    (valid : Key.isFlagName name = true) :
    flagName directory (directory ++ name) false = .ok name :=
  flagName_eq_ok_iff.mpr ⟨rfl, rfl, valid⟩

end LiveFlags
