import LiveFlags.Flag.Setting
import LiveFlags.Proofs.Sync.Applying

/-!
# The settings in use are sturdy, steady and atomic

Whether a setting takes an input depends on its type and, for a document, on
the validator of its cell, which are never changed by setting.  Only the
settings that are made to crash do so.
-/

namespace LiveFlags

namespace FlagValue

variable {V : Type} [FlagValue V]

theorem sturdy_of_kept (holds : V → Prop)
    (kept : ∀ value input, holds value → holds (set value input).2)
    (safe : ∀ value input detail, holds value →
      (set value input).1 ≠ .crashed detail)
    {value : V} (held : holds value) : Sturdy value := by
  intro inputs
  induction inputs generalizing value with
  | nil => exact fun input detail => safe value input detail held
  | cons first later induction => exact induction (kept value first held)

theorem steady_of_kept {same : V → V → Prop} (refl : ∀ value, same value value)
    (kept : ∀ value other input, same value other →
      same value (set other input).2)
    (decided : ∀ value other input, same value other →
      (Refuses other input ↔ Refuses value input))
    (value : V) : Steady value := by
  intro inputs input
  have general : ∀ inputs other, same value other →
      same value (afterInputs other inputs) := by
    intro inputs
    induction inputs with
    | nil => exact fun other held => held
    | cons first later induction =>
        exact fun other held => induction _ (kept value other first held)
  exact decided value _ input (general inputs value (refl value))

end FlagValue

namespace Cell

variable {α : Type} [Document α]

theorem candidate_congr {left right : Cell α}
    (same : left.validator = right.validator) (bytes : List UInt8) :
    left.candidate bytes = right.candidate bytes := by
  unfold candidate
  rw [same]

theorem set_cases (cell : Cell α) (input : String) :
    (∃ document, cell.candidate (Wire.bytesOfText input) = .ok document ∧
        cell.set input = (.done, cell.publish document)) ∨
      ∃ error, cell.candidate (Wire.bytesOfText input) = .error error ∧
        cell.set input = (.failed error, cell) := by
  unfold set setBytes
  cases found : cell.candidate (Wire.bytesOfText input) with
  | ok document => exact .inl ⟨document, rfl, rfl⟩
  | error error => exact .inr ⟨error, rfl, rfl⟩

theorem validator_set (cell : Cell α) (input : String) :
    (cell.set input).2.validator = cell.validator := by
  rcases cell.set_cases input with ⟨_, _, done⟩ | ⟨_, _, failed⟩
  · rw [done]
    rfl
  · rw [failed]

theorem atomic (cell : Cell α) : FlagValue.Atomic cell := by
  intro input error failed
  change (cell.set input).1 = _ at failed
  change (cell.set input).2 = cell
  rcases cell.set_cases input with ⟨document, _, done⟩ | ⟨_, _, refused⟩
  · simp [done] at failed
  · simp [refused]

end Cell

namespace Setting

/-- Two settings that take the same inputs because they are of one kind. -/
inductive SameKind : Setting → Setting → Prop
  | scalar {left right : Scalar} (type : left.type = right.type) :
      SameKind (.scalar left) (.scalar right)
  | limits {left right : Cell Limits}
      (validator : left.validator = right.validator) :
      SameKind (.structured (.limits left)) (.structured (.limits right))
  | policy {left right : Cell Policy}
      (validator : left.validator = right.validator) :
      SameKind (.structured (.policy left)) (.structured (.policy right))
  | unseen {left right : Cell Opaque}
      (validator : left.validator = right.validator) :
      SameKind (.structured (.unseen left)) (.structured (.unseen right))
  | refusing (error : Error) : SameKind (.refusing error) (.refusing error)
  | crashing (detail : String) : SameKind (.crashing detail) (.crashing detail)

theorem SameKind.refl (setting : Setting) : SameKind setting setting := by
  cases setting with
  | scalar value => exact .scalar rfl
  | structured value =>
      cases value with
      | limits cell => exact .limits rfl
      | policy cell => exact .policy rfl
      | unseen cell => exact .unseen rfl
  | refusing error => exact .refusing error
  | crashing detail => exact .crashing detail

theorem SameKind.set {left right : Setting} (same : SameKind left right)
    (input : String) : SameKind left (FlagValue.set right input).2 := by
  cases same with
  | scalar type =>
      rename_i first second
      refine .scalar (type.trans ?_)
      change _ = Scalar.type (FlagValue.set second input).2
      cases result : second.set input with
      | ok value =>
          have kept := Scalar.type_of_set result
          simp only [FlagValue.set, result]
          exact kept.symm
      | error error => simp only [FlagValue.set, result]
  | limits validator =>
      exact .limits (validator.trans (Cell.validator_set _ input).symm)
  | policy validator =>
      exact .policy (validator.trans (Cell.validator_set _ input).symm)
  | unseen validator =>
      exact .unseen (validator.trans (Cell.validator_set _ input).symm)
  | refusing error => exact .refusing error
  | crashing detail => exact .crashing detail

end Setting

theorem Scalar.refuses_iff (scalar : Scalar) (input : String) :
    FlagValue.Refuses (Setting.scalar scalar) input ↔
      ∃ fault, read scalar.type (Text.trim input) = .error fault := by
  have outcome : (FlagValue.set (Setting.scalar scalar) input).1 =
      (FlagValue.set scalar input).1 := rfl
  rw [FlagValue.Refuses, outcome]
  simp only [FlagValue.set, Scalar.set]
  cases read scalar.type (Text.trim input) with
  | ok value => simp
  | error fault => simp

theorem Cell.refuses_iff {α : Type} [Document α] (cell : Cell α)
    (input : String) :
    FlagValue.Refuses cell input ↔
      ∃ error, cell.candidate (Wire.bytesOfText input) = .error error := by
  have outcome : (FlagValue.set cell input).1 = (cell.set input).1 := rfl
  rw [FlagValue.Refuses, outcome]
  rcases cell.set_cases input with ⟨document, found, done⟩ |
    ⟨error, found, failed⟩
  · rw [done, found]
    simp
  · rw [failed, found]
    simp

namespace Setting

theorem SameKind.refuses_iff {left right : Setting}
    (same : SameKind left right) (input : String) :
    FlagValue.Refuses right input ↔ FlagValue.Refuses left input := by
  cases same with
  | scalar type => rw [Scalar.refuses_iff, Scalar.refuses_iff, type]
  | @limits first second validator =>
      change FlagValue.Refuses second input ↔ FlagValue.Refuses first input
      rw [Cell.refuses_iff, Cell.refuses_iff, Cell.candidate_congr validator]
  | @policy first second validator =>
      change FlagValue.Refuses second input ↔ FlagValue.Refuses first input
      rw [Cell.refuses_iff, Cell.refuses_iff, Cell.candidate_congr validator]
  | @unseen first second validator =>
      change FlagValue.Refuses second input ↔ FlagValue.Refuses first input
      rw [Cell.refuses_iff, Cell.refuses_iff, Cell.candidate_congr validator]
  | refusing error => rfl
  | crashing detail => rfl

theorem steady (setting : Setting) : FlagValue.Steady setting :=
  FlagValue.steady_of_kept SameKind.refl
    (fun _ _ input same => same.set input)
    (fun _ _ input same => same.refuses_iff input) setting

/-- Whether a setting is made to crash. -/
def isCrashing : Setting → Bool
  | crashing _ => true
  | _ => false

theorem isCrashing_set (setting : Setting) (input : String) :
    (FlagValue.set setting input).2.isCrashing = setting.isCrashing := by
  cases setting with
  | structured value => cases value <;> rfl
  | _ => rfl

theorem not_crashed {setting : Setting} (safe : setting.isCrashing = false)
    (input detail : String) :
    (FlagValue.set setting input).1 ≠ .crashed detail := by
  cases setting with
  | scalar value =>
      have outcome : (FlagValue.set (scalar value) input).1 =
          (FlagValue.set value input).1 := rfl
      rw [outcome]
      simp only [FlagValue.set]
      cases value.set input <;> simp
  | structured value =>
      have cells : ∀ {α : Type} [Document α] (cell : Cell α),
          (cell.set input).1 ≠ .crashed detail := by
        intro α _ cell
        rcases cell.set_cases input with ⟨_, _, done⟩ | ⟨_, _, failed⟩
        · rw [done]
          exact nofun
        · rw [failed]
          exact nofun
      cases value with
      | limits cell => exact cells cell
      | policy cell => exact cells cell
      | unseen cell => exact cells cell
  | refusing error => exact nofun
  | crashing detail => cases safe

theorem sturdy {setting : Setting} (safe : setting.isCrashing = false) :
    FlagValue.Sturdy setting :=
  FlagValue.sturdy_of_kept (fun setting => setting.isCrashing = false)
    (fun setting input safe => (setting.isCrashing_set input).trans safe)
    (fun _ input detail safe => not_crashed safe input detail) safe

theorem atomic (setting : Setting) : FlagValue.Atomic setting := by
  intro input error failed
  cases setting with
  | scalar value =>
      change Setting.scalar (FlagValue.set value input).2 = scalar value
      change (FlagValue.set value input).1 = _ at failed
      cases result : value.set input with
      | ok fresh => simp [FlagValue.set, result] at failed
      | error fault => simp [FlagValue.set, result]
  | structured value =>
      cases value with
      | limits cell =>
          exact congrArg (fun cell => structured (.limits cell))
            (cell.atomic input error failed)
      | policy cell =>
          exact congrArg (fun cell => structured (.policy cell))
            (cell.atomic input error failed)
      | unseen cell =>
          exact congrArg (fun cell => structured (.unseen cell))
            (cell.atomic input error failed)
  | refusing error => rfl
  | crashing detail => rfl

end Setting

/-- A registry with one dynamic switch that is off. -/
def FlagSet.switch (name : String) : FlagSet Setting :=
  FlagSet.empty.replace name { value := .scalar (.bool false), dynamic := true }

namespace FlagSet

theorem switch_every {holds : String → Flag Setting → Prop} {name : String}
    (held : holds name { value := .scalar (.bool false), dynamic := true }) :
    (switch name).Every holds := by
  refine Every.replace ?_ held
  intro other flag found
  cases found

theorem switch_valid {name : String} (valid : Key.isFlagName name = true) :
    (switch name).Every fun name _ => Key.isFlagName name = true :=
  switch_every valid

theorem switch_sturdy (name : String) :
    (switch name).Every fun _ flag => FlagValue.Sturdy flag.value :=
  switch_every (Setting.sturdy rfl)

theorem switch_steady (name : String) :
    (switch name).Every fun _ flag => FlagValue.Steady flag.value :=
  switch_every (Setting.steady _)

end FlagSet

/-- A world with one switch named `a` and an empty store. -/
def World.switch (limit : Nat) : World Setting MemoryStore :=
  { flags := .switch "a", store := .empty limit }

end LiveFlags
