import LiveFlags.Flag.Scalar
import LiveFlags.Proofs.Decimal.Integer

/-!
# Integer flags

An integer flag takes exactly the integers in the range of its type, in any
text that denotes one and with any blanks around it.  Whatever else it is given
leaves it as it was.  It shows the canonical text of its value, which is always
one that it takes, also at both ends of the range.
-/

namespace LiveFlags

namespace Text

def AllBlank (chars : List Char) : Prop :=
  ∀ c ∈ chars, isBlank c = true

instance (chars : List Char) : Decidable (AllBlank chars) :=
  List.decidableBAll _ chars

def NoneBlank (chars : List Char) : Prop :=
  ∀ c ∈ chars, isBlank c = false

theorem dropWhile_noneBlank {chars : List Char} (visible : NoneBlank chars)
    (nonempty : chars ≠ []) (trailing : List Char) :
    (chars ++ trailing).dropWhile isBlank = chars ++ trailing := by
  cases chars with
  | nil => exact absurd rfl nonempty
  | cons c rest =>
      have first : isBlank c = false := visible c List.mem_cons_self
      exact List.dropWhile_cons_of_neg (by simp [first])

/-- Blanks around a text without any are all that is removed. -/
theorem trimBlanks_surrounded {leading chars trailing : List Char}
    (before : AllBlank leading) (after : AllBlank trailing)
    (visible : NoneBlank chars) (nonempty : chars ≠ []) :
    trimBlanks (leading ++ chars ++ trailing) = chars := by
  have afterReversed : AllBlank trailing.reverse := fun c member =>
    after c (List.mem_reverse.mp member)
  have visibleReversed : NoneBlank chars.reverse := fun c member =>
    visible c (List.mem_reverse.mp member)
  have fromEnd := dropWhile_noneBlank visibleReversed
    (List.reverse_ne_nil_iff.mpr nonempty) []
  rw [List.append_nil] at fromEnd
  rw [trimBlanks, List.append_assoc, List.dropWhile_append_of_pos before,
    dropWhile_noneBlank visible nonempty, List.reverse_append,
    List.dropWhile_append_of_pos afterReversed, fromEnd, List.reverse_reverse]

/-- What is removed from a text are blanks at its ends. -/
theorem exists_trimBlanks (chars : List Char) :
    ∃ leading trailing, chars = leading ++ trimBlanks chars ++ trailing ∧
      AllBlank leading ∧ AllBlank trailing := by
  let rest := chars.dropWhile isBlank
  have front : chars = chars.takeWhile isBlank ++ rest :=
    List.takeWhile_append_dropWhile.symm
  have back : rest = trimBlanks chars ++
      (rest.reverse.takeWhile isBlank).reverse := by
    rw [trimBlanks, ← List.reverse_append, List.takeWhile_append_dropWhile,
      List.reverse_reverse]
  refine ⟨chars.takeWhile isBlank, (rest.reverse.takeWhile isBlank).reverse,
    ?_, ?_, ?_⟩
  · rw [List.append_assoc, ← back]
    exact front
  · exact List.all_eq_true.mp List.all_takeWhile
  · intro c member
    exact List.all_eq_true.mp List.all_takeWhile c (List.mem_reverse.mp member)

theorem isBlank_of_isDigit {c : Char} (digit : c.isDigit = true) :
    isBlank c = false := by
  obtain ⟨low, high⟩ := Char.isDigit_iff_toNat.mp digit
  have zero : '0'.toNat = 48 := rfl
  have nine : '9'.toNat = 57 := rfl
  simp only [isBlank, Bool.or_eq_false_iff, Bool.and_eq_false_iff,
    decide_eq_false_iff_not, beq_eq_false_iff_ne]
  omega

end Text

/-- Whether an input is, but for blanks around it, a text of an integer in the
range of a type. -/
def Decimal.IntegerType.Takes (type : IntegerType) (input : String)
    (value : Int) : Prop :=
  ∃ leading chars trailing : List Char,
    input.toList = leading ++ chars ++ trailing ∧
      Text.AllBlank leading ∧ Text.AllBlank trailing ∧
      Denotes type chars value ∧ type.Holds value

namespace Decimal

/-- The failure of a flag whose input is no integer of its type. -/
def IntegerFault.report (fault : IntegerFault) (input : String) : Error :=
  .parse s!"{Text.quoted input}: {fault.message}"

theorem Denotes.noneBlank {type : IntegerType} {chars : List Char}
    {value : Int} (denoted : Denotes type chars value) :
    Text.NoneBlank chars := by
  intro c member
  rcases denoted.digits_and_signs c member with digit | rfl | rfl
  · exact Text.isBlank_of_isDigit digit
  · rfl
  · rfl

theorem IntegerType.takes_iff {type : IntegerType} {input : String}
    {value : Int} :
    type.Takes input value ↔
      readInteger type (Text.trim input).toList = .ok value := by
  rw [readInteger_eq_ok_iff, Text.trim, String.toList_ofList]
  constructor
  · rintro ⟨leading, chars, trailing, split, before, after, denoted, held⟩
    have nonempty : chars ≠ [] := by
      rintro rfl
      exact not_denotes_nil denoted
    rw [split, Text.trimBlanks_surrounded before after denoted.noneBlank
      nonempty]
    exact ⟨denoted, held⟩
  · rintro ⟨denoted, held⟩
    obtain ⟨leading, trailing, split, before, after⟩ :=
      Text.exists_trimBlanks input.toList
    exact ⟨leading, _, trailing, split, before, after, denoted, held⟩

/-- What an integer is written as is taken by every type that holds it. -/
theorem IntegerType.takes_toString {type : IntegerType} {value : Int}
    (held : type.Holds value) : type.Takes (toString value) value :=
  ⟨[], (toString value).toList, [], by simp, by decide, by decide,
    (isCanonical_toString value).denotes held, held⟩

end Decimal

namespace Scalar

open Decimal (IntegerType)

theorem set_integer_of_takes {type : IntegerType} {input : String}
    {value : Int} (takes : type.Takes input value) (before : Int) :
    FlagValue.set (integer type before) input =
      (.done, integer type value) := by
  have read := IntegerType.takes_iff.mp takes
  simp only [FlagValue.set, Scalar.set, Scalar.type, Scalar.read, read]

theorem set_integer_of_not_takes {type : IntegerType} {input : String}
    (refuses : ∀ value, ¬ type.Takes input value) (before : Int) :
    ∃ fault : Decimal.IntegerFault,
      FlagValue.set (integer type before) input =
        (.failed (fault.report input), integer type before) := by
  cases read : Decimal.readInteger type (Text.trim input).toList with
  | ok value => exact absurd (IntegerType.takes_iff.mpr read) (refuses value)
  | error fault =>
      refine ⟨fault, ?_⟩
      simp only [FlagValue.set, Scalar.set, Scalar.type, Scalar.read, read,
        ScalarFault.message, Decimal.IntegerFault.report]

/-- An integer flag takes the texts of the integers in the range of its type and
nothing else, shows the canonical text of its value, and takes that again. -/
theorem integer_takes (type : IntegerType) (before : Int) (input : String) :
    (∀ value, FlagValue.set (integer type before) input =
        (.done, integer type value) ↔ type.Takes input value) ∧
      ((∀ value, ¬ type.Takes input value) →
        ∃ fault : Decimal.IntegerFault,
          FlagValue.set (integer type before) input =
            (.failed (fault.report input), integer type before)) ∧
      (∀ text, FlagValue.current (integer type before) = text ↔
        Decimal.IsCanonical text.toList before) ∧
      (type.Holds before →
        FlagValue.set (integer type before)
            (FlagValue.current (integer type before)) =
          (.done, integer type before)) := by
  refine ⟨?_, ?_, ?_, ?_⟩
  · intro value
    constructor
    · intro done
      by_cases taken : ∃ other, type.Takes input other
      · obtain ⟨other, takes⟩ := taken
        rw [set_integer_of_takes takes] at done
        cases done
        exact takes
      · obtain ⟨fault, failed⟩ :=
          set_integer_of_not_takes (not_exists.mp taken) before
        rw [failed] at done
        cases done
    · intro takes
      exact set_integer_of_takes takes before
  · intro refuses
    exact set_integer_of_not_takes refuses before
  · intro text
    rw [Decimal.isCanonical_iff, String.toList_inj]
    exact eq_comm
  · intro held
    have shown : FlagValue.current (integer type before) = toString before :=
      rfl
    rw [shown]
    exact set_integer_of_takes (IntegerType.takes_toString held) before

/-- The least integer of a type is taken between blanks and with zeros in
front, an integer below the least is not, and the least shows itself. -/
theorem integer_takes_least :
    FlagValue.set (integer .i64 5) "\u3000-0009223372036854775808\n" =
      (.done, integer .i64 (-9223372036854775808)) ∧
    (∃ fault : Decimal.IntegerFault, FlagValue.set (integer .i8 5) "-129" =
      (.failed (fault.report "-129"), integer .i8 5)) ∧
    FlagValue.set (integer .i8 (-128))
        (FlagValue.current (integer .i8 (-128))) =
      (.done, integer .i8 (-128)) := by
  obtain ⟨takes, _⟩ := integer_takes .i64 5 "\u3000-0009223372036854775808\n"
  obtain ⟨_, refuses, _⟩ := integer_takes .i8 5 "-129"
  obtain ⟨_, _, _, shows⟩ := integer_takes .i8 (-128) ""
  refine ⟨(takes _).mpr ?_, refuses ?_, shows (by decide)⟩
  · exact IntegerType.takes_iff.mpr (by decide +kernel)
  · intro value taken
    have read := IntegerType.takes_iff.mp taken
    have refused : Decimal.readInteger .i8 (Text.trim "-129").toList =
        .error .tooSmall := by decide +kernel
    rw [refused] at read
    cases read

end Scalar

end LiveFlags
