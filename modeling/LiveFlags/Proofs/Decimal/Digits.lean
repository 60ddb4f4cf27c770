import Mathlib.Data.List.Induction
import Mathlib.Data.Nat.Init

/-!
# Decimal digits

A numeral denotes one number, whatever zeros it starts with.  Of all texts of
an integer one is canonical, and that is the one which is displayed.
-/

namespace LiveFlags.Decimal

theorem exists_toDigits_eq_cons (value : Nat) :
    ∃ digit later, digit < 10 ∧
      Nat.toDigits 10 value = Nat.digitChar digit :: later ∧
        (digit = 0 → value = 0) := by
  induction value using Nat.base_induction 10 (by decide) with
  | single digit small =>
      exact ⟨digit, [], small, Nat.toDigits_of_lt_base small, id⟩
  | digit higher last small positive induction =>
      obtain ⟨digit, later, lead, written, leads⟩ := induction
      refine ⟨digit, later ++ Nat.toDigits 10 last, lead, ?_, ?_⟩
      · rw [← Nat.toDigits_append_toDigits (by decide) positive small, written,
          List.cons_append]
      · intro zero
        have := leads zero
        omega

theorem digitChar_ne_zero {digit : Nat} (small : digit < 10)
    (positive : digit ≠ 0) : Nat.digitChar digit ≠ '0' := by
  revert positive
  revert small
  revert digit
  decide

theorem toList_ofNat (value : Nat) :
    (toString (Int.ofNat value)).toList = Nat.toDigits 10 value :=
  Nat.toList_repr

theorem toList_negSucc (value : Nat) :
    (toString (Int.negSucc value)).toList =
      '-' :: Nat.toDigits 10 (value + 1) := by
  rw [Int.toString_eq_repr, Int.repr_eq_if, if_neg (by omega)]
  simp [Nat.toList_repr, Int.neg_negSucc]

/-- One decimal digit or more. -/
def IsNumeral (digits : List Char) : Prop :=
  digits ≠ [] ∧ ∀ c ∈ digits, c.isDigit = true

instance (digits : List Char) : Decidable (IsNumeral digits) :=
  @instDecidableAnd _ _ inferInstance (List.decidableBAll _ digits)

/-- The number that decimal digits denote. -/
def number (digits : List Char) : Nat :=
  Nat.ofDigitChars 10 digits 0

theorem number_append_singleton (digits : List Char) (last : Char) :
    number (digits ++ [last]) =
      10 * number digits + (last.toNat - '0'.toNat) := by
  rw [number, Nat.ofDigitChars_append, Nat.ofDigitChars_cons,
    Nat.ofDigitChars_nil]
  rfl

theorem isNumeral_toDigits (value : Nat) : IsNumeral (Nat.toDigits 10 value) :=
  ⟨Nat.toDigits_ne_nil, fun _ member =>
    Nat.isDigit_of_mem_toDigits (by decide) (by decide) member⟩

@[simp] theorem number_toDigits (value : Nat) :
    number (Nat.toDigits 10 value) = value :=
  Nat.ofDigitChars_ten_toDigits

theorem head?_toDigits {value : Nat} (positive : value ≠ 0) :
    (Nat.toDigits 10 value).head? ≠ some '0' := by
  obtain ⟨digit, later, small, written, leads⟩ := exists_toDigits_eq_cons value
  rw [written]
  intro lead
  exact digitChar_ne_zero small (fun zero => positive (leads zero))
    (Option.some.inj lead)

theorem digit_lt_ten {c : Char} (digit : c.isDigit = true) :
    c.toNat - '0'.toNat < 10 := by
  obtain ⟨low, high⟩ := Char.isDigit_iff_toNat.mp digit
  exact Nat.sub_lt_right_of_lt_add low (Nat.lt_succ_of_le high)

theorem toDigits_digit {c : Char} (digit : c.isDigit = true) :
    Nat.toDigits 10 (c.toNat - '0'.toNat) = [c] := by
  have written : Nat.digitChar (c.toNat - '0'.toNat) = c := by
    apply Char.toNat_inj.mp
    rw [Nat.toNat_digitChar_of_lt_ten (digit_lt_ten digit)]
    exact Nat.add_sub_of_le (Char.isDigit_iff_toNat.mp digit).1
  rw [Nat.toDigits_of_lt_base (digit_lt_ten digit), written]

theorem pos_of_toDigits_eq {value : Nat} {digits : List Char}
    (written : Nat.toDigits 10 value = digits)
    (lead : digits.head? ≠ some '0') : 0 < value := by
  apply Nat.pos_of_ne_zero
  rintro rfl
  exact lead (by rw [← written]; rfl)

/-- A numeral that does not start with a zero is what its number is written
as. -/
theorem toDigits_number {digits : List Char} (numeral : IsNumeral digits)
    (lead : digits.head? ≠ some '0') :
    Nat.toDigits 10 (number digits) = digits := by
  induction digits using List.reverseRecOn with
  | nil => exact absurd rfl numeral.1
  | append_singleton front last induction =>
      have lastDigit : last.isDigit = true := numeral.2 last (by simp)
      rw [number_append_singleton]
      cases front with
      | nil =>
          rw [number, Nat.ofDigitChars_nil]
          simpa using toDigits_digit lastDigit
      | cons first front =>
          have written := induction
            ⟨List.cons_ne_nil _ _, fun c member =>
              numeral.2 c (List.mem_append_left _ member)⟩ lead
          have positive := pos_of_toDigits_eq written lead
          rw [← Nat.toDigits_append_toDigits (by decide) positive
            (digit_lt_ten lastDigit), written, toDigits_digit lastDigit]

theorem number_pos {digits : List Char} (numeral : IsNumeral digits)
    (lead : digits.head? ≠ some '0') : 0 < number digits :=
  pos_of_toDigits_eq (toDigits_number numeral lead) lead

/-- A text of an integer with nothing to spare: no plus, no zero in front of
another digit, and no minus in front of a zero. -/
inductive IsCanonical : List Char → Int → Prop
  | zero : IsCanonical ['0'] 0
  | positive {digits : List Char} (numeral : IsNumeral digits)
      (lead : digits.head? ≠ some '0') : IsCanonical digits (number digits)
  | negative {digits : List Char} (numeral : IsNumeral digits)
      (lead : digits.head? ≠ some '0') :
      IsCanonical ('-' :: digits) (-(number digits : Int))

theorem isCanonical_toString (value : Int) :
    IsCanonical (toString value).toList value := by
  cases value with
  | ofNat value =>
      rw [toList_ofNat]
      by_cases zero : value = 0
      · rw [zero]
        exact .zero
      · have canonical := IsCanonical.positive (isNumeral_toDigits value)
          (head?_toDigits zero)
        rwa [number_toDigits] at canonical
  | negSucc value =>
      rw [toList_negSucc]
      have canonical := IsCanonical.negative (isNumeral_toDigits (value + 1))
        (head?_toDigits (Nat.succ_ne_zero value))
      rwa [number_toDigits] at canonical

/-- An integer is written in its only canonical form. -/
theorem isCanonical_iff {chars : List Char} {value : Int} :
    IsCanonical chars value ↔ chars = (toString value).toList := by
  constructor
  · intro canonical
    cases canonical with
    | zero => rfl
    | positive numeral lead =>
        exact (toDigits_number numeral lead).symm.trans (toList_ofNat _).symm
    | @negative digits numeral lead =>
        obtain ⟨value, denoted⟩ :=
          Nat.exists_eq_add_one.mpr (number_pos numeral lead)
        have written := toDigits_number numeral lead
        rw [denoted] at written ⊢
        rw [← written]
        exact (toList_negSucc value).symm
  · rintro rfl
    exact isCanonical_toString value

end LiveFlags.Decimal
