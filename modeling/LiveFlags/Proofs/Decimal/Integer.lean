import LiveFlags.Decimal.Integer
import LiveFlags.Proofs.Decimal.Digits

/-!
# Which texts are integers of a type

A text is read as an integer of a type exactly if it is a numeral behind an
optional sign and denotes an integer in the range of the type.  Digits only move
a value away from zero, so a value that left the range on the way cannot come
back, and the reader may give up there.
-/

namespace LiveFlags.Decimal

/-- A text of a type with the integer that it denotes.  Only a signed type has
a minus, and then it may stand in front of a zero. -/
inductive Denotes (type : IntegerType) : List Char → Int → Prop
  | plain {digits : List Char} (numeral : IsNumeral digits) :
      Denotes type digits (number digits)
  | plus {digits : List Char} (numeral : IsNumeral digits) :
      Denotes type ('+' :: digits) (number digits)
  | minus {digits : List Char} (signed : type.signed = true)
      (numeral : IsNumeral digits) :
      Denotes type ('-' :: digits) (-(number digits : Int))

/-- Whether an integer lies in the range of a type. -/
def IntegerType.Holds (type : IntegerType) (value : Int) : Prop :=
  type.least ≤ value ∧ value ≤ type.greatest

instance (type : IntegerType) (value : Int) : Decidable (type.Holds value) :=
  inferInstanceAs (Decidable (_ ∧ _))

theorem IntegerType.holds_zero (type : IntegerType) : type.Holds 0 :=
  ⟨type.least_le_zero, type.zero_le_greatest⟩

theorem IntegerType.signed_of_holds_neg {type : IntegerType} {value : Int}
    (held : type.Holds value) (negative : value < 0) : type.signed = true := by
  by_contra unsigned
  have low := held.1
  rw [least, if_neg unsigned] at low
  omega

/-- The integer of a magnitude on one side of zero. -/
def withSign (negative : Bool) (magnitude : Nat) : Int :=
  if negative then -magnitude else magnitude

theorem isDigit_iff {c : Char} : c.isDigit = true ↔ '0' ≤ c ∧ c ≤ '9' := by
  simp [Char.isDigit, Char.le_def]

theorem digit?_of_isDigit {c : Char} (digit : c.isDigit = true) :
    digit? c = some (c.toNat - '0'.toNat) :=
  if_pos (isDigit_iff.mp digit)

theorem digit?_of_not_isDigit {c : Char} (other : ¬ c.isDigit = true) :
    digit? c = none :=
  if_neg fun digit => other (isDigit_iff.mpr digit)

theorem le_ofDigitChars (digits : List Char) (start : Nat) :
    start ≤ Nat.ofDigitChars 10 digits start := by
  induction digits generalizing start with
  | nil => exact Nat.le_refl start
  | cons c rest induction =>
      rw [Nat.ofDigitChars_cons]
      exact Nat.le_trans (by omega) (induction _)

/-- Nothing that lies further from zero is in the range, if something of the
same sign is not. -/
theorem IntegerType.not_holds_of_le {type : IntegerType} {negative : Bool}
    {near far : Nat} (further : near ≤ far)
    (outside : ¬ type.Holds (withSign negative near)) :
    ¬ type.Holds (withSign negative far) := by
  rintro ⟨low, high⟩
  have zero := type.holds_zero
  apply outside
  cases negative with
  | true =>
      simp only [withSign, if_true] at low high ⊢
      exact ⟨by omega, by have := zero.2; omega⟩
  | false =>
      simp only [withSign, Bool.false_eq_true, if_false] at low high ⊢
      exact ⟨by have := zero.1; omega, by omega⟩

theorem withSign_step (negative : Bool) (start digit : Nat) :
    (if negative then 10 * withSign negative start - digit
      else 10 * withSign negative start + digit) =
      withSign negative (10 * start + digit) := by
  cases negative with
  | true =>
      simp only [withSign, if_true]
      omega
  | false =>
      simp only [withSign, Bool.false_eq_true, if_false]
      omega

theorem appendDigits_eq_ok_iff {type : IntegerType} {negative : Bool}
    {digits : List Char} {start : Nat} {value : Int}
    (held : type.Holds (withSign negative start)) :
    appendDigits type negative (withSign negative start) digits = .ok value ↔
      (∀ c ∈ digits, c.isDigit = true) ∧
        value = withSign negative (Nat.ofDigitChars 10 digits start) ∧
        type.Holds value := by
  induction digits generalizing start with
  | nil =>
      rw [appendDigits, Nat.ofDigitChars_nil]
      constructor
      · intro same
        cases same
        exact ⟨by simp, rfl, held⟩
      · rintro ⟨_, rfl, _⟩
        rfl
  | cons c rest induction =>
      by_cases digit : c.isDigit = true
      · rw [appendDigits, digit?_of_isDigit digit]
        simp only [withSign_step, Nat.ofDigitChars_cons]
        by_cases next : type.Holds
            (withSign negative (10 * start + (c.toNat - '0'.toNat)))
        · rw [if_neg (Int.not_lt.mpr next.1), if_neg (Int.not_lt.mpr next.2),
            induction next]
          simp [digit]
        · have stopped : ∀ result : Int,
              withSign negative (Nat.ofDigitChars 10 rest
                (10 * start + (c.toNat - '0'.toNat))) = result →
              ¬ type.Holds result := by
            rintro _ rfl
            exact IntegerType.not_holds_of_le (le_ofDigitChars rest _) next
          constructor
          · intro read
            split at read
            · cases read
            · split at read
              · cases read
              · exact absurd ⟨by omega, by omega⟩ next
          · rintro ⟨_, same, inRange⟩
            exact absurd inRange (stopped value same.symm)
      · rw [appendDigits, digit?_of_not_isDigit digit]
        simp [digit]

theorem not_denotes_nil {type : IntegerType} {value : Int} :
    ¬ Denotes type [] value := by
  rintro ⟨numeral⟩
  exact numeral.1 rfl

theorem denotes_plus {type : IntegerType} {digits : List Char} {value : Int} :
    Denotes type ('+' :: digits) value ↔
      IsNumeral digits ∧ value = number digits := by
  constructor
  · intro denoted
    cases denoted with
    | plain numeral => exact absurd (numeral.2 '+' (by simp)) (by decide)
    | plus numeral => exact ⟨numeral, rfl⟩
  · rintro ⟨numeral, rfl⟩
    exact .plus numeral

theorem denotes_minus {type : IntegerType} {digits : List Char} {value : Int} :
    Denotes type ('-' :: digits) value ↔
      type.signed = true ∧ IsNumeral digits ∧
        value = -(number digits : Int) := by
  constructor
  · intro denoted
    cases denoted with
    | plain numeral => exact absurd (numeral.2 '-' (by simp)) (by decide)
    | minus signed numeral => exact ⟨signed, numeral, rfl⟩
  · rintro ⟨signed, numeral, rfl⟩
    exact .minus signed numeral

theorem denotes_unsigned {type : IntegerType} {chars : List Char} {value : Int}
    (noPlus : chars.head? ≠ some '+') (noMinus : chars.head? ≠ some '-') :
    Denotes type chars value ↔ IsNumeral chars ∧ value = number chars := by
  constructor
  · intro denoted
    cases denoted with
    | plain numeral => exact ⟨numeral, rfl⟩
    | plus => exact absurd rfl noPlus
    | minus => exact absurd rfl noMinus
  · rintro ⟨numeral, rfl⟩
    exact .plain numeral

/-- The digits behind a sign, from the first one on. -/
theorem appendDigits_zero_eq_ok_iff {type : IntegerType} {negative : Bool}
    {digits : List Char} {value : Int} (given : digits ≠ []) :
    appendDigits type negative 0 digits = .ok value ↔
      (IsNumeral digits ∧ value = withSign negative (number digits)) ∧
        type.Holds value := by
  have zero : withSign negative 0 = 0 := by cases negative <;> rfl
  have held := type.holds_zero
  rw [← zero] at held
  rw [← zero, appendDigits_eq_ok_iff held, IsNumeral, number,
    and_iff_right given, and_assoc]

theorem readInteger_eq_ok_iff {type : IntegerType} {chars : List Char}
    {value : Int} :
    readInteger type chars = .ok value ↔
      Denotes type chars value ∧ type.Holds value := by
  unfold readInteger
  split
  · simp [not_denotes_nil]
  · simp [denotes_plus, IsNumeral]
  · simp [denotes_minus, IsNumeral]
  · next digits given =>
      rw [appendDigits_zero_eq_ok_iff given, denotes_plus]
      rfl
  · next digits given =>
      rw [denotes_minus]
      cases signed : type.signed with
      | true =>
          rw [if_pos rfl, appendDigits_zero_eq_ok_iff given, and_iff_right rfl]
          rfl
      | false => simp
  · next given _ _ noPlus noMinus =>
      have unsigned : chars.head? ≠ some '+' ∧ chars.head? ≠ some '-' := by
        cases chars with
        | nil => exact absurd rfl given
        | cons c digits =>
            constructor
            · intro same
              exact noPlus digits (by rw [Option.some.inj same])
            · intro same
              exact noMinus digits (by rw [Option.some.inj same])
      rw [appendDigits_zero_eq_ok_iff given,
        denotes_unsigned unsigned.1 unsigned.2]
      rfl

theorem Denotes.digits_and_signs {type : IntegerType} {chars : List Char}
    {value : Int} (denoted : Denotes type chars value) :
    ∀ c ∈ chars, c.isDigit = true ∨ c = '+' ∨ c = '-' := by
  cases denoted with
  | plain numeral => exact fun c member => .inl (numeral.2 c member)
  | plus numeral =>
      exact List.forall_mem_cons.mpr
        ⟨.inr (.inl rfl), fun c member => .inl (numeral.2 c member)⟩
  | minus _ numeral =>
      exact List.forall_mem_cons.mpr
        ⟨.inr (.inr rfl), fun c member => .inl (numeral.2 c member)⟩

/-- A canonical text is one that any type with the integer reads. -/
theorem IsCanonical.denotes {type : IntegerType} {chars : List Char}
    {value : Int} (canonical : IsCanonical chars value)
    (held : type.Holds value) : Denotes type chars value := by
  cases canonical with
  | zero => exact .plain (by decide)
  | positive numeral => exact .plain numeral
  | @negative digits numeral lead =>
      refine .minus (IntegerType.signed_of_holds_neg held ?_) numeral
      have := number_pos numeral lead
      omega

end LiveFlags.Decimal
