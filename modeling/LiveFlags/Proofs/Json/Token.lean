import LiveFlags.Json.Printer
import LiveFlags.Json.Token
import LiveFlags.Proofs.Decimal.Digits
import Mathlib.Tactic.IntervalCases

/-!
# Texts and the tokens that they spell

A relation says which tokens a text spells, and the reader of tokens follows
it.  A written string is read back with all its escapes, and a written number
is read back in front of whatever cannot go on with it.
-/

namespace LiveFlags.Json

namespace Token

inductive Spells : List Char → List Token → Prop
  | nil : Spells [] []
  | space {c : Char} {rest : List Char} {tokens : List Token}
      (blank : isSpace c = true) (later : Spells rest tokens) :
      Spells (c :: rest) tokens
  | token {text rest : List Char} {token : Token} {tokens : List Token}
      (solid : text.head?.any (fun c => !isSpace c) = true)
      (read : next? (text ++ rest) = some (token, rest))
      (later : Spells rest tokens) : Spells (text ++ rest) (token :: tokens)

theorem readUpTo_of_spells {chars : List Char} {tokens : List Token}
    (spells : Spells chars tokens) {fuel : Nat}
    (enough : chars.length ≤ fuel) : readUpTo fuel chars = some tokens := by
  induction spells generalizing fuel with
  | nil => cases fuel <;> rfl
  | @space c rest tokens blank later induction =>
      cases fuel with
      | zero => simp at enough
      | succ fuel =>
          rw [readUpTo, if_pos blank]
          exact induction (Nat.le_of_succ_le_succ enough)
  | @token text rest token tokens solid read later induction =>
      obtain ⟨first, text, rfl⟩ : ∃ first later, text = first :: later := by
        cases text with
        | nil => cases solid
        | cons first later => exact ⟨first, later, rfl⟩
      have notBlank : ¬ isSpace first = true := by simpa using solid
      cases fuel with
      | zero => simp at enough
      | succ fuel =>
          have within : rest.length ≤ fuel := by
            simp at enough
            omega
          rw [List.cons_append, readUpTo, if_neg notBlank, ← List.cons_append,
            read]
          simp [induction within]

theorem ofText?_of_spells {chars : List Char} {tokens : List Token}
    (spells : Spells chars tokens) : ofText? chars = some tokens :=
  readUpTo_of_spells spells (Nat.le_refl _)

/-- A token of one character. -/
theorem Spells.mark {c : Char} {rest : List Char} {token : Token}
    {tokens : List Token} (solid : isSpace c = false)
    (read : next? (c :: rest) = some (token, rest))
    (later : Spells rest tokens) : Spells (c :: rest) (token :: tokens) :=
  .token (by simp [solid]) (List.singleton_append ▸ read) later

theorem Spells.spaces {blanks rest : List Char} {tokens : List Token}
    (blank : ∀ c ∈ blanks, isSpace c = true) (later : Spells rest tokens) :
    Spells (blanks ++ rest) tokens := by
  induction blanks with
  | nil => exact later
  | cons c blanks induction =>
      obtain ⟨first, others⟩ := List.forall_mem_cons.mp blank
      exact .space first (induction others)

/-! ### Strings -/

/-- The piece of a written string that stands for a character. -/
def Piece.ofChar (c : Char) : Piece :=
  if c < ' ' ∧ c ∉ ['\x08', '\t', '\n', '\x0c', '\r'] then .unit c.toNat
  else .char c

theorem hexUnit?_hexDigit {number : Nat} (small : number < 32) :
    hexUnit? '0' '0' (hexDigit (number / 16)) (hexDigit number) =
      some number := by
  revert small
  revert number
  decide

/-- What follows a character of a written string goes on to be read. -/
theorem pieces_escape {mark c : Char} (short : shortEscape? mark = some c)
    (rest : List Char) :
    pieces ('\\' :: mark :: rest) =
      (pieces rest).map fun (later, rest) => (.char c :: later, rest) := by
  have notUnit : mark ≠ 'u' := by
    rintro rfl
    cases short
  rw [pieces, Option.map_eq_bind]
  · simp [short]
  · intro a b c d later same
    exact absurd same notUnit

theorem pieces_escaped (c : Char) (rest : List Char) :
    pieces (escaped c ++ rest) =
      (pieces rest).map fun (later, rest) => (.ofChar c :: later, rest) := by
  unfold escaped
  split
  · exact pieces_escape rfl rest
  · exact pieces_escape rfl rest
  · exact pieces_escape rfl rest
  · exact pieces_escape rfl rest
  · exact pieces_escape rfl rest
  · exact pieces_escape rfl rest
  · exact pieces_escape rfl rest
  · rename_i quote backslash backspace formFeed newline carriage tab
    split
    · rename_i control
      have number : hexUnit? '0' '0' (hexDigit (c.toNat / 16))
          (hexDigit c.toNat) = some c.toNat := hexUnit?_hexDigit control
      have piece : Piece.ofChar c = .unit c.toNat := by
        apply if_pos
        refine ⟨control, ?_⟩
        simp only [List.mem_cons, List.not_mem_nil, or_false, not_or]
        exact ⟨backspace, tab, newline, formFeed, carriage⟩
      simp only [List.cons_append, List.nil_append, pieces, number, piece]
      rw [Option.map_eq_bind]
      rfl
    · rename_i printable
      have piece : Piece.ofChar c = .char c :=
        if_neg fun control => printable control.1
      have plain : ¬ (c < ' ' ∨ c = '\\') := by
        rintro (control | escape)
        · exact printable control
        · exact backslash escape
      rw [List.singleton_append, pieces, if_neg plain, piece,
        Option.map_eq_bind]
      · rfl
      · exact quote
      · intro a b c d later same
        exact absurd same backslash
      · intro mark later same
        exact absurd same backslash

theorem pieces_flatMap_escaped (content rest : List Char) :
    pieces (content.flatMap escaped ++ '"' :: rest) =
      some (content.map Piece.ofChar, rest) := by
  induction content with
  | nil => rfl
  | cons c content induction =>
      rw [List.flatMap_cons, List.append_assoc, pieces_escaped, induction]
      rfl

theorem assemble_unit {number : Nat}
    (notHigh : isHighSurrogate number = false)
    (notLow : isLowSurrogate number = false) (later : List Piece) :
    assemble (.unit number :: later) =
      (assemble later).map (Char.ofNat number :: ·) := by
  cases later with
  | nil => simp [assemble, notHigh, notLow]
  | cons piece later =>
      cases piece with
      | char c => simp [assemble, notHigh, notLow]
      | unit second =>
          rw [assemble]
          simp [notHigh, notLow]

theorem assemble_map_ofChar (content : List Char) :
    assemble (content.map Piece.ofChar) = some content := by
  induction content with
  | nil => rfl
  | cons c content induction =>
      rw [List.map_cons]
      by_cases control : c < ' ' ∧ c ∉ ['\x08', '\t', '\n', '\x0c', '\r']
      · have small : c.toNat < 32 := control.1
        have notHigh : isHighSurrogate c.toNat = false := by
          simp [isHighSurrogate]
          omega
        have notLow : isLowSurrogate c.toNat = false := by
          simp [isLowSurrogate]
          omega
        rw [Piece.ofChar, if_pos control, assemble_unit notHigh notLow,
          induction, Char.ofNat_toNat]
        rfl
      · rw [Piece.ofChar, if_neg control, assemble, induction]
        rfl

theorem next?_quote (rest : List Char) :
    next? ('"' :: rest) = (pieces rest).bind fun (content, rest) =>
      some (.string ((assemble content).map String.ofList), rest) := by
  simp [next?]

theorem next?_writeString (content : Option String) (rest : List Char) :
    next? (writeString content ++ rest) = some (.string content, rest) := by
  cases content with
  | none =>
      have written : writeString none ++ rest =
          '"' :: '\\' :: 'u' :: 'd' :: '8' :: '0' :: '0' :: '"' :: rest := rfl
      have unit : hexUnit? 'd' '8' '0' '0' = some 0xd800 := by decide
      have read : pieces ('\\' :: 'u' :: 'd' :: '8' :: '0' :: '0' :: '"' ::
          rest) = some ([.unit 0xd800], rest) := by
        simp [pieces, unit]
      rw [written, next?_quote, read]
      rfl
  | some content =>
      have written : writeString (some content) =
          '"' :: content.toList.flatMap escaped ++ ['"'] := rfl
      rw [written, List.append_assoc, List.cons_append, List.singleton_append,
        next?_quote, pieces_flatMap_escaped]
      simp [assemble_map_ofChar]

/-! ### Numbers -/

/-- Whether a character after a digit goes on with the number. -/
def isNumeral (c : Char) : Bool :=
  c.isDigit || c = '.' || c = 'e' || c = 'E'

/-- A number in front of these characters ends before them. -/
def EndsNumber (rest : List Char) : Prop :=
  ∀ c ∈ rest.head?, isNumeral c = false

theorem afterFraction_of_endsNumber {rest : List Char}
    (ends : EndsNumber rest) : afterFraction rest = some (false, rest) := by
  cases rest with
  | nil => rfl
  | cons c rest =>
      have other : c ≠ '.' := by
        rintro rfl
        cases ends '.' rfl
      rw [afterFraction]
      rintro later same
      cases same
      exact other rfl

theorem afterExponent_of_endsNumber {rest : List Char}
    (ends : EndsNumber rest) : afterExponent rest = some (false, rest) := by
  cases rest with
  | nil => rfl
  | cons c rest =>
      have plain := ends c rfl
      refine if_neg ?_
      rintro (rfl | rfl) <;> cases plain

theorem digits_append {whole rest : List Char}
    (all : ∀ c ∈ whole, c.isDigit = true) (ends : EndsNumber rest) :
    digits (whole ++ rest) = whole ∧ afterDigits (whole ++ rest) = rest := by
  have stops : ∀ c ∈ rest.head?, c.isDigit = false := by
    intro c first
    have plain := ends c first
    simp only [isNumeral, Bool.or_eq_false_iff] at plain
    exact plain.1.1.1
  rw [digits, afterDigits, List.takeWhile_append_of_pos all,
    List.dropWhile_append_of_pos all]
  cases rest with
  | nil => exact ⟨List.append_nil _, rfl⟩
  | cons c rest => simp [stops c rfl]

theorem number_toDigits (negative : Bool) (value : Nat) {rest : List Char}
    (ends : EndsNumber rest) :
    number negative (Nat.toDigits 10 value ++ rest) =
      some (if negative && value = 0 then .fractional
        else .integer (if negative then -value else value), rest) := by
  have numeral := Decimal.isNumeral_toDigits value
  obtain ⟨whole, after⟩ := digits_append numeral.2 ends
  have read : natural (Nat.toDigits 10 value) = value :=
    Decimal.number_toDigits value
  have canonical : ((Nat.toDigits 10 value).isEmpty ||
      ((Nat.toDigits 10 value).head? = some '0' &&
        1 < (Nat.toDigits 10 value).length)) = false := by
    by_cases zero : value = 0
    · rw [zero]
      rfl
    · simp [numeral.1, Decimal.head?_toDigits zero]
  rw [number]
  simp only [whole, canonical, after, afterFraction_of_endsNumber ends, read]
  simp only [Bool.false_eq_true, if_false, Option.bind_eq_bind,
    Option.bind_some, afterExponent_of_endsNumber ends]
  cases negative <;> by_cases zero : value = 0 <;> simp [zero]

theorem next?_digitChar {digit : Nat} (small : digit < 10)
    (rest : List Char) :
    next? (Nat.digitChar digit :: rest) =
      number false (Nat.digitChar digit :: rest) := by
  interval_cases digit <;> rfl

theorem isSpace_digitChar {digit : Nat} (small : digit < 10) :
    isSpace (Nat.digitChar digit) = false := by
  revert small
  revert digit
  decide

theorem head?_integer (value : Int) :
    (toString value).toList.head?.any (fun c => !isSpace c) = true := by
  cases value with
  | ofNat value =>
      obtain ⟨digit, later, small, lead, _⟩ :=
        Decimal.exists_toDigits_eq_cons value
      rw [Decimal.toList_ofNat, lead]
      simp [isSpace_digitChar small]
  | negSucc value =>
      rw [Decimal.toList_negSucc]
      rfl

theorem next?_integer (value : Int) {rest : List Char}
    (ends : EndsNumber rest) :
    next? ((toString value).toList ++ rest) = some (.integer value, rest) := by
  cases value with
  | ofNat value =>
      obtain ⟨digit, later, small, lead, _⟩ :=
        Decimal.exists_toDigits_eq_cons value
      have reads : next? (Nat.toDigits 10 value ++ rest) =
          number false (Nat.toDigits 10 value ++ rest) := by
        rw [lead, List.cons_append, next?_digitChar small]
      rw [Decimal.toList_ofNat, reads, number_toDigits false value ends]
      simp
  | negSucc value =>
      have reads : next? ('-' :: (Nat.toDigits 10 (value + 1) ++ rest)) =
          number true (Nat.toDigits 10 (value + 1) ++ rest) := by
        simp [next?]
      rw [Decimal.toList_negSucc, List.cons_append, reads,
        number_toDigits true _ ends]
      simp [Int.negSucc_eq]

theorem next?_fractional {rest : List Char} (ends : EndsNumber rest) :
    next? ("0.5".toList ++ rest) = some (.fractional, rest) := by
  have reads : next? ("0.5".toList ++ rest) =
      number false ('0' :: '.' :: '5' :: rest) := rfl
  have whole : digits ('0' :: '.' :: '5' :: rest) = ['0'] := rfl
  have after : afterDigits ('0' :: '.' :: '5' :: rest) = '.' :: '5' :: rest :=
    rfl
  have fraction : afterFraction ('.' :: '5' :: rest) = some (true, rest) := by
    obtain ⟨written, left⟩ : digits (['5'] ++ rest) = ['5'] ∧
        afterDigits (['5'] ++ rest) = rest :=
      digits_append (List.forall_mem_singleton.mpr rfl) ends
    rw [List.singleton_append] at written left
    simp [afterFraction, written, left]
  rw [reads, number]
  simp [whole, after, fraction, afterExponent_of_endsNumber ends]

end Token
end LiveFlags.Json
