import LiveFlags.Json.Reader
import LiveFlags.Proofs.Json.Token

/-!
# Written values are read back

Both layouts of a value spell the same tokens, and from these the value is read
back, whatever it is.  Blanks in front of a text and behind it do not matter.
-/

namespace LiveFlags.Json

def atomTokens : Json → List Token
  | .null => [.null]
  | .bool value => [.bool value]
  | .integer value => [.integer value]
  | .fractional => [.fractional]
  | .string content => [.string content]
  | .array _ => [.openBracket, .closeBracket]
  | .object _ => [.openBrace, .closeBrace]

mutual

/-- The tokens that spell a value. -/
def tokens : Json → List Token
  | .array elements => .openBracket :: elementTokens elements ++ [.closeBracket]
  | .object members => .openBrace :: memberTokens members ++ [.closeBrace]
  | atom => atomTokens atom

def elementTokens : List Json → List Token
  | [] => []
  | [element] => tokens element
  | element :: rest => tokens element ++ .comma :: elementTokens rest

def memberTokens : List (Option String × Json) → List Token
  | [] => []
  | [(key, value)] => .string key :: .colon :: tokens value
  | (key, value) :: rest =>
    .string key :: .colon :: tokens value ++ .comma :: memberTokens rest

end

theorem elementTokens_cons (element next : Json) (later : List Json) :
    elementTokens (element :: next :: later) =
      element.tokens ++ .comma :: elementTokens (next :: later) := rfl

theorem memberTokens_cons (key : Option String) (value : Json)
    (next : Option String × Json) (later : List (Option String × Json)) :
    memberTokens ((key, value) :: next :: later) =
      .string key :: .colon :: value.tokens ++
        .comma :: memberTokens (next :: later) := rfl

section Reading

variable {fuel : Nat} {rest : List Token}

theorem tokens_begin (json : Json) :
    ∃ first later, json.tokens = first :: later ∧ first ≠ .closeBracket := by
  cases json <;> exact ⟨_, _, rfl, nofun⟩

theorem elementTokens_begin (element : Json) (others : List Json) :
    ∃ first later, elementTokens (element :: others) = first :: later ∧
      first ≠ .closeBracket := by
  obtain ⟨first, later, begins, opens⟩ := element.tokens_begin
  cases others with
  | nil => exact ⟨first, later, begins, opens⟩
  | cons next others =>
      exact ⟨first, _, by rw [elementTokens_cons, begins]; rfl, opens⟩

theorem memberTokens_begin (key : Option String) (value : Json)
    (others : List (Option String × Json)) :
    ∃ later, memberTokens ((key, value) :: others) = .string key :: later := by
  cases others with
  | nil => exact ⟨_, rfl⟩
  | cons next others => exact ⟨_, rfl⟩

theorem readValue_array {first : Token} {later : List Token}
    (opens : first ≠ .closeBracket) :
    readValue (fuel + 1) (.openBracket :: first :: later) =
      (readElements fuel (first :: later)).map fun (elements, rest) =>
        (.array elements, rest) := by
  cases first <;> first | exact absurd rfl opens | rfl

theorem readValue_object {key : Option String} {later : List Token} :
    readValue (fuel + 1) (.openBrace :: .string key :: later) =
      (readMembers fuel (.string key :: later)).map fun (members, rest) =>
        (.object members, rest) := rfl

theorem readElements_last {element : Json} {tokens : List Token}
    (read : readValue fuel tokens = some (element, .closeBracket :: rest)) :
    readElements (fuel + 1) tokens = some ([element], rest) := by
  rw [readElements, read]

theorem readElements_more {element : Json} {elements : List Json}
    {tokens later : List Token}
    (read : readValue fuel tokens = some (element, .comma :: later))
    (others : readElements fuel later = some (elements, rest)) :
    readElements (fuel + 1) tokens = some (element :: elements, rest) := by
  rw [readElements, read]
  simp [others]

theorem readMembers_last {key : Option String} {value : Json}
    {tokens : List Token}
    (read : readValue fuel tokens = some (value, .closeBrace :: rest)) :
    readMembers (fuel + 1) (.string key :: .colon :: tokens) =
      some ([(key, value)], rest) := by
  rw [readMembers, read]

theorem readMembers_more {key : Option String} {value : Json}
    {members : List (Option String × Json)} {tokens later : List Token}
    (read : readValue fuel tokens = some (value, .comma :: later))
    (others : readMembers fuel later = some (members, rest)) :
    readMembers (fuel + 1) (.string key :: .colon :: tokens) =
      some ((key, value) :: members, rest) := by
  rw [readMembers, read]
  simp [others]

end Reading

/-- With enough fuel, what tokens spell is read back in front of whatever
follows. -/
structure ReadsBack (fuel : Nat) : Prop where
  value : ∀ (json : Json) (rest : List Token), json.tokens.length ≤ fuel →
    readValue fuel (json.tokens ++ rest) = some (json, rest)
  elements : ∀ (element : Json) (others : List Json) (rest : List Token),
    (elementTokens (element :: others)).length < fuel →
      readElements fuel (elementTokens (element :: others) ++
        .closeBracket :: rest) = some (element :: others, rest)
  members : ∀ (key : Option String) (value : Json)
    (others : List (Option String × Json)) (rest : List Token),
    (memberTokens ((key, value) :: others)).length < fuel →
      readMembers fuel (memberTokens ((key, value) :: others) ++
        .closeBrace :: rest) = some ((key, value) :: others, rest)

namespace ReadsBack

variable {fuel : Nat}

theorem value_succ (reads : ReadsBack fuel) (json : Json) (rest : List Token)
    (enough : json.tokens.length ≤ fuel + 1) :
    readValue (fuel + 1) (json.tokens ++ rest) = some (json, rest) := by
  match json with
  | .null => rfl
  | .bool value => rfl
  | .integer value => rfl
  | .fractional => rfl
  | .string content => rfl
  | .array [] => rfl
  | .object [] => rfl
  | .array (element :: others) =>
      obtain ⟨first, later, begins, opens⟩ := elementTokens_begin element others
      have within : (elementTokens (element :: others)).length < fuel := by
        simp [tokens] at enough
        omega
      have read := reads.elements element others rest within
      rw [begins, List.cons_append] at read
      simp only [tokens, List.cons_append, List.append_assoc, List.nil_append,
        begins]
      rw [readValue_array opens, read]
      rfl
  | .object ((key, value) :: others) =>
      obtain ⟨later, begins⟩ := memberTokens_begin key value others
      have within : (memberTokens ((key, value) :: others)).length < fuel := by
        simp [tokens] at enough
        omega
      have read := reads.members key value others rest within
      rw [begins, List.cons_append] at read
      simp only [tokens, List.cons_append, List.append_assoc, List.nil_append,
        begins]
      rw [readValue_object, read]
      rfl

theorem elements_succ (reads : ReadsBack fuel) (element : Json)
    (others : List Json) (rest : List Token)
    (enough : (elementTokens (element :: others)).length < fuel + 1) :
    readElements (fuel + 1) (elementTokens (element :: others) ++
      .closeBracket :: rest) = some (element :: others, rest) := by
  cases others with
  | nil =>
      apply readElements_last
      exact reads.value element _ (Nat.le_of_lt_succ enough)
  | cons next others =>
      rw [elementTokens_cons, List.length_append, List.length_cons] at enough
      rw [elementTokens_cons, List.append_assoc, List.cons_append]
      apply readElements_more
      · exact reads.value element _ (by omega)
      · exact reads.elements next others rest (by omega)

theorem members_succ (reads : ReadsBack fuel) (key : Option String)
    (value : Json) (others : List (Option String × Json)) (rest : List Token)
    (enough : (memberTokens ((key, value) :: others)).length < fuel + 1) :
    readMembers (fuel + 1) (memberTokens ((key, value) :: others) ++
      .closeBrace :: rest) = some ((key, value) :: others, rest) := by
  cases others with
  | nil =>
      have within : value.tokens.length ≤ fuel := by
        simp [memberTokens] at enough
        omega
      apply readMembers_last
      exact reads.value value _ within
  | cons next others =>
      obtain ⟨nextKey, next⟩ := next
      rw [memberTokens_cons] at enough ⊢
      simp at enough
      rw [List.append_assoc]
      apply readMembers_more
      · exact reads.value value _ (by omega)
      · exact reads.members nextKey next others rest (by omega)

end ReadsBack

theorem readsBack (fuel : Nat) : ReadsBack fuel := by
  induction fuel with
  | zero =>
      refine ⟨?_, nofun, nofun⟩
      intro json rest enough
      obtain ⟨first, later, begins, _⟩ := json.tokens_begin
      simp [begins] at enough
  | succ fuel reads =>
      exact ⟨reads.value_succ, reads.elements_succ, reads.members_succ⟩

theorem ofTokens?_tokens (json : Json) : ofTokens? json.tokens = some json := by
  have read := (readsBack (2 * json.tokens.length + 1)).value json [] (by omega)
  rw [List.append_nil] at read
  rw [ofTokens?, read]

section Writing

open Token (Spells EndsNumber)

variable {rest : List Char} {later : List Token}

theorem spells_writeString (content : Option String)
    (spells : Spells rest later) :
    Spells (writeString content ++ rest) (.string content :: later) := by
  refine .token ?_ (Token.next?_writeString content rest) spells
  cases content <;> rfl

theorem spells_writeAtom (json : Json) (ends : EndsNumber rest)
    (spells : Spells rest later) :
    Spells (writeAtom json ++ rest) (json.atomTokens ++ later) := by
  cases json with
  | null => exact .token rfl rfl spells
  | bool value => cases value <;> exact .token rfl rfl spells
  | integer value =>
      exact .token (Token.head?_integer value) (Token.next?_integer value ends)
        spells
  | fractional => exact .token rfl (Token.next?_fractional ends) spells
  | string content => exact spells_writeString content spells
  | array elements => exact .mark rfl rfl (.mark rfl rfl spells)
  | object members => exact .mark rfl rfl (.mark rfl rfl spells)

theorem spells_lineBreak (level : Nat) (spells : Spells rest later) :
    Spells (lineBreak level ++ rest) later :=
  .spaces (by simp [lineBreak, Token.isSpace]) spells

theorem endsNumber_of_head {c : Char} (other : Token.isNumeral c = false) :
    EndsNumber (c :: rest) := by
  intro d first
  cases first
  exact other

mutual

theorem spells_writeCompact (json : Json) {rest : List Char}
    {later : List Token} (ends : EndsNumber rest) (spells : Spells rest later) :
    Spells (writeCompact json ++ rest) (json.tokens ++ later) := by
  match json with
  | .array elements =>
      have closed : Spells (']' :: rest) (.closeBracket :: later) :=
        .mark rfl rfl spells
      have inner :=
        spells_writeElements elements (endsNumber_of_head rfl) closed
      simpa [writeCompact, tokens] using Spells.mark rfl rfl inner
  | .object members =>
      have closed : Spells ('}' :: rest) (.closeBrace :: later) :=
        .mark rfl rfl spells
      have inner := spells_writeMembers members (endsNumber_of_head rfl) closed
      simpa [writeCompact, tokens] using Spells.mark rfl rfl inner
  | .null => exact spells_writeAtom .null ends spells
  | .bool value => exact spells_writeAtom (.bool value) ends spells
  | .integer value => exact spells_writeAtom (.integer value) ends spells
  | .fractional => exact spells_writeAtom .fractional ends spells
  | .string content => exact spells_writeAtom (.string content) ends spells

theorem spells_writeElements (elements : List Json) {rest : List Char}
    {later : List Token} (ends : EndsNumber rest) (spells : Spells rest later) :
    Spells (writeElements elements ++ rest)
      (elementTokens elements ++ later) := by
  match elements with
  | [] => exact spells
  | [element] => exact spells_writeCompact element ends spells
  | element :: next :: others =>
      have inner := spells_writeElements (next :: others) ends spells
      have more : Spells (',' :: (writeElements (next :: others) ++ rest))
          (.comma :: (elementTokens (next :: others) ++ later)) :=
        .mark rfl rfl inner
      have whole := spells_writeCompact element (endsNumber_of_head rfl) more
      simpa [writeElements, elementTokens] using whole

theorem spells_writeMembers (members : List (Option String × Json))
    {rest : List Char} {later : List Token} (ends : EndsNumber rest)
    (spells : Spells rest later) :
    Spells (writeMembers members ++ rest) (memberTokens members ++ later) := by
  match members with
  | [] => exact spells
  | [(key, value)] =>
      have inner := spells_writeCompact value ends spells
      have paired := spells_writeString key (.mark (c := ':') rfl rfl inner)
      simpa [writeMembers, memberTokens] using paired
  | (key, value) :: next :: others =>
      have inner := spells_writeMembers (next :: others) ends spells
      have more : Spells (',' :: (writeMembers (next :: others) ++ rest))
          (.comma :: (memberTokens (next :: others) ++ later)) :=
        .mark rfl rfl inner
      have whole := spells_writeCompact value (endsNumber_of_head rfl) more
      have paired := spells_writeString key (.mark (c := ':') rfl rfl whole)
      simpa [writeMembers, memberTokens] using paired

end

theorem endsNumber_lineBreak (level : Nat) :
    EndsNumber (lineBreak level ++ rest) :=
  endsNumber_of_head rfl

mutual

theorem spells_writePretty (level : Nat) (json : Json) {rest : List Char}
    {later : List Token} (ends : EndsNumber rest) (spells : Spells rest later) :
    Spells (writePretty level json ++ rest) (json.tokens ++ later) := by
  match json with
  | .array (element :: others) =>
      have closed : Spells (']' :: rest) (.closeBracket :: later) :=
        .mark rfl rfl spells
      have inner := spells_prettyElements (level + 1) (element :: others)
        (endsNumber_lineBreak level) (spells_lineBreak level closed)
      simpa [writePretty, tokens] using Spells.mark rfl rfl inner
  | .object (member :: others) =>
      have closed : Spells ('}' :: rest) (.closeBrace :: later) :=
        .mark rfl rfl spells
      have inner := spells_prettyMembers (level + 1) (member :: others)
        (endsNumber_lineBreak level) (spells_lineBreak level closed)
      simpa [writePretty, tokens] using Spells.mark rfl rfl inner
  | .null => exact spells_writeAtom .null ends spells
  | .bool value => exact spells_writeAtom (.bool value) ends spells
  | .integer value => exact spells_writeAtom (.integer value) ends spells
  | .fractional => exact spells_writeAtom .fractional ends spells
  | .string content => exact spells_writeAtom (.string content) ends spells
  | .array [] => exact spells_writeAtom (.array []) ends spells
  | .object [] => exact spells_writeAtom (.object []) ends spells

theorem spells_prettyElements (level : Nat) (elements : List Json)
    {rest : List Char} {later : List Token} (ends : EndsNumber rest)
    (spells : Spells rest later) :
    Spells (prettyElements level elements ++ rest)
      (elementTokens elements ++ later) := by
  match elements with
  | [] => exact spells
  | [element] =>
      have whole := spells_writePretty level element ends spells
      simpa [prettyElements, elementTokens] using spells_lineBreak level whole
  | element :: next :: others =>
      have inner := spells_prettyElements level (next :: others) ends spells
      have more : Spells
        (',' :: (prettyElements level (next :: others) ++ rest))
          (.comma :: (elementTokens (next :: others) ++ later)) :=
        .mark rfl rfl inner
      have whole :=
        spells_writePretty level element (endsNumber_of_head rfl) more
      simpa [prettyElements, elementTokens] using spells_lineBreak level whole

theorem spells_prettyMembers (level : Nat)
    (members : List (Option String × Json)) {rest : List Char}
    {later : List Token} (ends : EndsNumber rest) (spells : Spells rest later) :
    Spells (prettyMembers level members ++ rest)
      (memberTokens members ++ later) := by
  match members with
  | [] => exact spells
  | [(key, value)] =>
      have inner := spells_writePretty level value ends spells
      have paired := spells_writeString key
        (.mark (c := ':') rfl rfl (.space (c := ' ') rfl inner))
      simpa [prettyMembers, memberTokens] using spells_lineBreak level paired
  | (key, value) :: next :: others =>
      have inner := spells_prettyMembers level (next :: others) ends spells
      have more : Spells (',' :: (prettyMembers level (next :: others) ++ rest))
          (.comma :: (memberTokens (next :: others) ++ later)) :=
        .mark rfl rfl inner
      have whole := spells_writePretty level value (endsNumber_of_head rfl) more
      have paired := spells_writeString key
        (.mark (c := ':') rfl rfl (.space (c := ' ') rfl whole))
      simpa [prettyMembers, memberTokens] using spells_lineBreak level paired

end

end Writing

section Whole

open Token (isSpace)

theorem endsNumber_of_spaces {after : List Char}
    (blank : ∀ c ∈ after, isSpace c = true) : Token.EndsNumber after := by
  intro c first
  have space := blank c (List.mem_of_mem_head? first)
  simp only [isSpace, Bool.or_eq_true, decide_eq_true_eq] at space
  rcases space with ((rfl | rfl) | rfl) | rfl <;> rfl

variable {before after : String}

theorem ofText?_of_spells {text : List Char} {json : Json}
    (leading : ∀ c ∈ before.toList, isSpace c = true)
    (trailing : ∀ c ∈ after.toList, isSpace c = true)
    (spells : Token.Spells after.toList [] →
      Token.Spells (text ++ after.toList) (json.tokens ++ [])) :
    ofText? (before ++ String.ofList text ++ after) = some json := by
  have blanks : Token.Spells after.toList [] := by
    have spaces := Token.Spells.spaces trailing .nil
    rwa [List.append_nil] at spaces
  have whole := Token.Spells.spaces leading (spells blanks)
  rw [List.append_nil] at whole
  have read := Token.ofText?_of_spells whole
  simp [ofText?, read, ofTokens?_tokens]

/-- The compact text of a value is read back, whatever the value is. -/
theorem ofText?_compact (json : Json)
    (leading : ∀ c ∈ before.toList, isSpace c = true)
    (trailing : ∀ c ∈ after.toList, isSpace c = true) :
    ofText? (before ++ json.compact ++ after) = some json :=
  ofText?_of_spells leading trailing
    (spells_writeCompact json (endsNumber_of_spaces trailing))

/-- So is the text with a line for each element and member. -/
theorem ofText?_pretty (json : Json)
    (leading : ∀ c ∈ before.toList, isSpace c = true)
    (trailing : ∀ c ∈ after.toList, isSpace c = true) :
    ofText? (before ++ json.pretty ++ after) = some json :=
  ofText?_of_spells leading trailing
    (spells_writePretty 0 json (endsNumber_of_spaces trailing))

end Whole

end LiveFlags.Json
