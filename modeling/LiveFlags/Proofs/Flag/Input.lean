import LiveFlags.Flag.Cell
import LiveFlags.Proofs.Document.RoundTrip
import LiveFlags.Proofs.Json.RoundTrip

/-!
# What a cell shows and what is sent to it can be set

The two texts of a document, with blanks around them, are taken for JSON, and
its binary form never is.  So each of the three is read as the form it is in,
and a cell that has no complaint about the document publishes it.
-/

namespace LiveFlags

/-- A text of spaces, tabs and line ends only. -/
def Blank (text : String) : Prop :=
  ∀ c ∈ text.toList, Json.Token.isSpace c = true

instance (text : String) : Decidable (Blank text) :=
  List.decidableBAll _ _

/-! ### Which form an input is taken for -/

theorem isAsciiBlank_of_isSpace {c : Char}
    (space : Json.Token.isSpace c = true) :
    ∀ byte ∈ String.utf8EncodeChar c, isAsciiBlank byte = true := by
  simp only [Json.Token.isSpace, Bool.or_eq_true, decide_eq_true_eq] at space
  rcases space with ((rfl | rfl) | rfl) | rfl <;>
    exact List.all_eq_true.mp rfl

theorem Blank.isAsciiBlank {text : String} (blank : Blank text) :
    ∀ byte ∈ Wire.bytesOfText text, isAsciiBlank byte = true := by
  intro byte member
  rw [Wire.bytesOfText_eq, List.mem_flatMap] at member
  obtain ⟨c, among, encoded⟩ := member
  exact isAsciiBlank_of_isSpace (blank c among) byte encoded

theorem looksLikeObject_braces {leading inner trailing : List UInt8}
    (before : ∀ byte ∈ leading, isAsciiBlank byte = true)
    (after : ∀ byte ∈ trailing, isAsciiBlank byte = true) :
    looksLikeObject (leading ++ (0x7b :: inner ++ [0x7d]) ++ trailing) =
      true := by
  have reversed : ∀ byte ∈ trailing.reverse, isAsciiBlank byte = true :=
    fun byte member => after byte (List.mem_reverse.mp member)
  have front : ((leading ++ (0x7b :: inner ++ [0x7d]) ++ trailing).dropWhile
      isAsciiBlank).head? = some 0x7b := by
    rw [List.append_assoc, List.dropWhile_append_of_pos before]
    rfl
  have back : ((leading ++ (0x7b :: inner ++ [0x7d]) ++ trailing
      ).reverse.dropWhile isAsciiBlank).head? = some 0x7d := by
    rw [List.reverse_append, List.dropWhile_append_of_pos reversed,
      List.reverse_append, List.reverse_append]
    rfl
  rw [looksLikeObject, front, back]
  rfl

theorem looksLikeObject_padded {before after : String} (leading : Blank before)
    (trailing : Blank after) (inner : List Char) :
    looksLikeObject (Wire.bytesOfText
      (before ++ String.ofList ('{' :: inner ++ ['}']) ++ after)) = true := by
  have written : Wire.bytesOfText
      (before ++ String.ofList ('{' :: inner ++ ['}']) ++ after) =
        Wire.bytesOfText before ++
          (0x7b :: inner.flatMap String.utf8EncodeChar ++ [0x7d]) ++
            Wire.bytesOfText after := by
    have opening : String.utf8EncodeChar '{' = [0x7b] := by decide
    have closing : String.utf8EncodeChar '}' = [0x7d] := by decide
    simp [Wire.bytesOfText_eq, opening, closing]
  rw [written]
  exact looksLikeObject_braces leading.isAsciiBlank trailing.isAsciiBlank

theorem exists_compact_object (members : List (Option String × Json)) :
    ∃ inner, (Json.object members).compact =
      String.ofList ('{' :: inner ++ ['}']) :=
  ⟨_, rfl⟩

theorem exists_pretty_object (members : List (Option String × Json)) :
    ∃ inner, (Json.object members).pretty =
      String.ofList ('{' :: inner ++ ['}']) := by
  cases members with
  | nil => exact ⟨[], rfl⟩
  | cons member others =>
      refine ⟨Json.prettyMembers 1 (member :: others) ++ Json.lineBreak 0, ?_⟩
      simp [Json.pretty, Json.writePretty]

/-- No field that a document writes begins like a text. -/
theorem solid_of_mem_fieldMarks :
    ∀ byte ∈ fieldMarks, isAsciiBlank byte = false ∧ byte ≠ 0x7b := by
  simp [fieldMarks, isAsciiBlank]

theorem looksLikeObject_eq_false {bytes : List UInt8}
    (leads : Wire.Leads fieldMarks bytes) : looksLikeObject bytes = false := by
  cases bytes with
  | nil => rfl
  | cons byte later =>
      obtain ⟨solid, other⟩ := solid_of_mem_fieldMarks byte (leads byte rfl)
      simp [looksLikeObject, solid, other]

namespace Cell

variable {α : Type} [Document α]

/-! ### Reading and accepting -/

/-- A cell has no complaint about a document. -/
def Accepts (cell : Cell α) (document : α) : Prop :=
  (cell.validator.bind fun complaint => complaint document) = none

theorem candidate_eq_ok_iff {cell : Cell α} {bytes : List UInt8}
    {document : α} :
    cell.candidate bytes = .ok document ↔
      parse bytes = .ok document ∧ cell.Accepts document := by
  unfold candidate Accepts
  cases parse (α := α) bytes with
  | error error => simp
  | ok parsed =>
      dsimp only
      cases judged : cell.validator.bind fun complaint => complaint parsed with
      | none =>
          rw [Except.ok.injEq]
          exact ⟨fun same => ⟨same, same ▸ judged⟩, And.left⟩
      | some detail =>
          refine ⟨nofun, ?_⟩
          rintro ⟨same, accepted⟩
          obtain rfl := Except.ok.inj same
          rw [judged] at accepted
          cases accepted

omit [Document α] in
/-- What a cell publishes is what it holds from then on. -/
@[simp] theorem document_publish (cell : Cell α) (document : α) :
    (cell.publish document).current.document = document := rfl

theorem setBytes_of_parse {cell : Cell α} {bytes : List UInt8} {document : α}
    (read : parse bytes = .ok document) (accepted : cell.Accepts document) :
    cell.setBytes bytes = (.done, cell.publish document) := by
  rw [setBytes, candidate_eq_ok_iff.mpr ⟨read, accepted⟩]

/-! ### The texts of a document -/

/-- A text that has the braces of an object and spells the JSON form of a
document, whatever blanks are around it. -/
structure Shows (document : α) (text : String) : Prop where
  braces : ∃ inner, text = String.ofList ('{' :: inner ++ ['}'])
  spells : ∀ before after : String, Blank before → Blank after →
    Json.ofText? (before ++ text ++ after) = some (Document.toJson document)

section Shown

variable [LawfulDocument α] {cell source : Cell α} {document : α}
  {before text after : String}

theorem shows_compact (document : α) :
    Shows document (Document.toJson document).compact := by
  obtain ⟨members, object⟩ := LawfulDocument.toJson_object document
  refine ⟨object ▸ exists_compact_object members, ?_⟩
  intro before after leading trailing
  exact Json.ofText?_compact _ leading trailing

theorem shows_pretty (document : α) :
    Shows document (Document.toJson document).pretty := by
  obtain ⟨members, object⟩ := LawfulDocument.toJson_object document
  refine ⟨object ▸ exists_pretty_object members, ?_⟩
  intro before after leading trailing
  exact Json.ofText?_pretty _ leading trailing

theorem shows_display (displayed : Document.displayable α = true) :
    Shows source.current.document source.display := by
  rw [display, Document.compact?, if_pos displayed]
  exact shows_compact _

theorem shows_prettyText (displayed : Document.displayable α = true) :
    Shows source.current.document source.pretty := by
  rw [pretty, Document.pretty?, if_pos displayed]
  exact shows_pretty _

omit [LawfulDocument α] in
theorem Shows.bracketed (shows : Shows document text) (leading : Blank before)
    (trailing : Blank after) :
    looksLikeObject (Wire.bytesOfText (before ++ text ++ after)) = true := by
  obtain ⟨inner, rfl⟩ := shows.braces
  exact looksLikeObject_padded leading trailing inner

theorem Shows.parse (shows : Shows document text) (leading : Blank before)
    (trailing : Blank after) :
    Cell.parse (Wire.bytesOfText (before ++ text ++ after)) = .ok document := by
  have read := shows.spells before after leading trailing
  rw [Cell.parse, if_pos (shows.bracketed leading trailing),
    Wire.textOfBytes_bytesOfText]
  simp [Document.ofText?, read, LawfulDocument.ofJson?_toJson]

theorem Shows.set (shows : Shows document text)
    (accepted : cell.Accepts document) (leading : Blank before)
    (trailing : Blank after) :
    looksLikeObject (Wire.bytesOfText (before ++ text ++ after)) = true ∧
      cell.set (before ++ text ++ after) = (.done, cell.publish document) ∧
      (cell.set (before ++ text ++ after)).2.current.document = document := by
  have done :
      cell.set (before ++ text ++ after) = (.done, cell.publish document) :=
    setBytes_of_parse (shows.parse leading trailing) accepted
  refine ⟨shows.bracketed leading trailing, done, ?_⟩
  rw [done, document_publish]

/-- Whatever the validator of a cell says, the text that the cell shows leaves
its document as it is. -/
theorem document_set_display (displayed : Document.displayable α = true) :
    (cell.set cell.display).2.current.document = cell.current.document := by
  have shows : Shows cell.current.document cell.display :=
    shows_display displayed
  have read : Cell.parse (Wire.bytesOfText cell.display) =
      .ok cell.current.document := by
    have unpadded : Cell.parse
        (Wire.bytesOfText ("" ++ cell.display ++ "")) =
          .ok cell.current.document := shows.parse nofun nofun
    rwa [String.empty_append, String.append_empty] at unpadded
  unfold Cell.set Cell.setBytes
  cases judged : cell.candidate (Wire.bytesOfText cell.display) with
  | ok document =>
      obtain ⟨same, _⟩ := candidate_eq_ok_iff.mp judged
      exact Except.ok.inj (same.symm.trans read)
  | error error => rfl

end Shown

/-- What stands for a document that cannot be displayed is no message. -/
theorem parse_displayErrorMark :
    Cell.parse (α := Opaque) (Wire.bytesOfText displayErrorMark) =
      .error (.parse s!"invalid protobuf: {omittedDetail}") := by
  have bytes : Wire.bytesOfText displayErrorMark = [0x45, 0x52, 0x52] := rfl
  have refused : Document.ofBytes? (α := Opaque) [0x45, 0x52, 0x52] = none := by
    decide
  rw [bytes, Cell.parse, refused]
  rfl

theorem set_display_opaque (cell : Cell Opaque) :
    cell.set cell.display =
      (.failed (.parse s!"invalid protobuf: {omittedDetail}"), cell) := by
  have mark : cell.display = displayErrorMark := rfl
  rw [Cell.set, Cell.setBytes, mark, candidate, parse_displayErrorMark]

theorem set_shown_of_displayable [LawfulDocument α]
    (displayed : Document.displayable α = true) (cell source : Cell α)
    {before after : String} (leading : Blank before) (trailing : Blank after)
    (accepted : cell.Accepts source.current.document) :
    ∀ text ∈ [source.display, source.pretty],
      looksLikeObject (Wire.bytesOfText (before ++ text ++ after)) = true ∧
      cell.set (before ++ text ++ after) =
        (.done, cell.publish source.current.document) ∧
      (cell.set (before ++ text ++ after)).2.current.document =
        source.current.document := by
  intro text among
  rcases List.mem_pair.mp among with rfl | rfl
  · exact (shows_display displayed).set accepted leading trailing
  · exact (shows_prettyText displayed).set accepted leading trailing

/-- Both texts of a document, taken from any cell that holds it and with blanks
around them, are read as JSON and published by every cell that accepts the
document, and the cell then holds that document.  Hence the text that a cell
shows leaves its document as it is, and so does the mark in place of a document
that cannot be displayed. -/
theorem set_shown :
    (∀ (cell source : Cell Limits) (before after : String),
      Blank before → Blank after → cell.Accepts source.current.document →
        ∀ text ∈ [source.display, source.pretty],
          looksLikeObject (Wire.bytesOfText (before ++ text ++ after)) = true ∧
          cell.set (before ++ text ++ after) =
            (.done, cell.publish source.current.document) ∧
          (cell.set (before ++ text ++ after)).2.current.document =
            source.current.document) ∧
    (∀ (cell source : Cell Policy) (before after : String),
      Blank before → Blank after → cell.Accepts source.current.document →
        ∀ text ∈ [source.display, source.pretty],
          looksLikeObject (Wire.bytesOfText (before ++ text ++ after)) = true ∧
          cell.set (before ++ text ++ after) =
            (.done, cell.publish source.current.document) ∧
          (cell.set (before ++ text ++ after)).2.current.document =
            source.current.document) ∧
    (∀ cell : Cell Limits,
      (cell.set cell.display).2.current.document = cell.current.document) ∧
    (∀ cell : Cell Policy,
      (cell.set cell.display).2.current.document = cell.current.document) ∧
    (∀ cell : Cell Opaque, cell.set cell.display =
      (.failed (.parse s!"invalid protobuf: {omittedDetail}"), cell)) := by
  refine ⟨?_, ?_, ?_, ?_, set_display_opaque⟩
  · intro cell source before after leading trailing accepted
    exact set_shown_of_displayable rfl cell source leading trailing accepted
  · intro cell source before after leading trailing accepted
    exact set_shown_of_displayable rfl cell source leading trailing accepted
  · exact fun cell => document_set_display rfl
  · exact fun cell => document_set_display rfl

/-- A tier with a quote, a backslash, a control character and a letter beyond
ASCII, sent to a cell that asks for a positive rate. -/
theorem set_shown_escaped :
    let limits : Limits := ⟨4294967295, 7, "\"\\\x01é"⟩
    let source := create limits none none
    let cell := create {} (some Limits.ratePositive) (some .recording)
    Blank " \t" ∧ Blank "\r\n" ∧ cell.Accepts source.current.document ∧
      cell.set (" \t" ++ source.pretty ++ "\r\n") =
        (.done, cell.publish limits) ∧
      (cell.set (" \t" ++ source.pretty ++ "\r\n")).2.current.document =
        limits := by
  intro limits source cell
  have leading : Blank " \t" := by decide
  have trailing : Blank "\r\n" := by decide
  have accepted : cell.Accepts source.current.document := rfl
  have taken := set_shown.1 cell source " \t" "\r\n" leading trailing accepted
    source.pretty (by simp)
  exact ⟨leading, trailing, accepted, taken.2⟩

/-! ### The binary form of a document -/

theorem setBytes_of_ofBytes? {cell : Cell α} {bytes : List UInt8}
    {document : α} (leads : Wire.Leads fieldMarks bytes)
    (read : Document.ofBytes? bytes = some document)
    (accepted : cell.Accepts document) :
    cell.setBytes bytes = (.done, cell.publish document) ∧
      (cell.setBytes bytes).2.current.document = document := by
  have parsed : Cell.parse bytes = .ok document := by
    rw [Cell.parse, looksLikeObject_eq_false leads, read]
    rfl
  have done := setBytes_of_parse parsed accepted
  exact ⟨done, by rw [done, document_publish]⟩

omit [Document α] in
theorem accepts_of_free {cell : Cell α} (free : cell.validator = none)
    (document : α) : cell.Accepts document := by
  rw [Accepts, free]
  rfl

/-- The binary form of a document is never taken for JSON, and a cell without a
validator publishes the document and then holds it.  A length is written as a
number of 64 bits, so the form must not be longer than such a number can say. -/
theorem setBytes_toBytes :
    (∀ (cell : Cell Limits) (limits : Limits),
      looksLikeObject limits.toBytes = false ∧
      (cell.validator = none → limits.toBytes.length < 2 ^ 64 →
        cell.setBytes limits.toBytes = (.done, cell.publish limits) ∧
          (cell.setBytes limits.toBytes).2.current.document = limits)) ∧
    (∀ (cell : Cell Policy) (policy : Policy),
      looksLikeObject policy.toBytes = false ∧
      (cell.validator = none → policy.toBytes.length < 2 ^ 64 →
        cell.setBytes policy.toBytes = (.done, cell.publish policy) ∧
          (cell.setBytes policy.toBytes).2.current.document = policy)) ∧
    (∀ (cell : Cell Opaque) (document : Opaque),
      looksLikeObject document.toBytes = false ∧
      (cell.validator = none →
        cell.setBytes document.toBytes = (.done, cell.publish document) ∧
          (cell.setBytes document.toBytes).2.current.document =
            document)) := by
  refine ⟨?_, ?_, ?_⟩
  · intro cell limits
    have leads := LawfulDocument.leads_toBytes limits
    refine ⟨looksLikeObject_eq_false leads, fun free fits => ?_⟩
    exact setBytes_of_ofBytes? leads
      (LawfulDocument.ofBytes?_toBytes limits fits)
      (accepts_of_free free limits)
  · intro cell policy
    have leads := LawfulDocument.leads_toBytes policy
    refine ⟨looksLikeObject_eq_false leads, fun free fits => ?_⟩
    exact setBytes_of_ofBytes? leads
      (LawfulDocument.ofBytes?_toBytes policy fits)
      (accepts_of_free free policy)
  · intro cell document
    have leads := LawfulDocument.leads_toBytes document
    refine ⟨looksLikeObject_eq_false leads, fun free => ?_⟩
    exact setBytes_of_ofBytes? leads
      (Wire.mergeMessage_of_spells document.spells_toBytes)
      (accepts_of_free free document)

/-- A policy with every field, among them a payload that ends in a brace. -/
theorem setBytes_toBytes_braces :
    let policy : Policy := {
      enabled := true
      offset := -3
      name := some "\x7b"
      ports := [0, 300, 4294967295]
      limits := some ⟨1, 0, "ü"⟩
      labels := .ofList [("", ""), ("a", "\x7d")] }
    let cell : Cell Policy := create {} none none
    cell.validator = none ∧ policy.toBytes.length < 2 ^ 64 ∧
      cell.setBytes policy.toBytes = (.done, cell.publish policy) ∧
      (cell.setBytes policy.toBytes).2.current.document = policy := by
  intro policy cell
  have fits : policy.toBytes.length < 2 ^ 64 := by decide +kernel
  exact ⟨rfl, fits, (setBytes_toBytes.2.1 cell policy).2 rfl fits⟩

end Cell

end LiveFlags
