import LiveFlags.Wire.Field
import Mathlib.Tactic.Ring

/-!
# Written fields are read back

A relation says which value the fields of a message make of another, and
merging follows it.  Numbers, keys and payloads are read back in front of
whatever follows them, so a message may be built field by field from its end.
-/

namespace LiveFlags.Wire

/-! ### Texts -/

theorem bytesOfText_eq (text : String) :
    bytesOfText text = text.toList.flatMap String.utf8EncodeChar := by
  rw [bytesOfText, String.toUTF8_eq_toByteArray, ← String.utf8Encode_toList]
  simp [List.utf8Encode]

theorem textOfBytes_bytesOfText (text : String) :
    textOfBytes (bytesOfText text) = some text := by
  have bytes : ByteArray.mk (bytesOfText text).toArray = text.toByteArray := rfl
  rw [textOfBytes, bytes, String.fromUTF8?, dif_pos text.isValidUTF8]
  rfl

/-! ### Numbers -/

theorem readVarintWithin_writeVarint {room value : Nat}
    (fits : value < 2 ^ (7 * room + 1)) (rest : List UInt8) :
    readVarintWithin (room + 1) (writeVarint value ++ rest) =
      some (value, rest) := by
  induction room generalizing value with
  | zero =>
      have last : value < 2 := fits
      have byte : value.toUInt8.toNat = value := by
        simp
        omega
      have single : writeVarint value = [value.toUInt8] := by
        rw [writeVarint, if_pos (by omega)]
      have bit : ¬ (0 = 0 ∧ 1 < value) := by omega
      rw [single, List.singleton_append, readVarintWithin, byte,
        if_pos (by omega), if_neg bit]
  | succ room induction =>
      rw [writeVarint]
      split
      · rename_i small
        have byte : value.toUInt8.toNat = value := by
          simp
          omega
        rw [List.singleton_append, readVarintWithin, byte, if_pos small,
          if_neg (by omega)]
      · rename_i large
        have byte : (value % 128 + 128).toUInt8.toNat = value % 128 + 128 := by
          simp
          omega
        have higher : value / 128 < 2 ^ (7 * room + 1) := by
          have more : 2 ^ (7 * (room + 1) + 1) = 128 * 2 ^ (7 * room + 1) := by
            ring
          omega
        rw [List.cons_append, readVarintWithin, byte, if_neg (by omega),
          induction higher, Option.map_some]
        dsimp only
        congr 2
        omega

theorem readVarint_writeVarint {value : Nat} (fits : value < 2 ^ 64)
    (rest : List UInt8) :
    readVarint (writeVarint value ++ rest) = some (value, rest) :=
  readVarintWithin_writeVarint fits rest

theorem zigzag_lt {value : Int} (least : -2 ^ 63 ≤ value)
    (greatest : value < 2 ^ 63) : zigzag value < 2 ^ 64 := by
  cases value with
  | ofNat magnitude =>
      rw [Int.ofNat_eq_natCast] at greatest
      rw [zigzag]
      omega
  | negSucc magnitude =>
      rw [zigzag]
      omega

theorem eq_zero_of_zigzag_eq_zero {value : Int} (zero : zigzag value = 0) :
    value = 0 := by
  rw [← unzigzag_zigzag value, zero]
  rfl

theorem writeVarint_ne_nil (value : Nat) : writeVarint value ≠ [] := by
  rw [writeVarint]
  split <;> exact List.cons_ne_nil _ _

/-- Numbers of 32 bits one after the other. -/
theorem readWords_writeVarint (words : List UInt32) {fuel : Nat}
    (enough :
      (words.flatMap fun word => writeVarint word.toNat).length ≤ fuel) :
    readWords fuel (words.flatMap fun word => writeVarint word.toNat) =
      some words := by
  induction words generalizing fuel with
  | nil => cases fuel <;> rfl
  | cons word later induction =>
      obtain ⟨byte, bytes, written⟩ :=
        List.exists_cons_of_ne_nil (writeVarint_ne_nil word.toNat)
      have fits : word.toNat < 2 ^ 64 := Nat.lt_trans word.toNat_lt (by decide)
      have read := readVarint_writeVarint fits
        (later.flatMap fun word => writeVarint word.toNat)
      simp only [List.flatMap_cons, List.length_append, written,
        List.length_cons] at enough
      cases fuel with
      | zero => omega
      | succ fuel =>
          rw [written, List.cons_append] at read
          rw [List.flatMap_cons, written, List.cons_append, readWords, read]
          simp [@induction fuel (by omega)]

/-! ### Keys and payloads -/

@[simp]
theorem WireType.ofCode?_code (type : WireType) :
    ofCode? type.code = some type := by
  cases type <;> rfl

theorem WireType.code_lt (type : WireType) : type.code < 8 := by
  cases type <;> decide

/-- A key whose field number is above zero and fits in a key of 32 bits. -/
def Key.Valid (key : Key) : Prop := 0 < key.number ∧ key.number < 2 ^ 29

instance (key : Key) : Decidable key.Valid :=
  inferInstanceAs (Decidable (_ ∧ _))

theorem readKey_writeKey {key : Key} (valid : key.Valid) (rest : List UInt8) :
    readKey (writeKey key ++ rest) = some (key, rest) := by
  obtain ⟨positive, small⟩ := valid
  have type := key.type.code_lt
  have fits : 8 * key.number + key.type.code < 2 ^ 64 := by omega
  have read := readVarint_writeVarint fits rest
  have within : ¬ (UInt32.size ≤ 8 * key.number + key.type.code ∨
      8 * key.number + key.type.code < 8) := by
    simp [UInt32.size]
    omega
  have number : (8 * key.number + key.type.code) / 8 = key.number := by omega
  have code : (8 * key.number + key.type.code) % 8 = key.type.code := by omega
  simp only [readKey, writeKey, read, Option.bind_eq_bind, Option.bind_some,
    if_neg within, number, code, WireType.ofCode?_code]
  rfl

theorem readDelimited_append {payload : List UInt8}
    (fits : payload.length < 2 ^ 64) (rest : List UInt8) :
    readDelimited (writeVarint payload.length ++ payload ++ rest) =
      some (payload, rest) := by
  have read := readVarint_writeVarint fits (payload ++ rest)
  rw [List.append_assoc]
  simp [readDelimited, read]

theorem expectVarint_writeVarint {field value : Nat} (fits : value < 2 ^ 64)
    (rest : List UInt8) :
    expectVarint ⟨field, .varint⟩ (writeVarint value ++ rest) =
      some (value, rest) :=
  readVarint_writeVarint fits rest

theorem expectWord_writeVarint {field : Nat} (value : UInt32)
    (rest : List UInt8) :
    expectWord ⟨field, .varint⟩ (writeVarint value.toNat ++ rest) =
      some (value, rest) := by
  have fits : value.toNat < 2 ^ 64 := Nat.lt_trans value.toNat_lt (by decide)
  simp [expectWord, expectVarint_writeVarint fits]

theorem expectText_bytesOfText {field : Nat} {content : String}
    (fits : (bytesOfText content).length < 2 ^ 64) (rest : List UInt8) :
    expectText ⟨field, .delimited⟩
      (writeVarint (bytesOfText content).length ++
        bytesOfText content ++ rest) =
        some (content, rest) := by
  rw [expectText, expectDelimited, if_pos rfl, readDelimited_append fits]
  simp [textOfBytes_bytesOfText]

theorem expectWords_writeVarint {field : Nat} {words : List UInt32}
    {payload : List UInt8}
    (written : payload = words.flatMap fun word => writeVarint word.toNat)
    (fits : payload.length < 2 ^ 64) (rest : List UInt8) :
    expectWords ⟨field, .delimited⟩
      (writeVarint payload.length ++ payload ++ rest) = some (words, rest) := by
  have read : readWords payload.length payload = some words := by
    rw [written]
    exact readWords_writeVarint words (Nat.le_refl _)
  rw [expectWords, if_pos rfl, readDelimited_append fits]
  simp [read]

theorem length_le_writeDelimited (field : Nat) (payload : List UInt8) :
    payload.length ≤ (writeDelimited field payload).length := by
  simp only [writeDelimited, List.length_append]
  omega

theorem length_le_writeText (field : Nat) (content : String) :
    (bytesOfText content).length ≤ (writeText field content).length := by
  unfold writeText
  split
  · rename_i empty
    rw [empty]
    exact Nat.le_refl _
  · exact length_le_writeDelimited field _

/-- The first byte of a message, if it has one, is among the given ones. -/
def Leads (marks : List UInt8) (bytes : List UInt8) : Prop :=
  ∀ byte ∈ bytes.head?, byte ∈ marks

section Leading

variable {marks first later : List UInt8}

theorem leads_nil : Leads marks [] := nofun

theorem Leads.append (front : Leads marks first) (back : Leads marks later) :
    Leads marks (first ++ later) := by
  cases first with
  | nil => exact back
  | cons byte rest => exact front

theorem leads_writeKey (key : Key)
    (short : 8 * key.number + key.type.code < 128)
    (marked : (8 * key.number + key.type.code).toUInt8 ∈ marks)
    (rest : List UInt8) : Leads marks (writeKey key ++ rest) := by
  rw [writeKey, writeVarint, if_pos short]
  rintro byte first
  cases first
  exact marked

theorem leads_writeNumber {field : Nat} (short : 8 * field < 128)
    (marked : (8 * field).toUInt8 ∈ marks) (content : Nat) :
    Leads marks (writeNumber field content) := by
  unfold writeNumber
  split
  · exact leads_nil
  · exact leads_writeKey ⟨field, .varint⟩ short marked _

theorem leads_writeDelimited {field : Nat} (short : 8 * field + 2 < 128)
    (marked : (8 * field + 2).toUInt8 ∈ marks) (payload : List UInt8) :
    Leads marks (writeDelimited field payload) := by
  rw [writeDelimited, List.append_assoc]
  exact leads_writeKey ⟨field, .delimited⟩ short marked _

theorem leads_writeText {field : Nat} (short : 8 * field + 2 < 128)
    (marked : (8 * field + 2).toUInt8 ∈ marks) (content : String) :
    Leads marks (writeText field content) := by
  unfold writeText
  split
  · exact leads_nil
  · exact leads_writeDelimited short marked _

theorem leads_flatMap {α : Type} {write : α → List UInt8}
    (each : ∀ a, Leads marks (write a)) (list : List α) :
    Leads marks (list.flatMap write) := by
  induction list with
  | nil => exact leads_nil
  | cons a later induction =>
      rw [List.flatMap_cons]
      exact (each a).append induction

end Leading

/-! ### Messages -/

section Merging

variable {α : Type} {merge : Key → α → List UInt8 → Option (α × List UInt8)}

inductive Spells (merge : Key → α → List UInt8 → Option (α × List UInt8)) :
    α → List UInt8 → α → Prop
  | nil {value : α} : Spells merge value [] value
  | field {value next result : α} {key : Key} {payload rest : List UInt8}
      (valid : key.Valid)
      (taken : merge key value (payload ++ rest) = some (next, rest))
      (later : Spells merge next rest result) :
      Spells merge value (writeKey key ++ payload ++ rest) result

theorem mergeFields_of_spells {value result : α} {bytes : List UInt8}
    (spells : Spells merge value bytes result) {fuel : Nat}
    (enough : bytes.length ≤ fuel) :
    mergeFields merge fuel value bytes = some result := by
  induction spells generalizing fuel with
  | nil => cases fuel <;> rfl
  | @field value next result key payload rest valid taken later induction =>
      obtain ⟨byte, bytes, written⟩ := List.exists_cons_of_ne_nil
        (writeVarint_ne_nil (8 * key.number + key.type.code))
      have read := readKey_writeKey valid (payload ++ rest)
      rw [writeKey, written, List.cons_append] at read
      rw [writeKey, written, List.append_assoc, List.cons_append] at enough ⊢
      simp only [List.length_cons, List.length_append] at enough
      cases fuel with
      | zero => omega
      | succ fuel =>
          rw [mergeFields, read]
          simp [taken, @induction fuel (by omega)]

theorem mergeMessage_of_spells {value result : α} {bytes : List UInt8}
    (spells : Spells merge value bytes result) :
    mergeMessage merge value bytes = some result :=
  mergeFields_of_spells spells (Nat.le_refl _)

namespace Spells

variable {value next result : α} {field : Nat} {rest : List UInt8}

/-- A number that is left out leaves the value as it is. -/
theorem number {content : Nat} (valid : Key.Valid ⟨field, .varint⟩)
    (omitted : content = 0 → next = value)
    (taken : merge ⟨field, .varint⟩ value (writeVarint content ++ rest) =
      some (next, rest))
    (later : Spells merge next rest result) :
    Spells merge value (writeNumber field content ++ rest) result := by
  unfold writeNumber
  split
  · rename_i zero
    rw [← omitted zero]
    exact later
  · exact .field valid taken later

theorem word {content : UInt32} (valid : Key.Valid ⟨field, .varint⟩)
    (omitted : content = 0 → next = value)
    (taken : merge ⟨field, .varint⟩ value (writeVarint content.toNat ++ rest) =
      some (next, rest))
    (later : Spells merge next rest result) :
    Spells merge value (writeNumber field content.toNat ++ rest) result :=
  .number valid (fun zero => omitted (UInt32.toNat_inj.mp zero)) taken later

theorem delimited {payload : List UInt8}
    (valid : Key.Valid ⟨field, .delimited⟩)
    (taken : merge ⟨field, .delimited⟩ value
      (writeVarint payload.length ++ payload ++ rest) = some (next, rest))
    (later : Spells merge next rest result) :
    Spells merge value (writeDelimited field payload ++ rest) result := by
  unfold writeDelimited
  rw [List.append_assoc (writeKey _)]
  exact .field valid taken later

/-- So does an empty text. -/
theorem text {content : String} (valid : Key.Valid ⟨field, .delimited⟩)
    (omitted : content = "" → next = value)
    (taken : merge ⟨field, .delimited⟩ value
      (writeVarint (bytesOfText content).length ++
        bytesOfText content ++ rest) =
        some (next, rest))
    (later : Spells merge next rest result) :
    Spells merge value (writeText field content ++ rest) result := by
  unfold writeText
  split
  · rename_i empty
    rw [← omitted empty]
    exact later
  · exact .delimited valid taken later

end Spells

end Merging

end LiveFlags.Wire
