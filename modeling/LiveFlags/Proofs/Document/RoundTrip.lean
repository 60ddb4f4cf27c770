import LiveFlags.Document.Opaque
import LiveFlags.Document.Policy
import LiveFlags.Proofs.SortedMap
import LiveFlags.Proofs.Wire.Field

/-!
# Documents are read back from both of their forms

A JSON record is read field by field, and each field takes back what was
written for it.  A binary message is read from its first field to its last,
each merged into a document that has the fields before it.
-/

namespace LiveFlags

open Wire (Spells Leads)

namespace Json

theorem mapM_eq_map {α β : Type} {read : α → Option β} {value : α → β}
    {list : List α} (each : ∀ a ∈ list, read a = some (value a)) :
    list.mapM read = some (list.map value) := by
  induction list with
  | nil => rfl
  | cons a later induction =>
      obtain ⟨first, others⟩ := List.forall_mem_cons.mp each
      simp [first, induction others]

theorem filter_name_eq {fields : List (String × Json)}
    (distinct : (fields.map Prod.fst).Nodup) {field : String × Json}
    (member : field ∈ fields) :
    fields.filter (fun other => other.1 = field.1) = [field] := by
  induction fields with
  | nil => cases member
  | cons first later induction =>
      obtain ⟨fresh, laterDistinct⟩ := List.nodup_cons.mp distinct
      rcases List.mem_cons.mp member with rfl | later
      · have absent : later.filter (fun other => other.1 = field.1) = [] := by
          rw [List.filter_eq_nil_iff]
          intro other found same
          exact fresh (List.mem_map.mpr ⟨other, found, of_decide_eq_true same⟩)
        rw [List.filter_cons_of_pos (by simp), absent]
      · have different : first.1 ≠ field.1 := by
          intro same
          exact fresh (List.mem_map.mpr ⟨field, later, same.symm⟩)
        rw [List.filter_cons_of_neg (by simp [different])]
        exact induction laterDistinct later

theorem member?_record {fields : List (String × Json)}
    (distinct : (fields.map Prod.fst).Nodup) {field : String × Json}
    (member : field ∈ fields) :
    member? (fields.map fun field => (some field.1, field.2)) field.1 =
      some (some field.2) := by
  have found := filter_name_eq distinct member
  simp [member?, List.filter_map, Function.comp_def, found]

/-- A record is read field by field. -/
theorem fields?_record {fields : List (String × Json)}
    (distinct : (fields.map Prod.fst).Nodup) :
    (record fields).fields? (fields.map Prod.fst) =
      some (fields.map fun field => some field.2) := by
  have named : ((fields.map fun field => (some field.1, field.2)).any
      fun member => member.1.isNone) = false := by
    simp
  have each : ∀ field ∈ fields,
      member? (fields.map fun field => (some field.1, field.2)) field.1 =
        some (some field.2) :=
          fun field member => member?_record distinct member
  rw [record, fields?, if_neg (by simp), List.mapM_map]
  exact mapM_eq_map each

theorem natural?_integer {bound value : Nat} (below : value < bound) :
    natural? bound (.integer value) = some value := by
  have least : (0 : Int) ≤ value := Int.natCast_nonneg value
  have greatest : (value : Int) ≤ bound - 1 := by omega
  simp [natural?, integerIn?, least, greatest]

theorem text?_text (content : String) : text? (text content) = some content :=
  rfl

/-- What was written element by element is read element by element. -/
theorem mapM_map_write {α β : Type} {read : β → Option α} {write : α → β}
    (reads : ∀ value, read (write value) = some value) (values : List α) :
    (values.map write).mapM read = some values := by
  induction values with
  | nil => rfl
  | cons value later induction => simp [reads, induction]

theorem entries?_record {α : Type} {read : Json → Option α} {write : α → Json}
    (reads : ∀ value, read (write value) = some value)
    (entries : List (String × α)) :
    entries? read
        (.record (entries.map fun entry => (entry.1, write entry.2))) =
      some entries := by
  rw [record, entries?, List.map_map]
  apply mapM_map_write
  rintro ⟨key, value⟩
  simp [reads]

end Json

/-- The first bytes of the fields that documents write. -/
def fieldMarks : List UInt8 := [0x08, 0x10, 0x1a, 0x22, 0x2a, 0x32]

/-- Documents that both of their forms give back. -/
class LawfulDocument (α : Type) [Document α] : Prop where
  ofJson?_toJson (document : α) :
    Document.ofJson? (Document.toJson document) = some document
  toJson_object (document : α) :
    ∃ members, Document.toJson document = .object members
  ofBytes?_toBytes (document : α)
    (fits : (Document.toBytes document).length < 2 ^ 64) :
    Document.ofBytes? (Document.toBytes document) = some document
  leads_toBytes (document : α) : Leads fieldMarks (Document.toBytes document)

namespace Limits

theorem word?_integer (value : UInt32) :
    word? (some (.integer value.toNat)) = some value := by
  have read := Json.natural?_integer value.toNat_lt_size
  simp [word?, Json.fieldOr, read]

theorem ofJson?_toJson (limits : Limits) :
    ofJson? limits.toJson = some limits := by
  have fields : limits.toJson.fields? ["burst", "rate", "tier"] = _ :=
    Json.fields?_record (by simp)
  simp [ofJson?, fields, word?_integer, Json.fieldOr, Json.text, Json.text?]

theorem spells_toBytes {depth : Nat} (limits : Limits)
    (fits : limits.toBytes.length < 2 ^ 64) :
    Spells (mergeWithin depth) {} limits.toBytes limits := by
  have tierFits : (Wire.bytesOfText limits.tier).length < 2 ^ 64 := by
    have within := Wire.length_le_writeText 3 limits.tier
    simp only [toBytes, List.length_append] at fits
    omega
  have last : Spells (mergeWithin depth) ⟨limits.burst, limits.rate, ""⟩
      (Wire.writeText 3 limits.tier ++ []) limits := by
    refine .text (by decide) (fun empty => by rw [← empty]) ?_ .nil
    simp only [mergeWithin, Wire.expectText_bytesOfText tierFits]
    rfl
  have middle : Spells (mergeWithin depth) ⟨limits.burst, 0, ""⟩
      (Wire.writeNumber 2 limits.rate.toNat ++
        (Wire.writeText 3 limits.tier ++ [])) limits := by
    refine .word (by decide) (fun zero => by rw [zero]) ?_ last
    simp only [mergeWithin, Wire.expectWord_writeVarint]
    rfl
  rw [toBytes, List.append_assoc, ← List.append_nil (Wire.writeText _ _)]
  refine .word (by decide) (fun zero => by rw [zero]) ?_ middle
  simp only [mergeWithin, Wire.expectWord_writeVarint]
  rfl

instance : LawfulDocument Limits where
  ofJson?_toJson := ofJson?_toJson
  toJson_object _ := ⟨_, rfl⟩
  ofBytes?_toBytes limits fits :=
    Wire.mergeMessage_of_spells (limits.spells_toBytes fits)
  leads_toBytes limits := by
    refine .append (.append ?_ ?_) ?_
    · exact Wire.leads_writeNumber (by decide) (by decide) _
    · exact Wire.leads_writeNumber (by decide) (by decide) _
    · exact Wire.leads_writeText (by decide) (by decide) _

end Limits

namespace Opaque

theorem ofJson?_toJson (document : Opaque) :
    ofJson? document.toJson = some document := by
  have fields : document.toJson.fields? ["level"] = _ :=
    Json.fields?_record (by simp)
  simp [ofJson?, fields, Limits.word?_integer]

theorem spells_toBytes (document : Opaque) :
    Spells merge {} document.toBytes document := by
  rw [toBytes, ← List.append_nil (Wire.writeNumber _ _)]
  refine .word (by decide) (fun zero => by rw [← zero]) ?_ .nil
  simp only [merge, Wire.expectWord_writeVarint]
  rfl

instance : LawfulDocument Opaque where
  ofJson?_toJson := ofJson?_toJson
  toJson_object _ := ⟨_, rfl⟩
  ofBytes?_toBytes document _ :=
    Wire.mergeMessage_of_spells document.spells_toBytes
  leads_toBytes document :=
    Wire.leads_writeNumber (by decide) (by decide) _

end Opaque

namespace Policy

theorem portNumber?_integer (value : UInt32) :
    portNumber? (.integer value.toNat) = some value := by
  have read := Json.natural?_integer value.toNat_lt_size
  simp [portNumber?, read]

theorem signed?_integer (value : Int64) :
    signed? (.integer value.toInt) = some value := by
  have range : Int64.minValue.toInt ≤ value.toInt ∧
      value.toInt ≤ Int64.maxValue.toInt :=
    ⟨value.minValue_le_toInt, value.toInt_le⟩
  rw [signed?, Json.integerIn?, if_pos range, Option.map_some,
    Int64.ofInt_toInt]

theorem nullable?_orNull {α : Type} {read : Json → Option α} {write : α → Json}
    (reads : ∀ value, read (write value) = some value)
    (solid : ∀ value, write value ≠ .null) (value : Option α) :
    Json.nullable? read (orNull write value) = some value := by
  cases value with
  | none => rfl
  | some value =>
      rw [orNull, Json.nullable?, reads]
      · rfl
      · exact solid value

theorem ofJson?_toJson (policy : Policy) :
    ofJson? policy.toJson = some policy := by
  have fields : policy.toJson.fields?
      ["enabled", "offset", "name", "ports", "limits", "labels"] = _ :=
    Json.fields?_record (by simp)
  have name : Json.nullable? Json.text? (orNull Json.text policy.name) = _ :=
    nullable?_orNull Json.text?_text (fun _ => nofun) policy.name
  have ports : Json.list? portNumber?
      (.array (policy.ports.map fun number => .integer number.toNat)) = _ :=
    Json.mapM_map_write portNumber?_integer policy.ports
  have limits : Json.nullable? Limits.ofJson?
      (orNull Limits.toJson policy.limits) = _ :=
    nullable?_orNull Limits.ofJson?_toJson (fun _ => nofun) policy.limits
  have labels : Json.entries? Json.text? (.record
      (policy.labels.toList.map fun label => (label.1, .text label.2))) = _ :=
    Json.entries?_record Json.text?_text policy.labels.toList
  simp [ofJson?, fields, Json.bool?, Json.fieldOr, signed?_integer, name, ports,
    limits, labels, SortedMap.ofList_toList]

variable {depth : Nat} {result : Policy} {rest : List UInt8}

theorem spells_enabled (policy : Policy) (enabled : Bool)
    (later : Spells (mergeWithin depth) { policy with enabled } rest result) :
    Spells (mergeWithin depth) { policy with enabled := false }
      (Wire.writeNumber 1 enabled.toNat ++ rest) result := by
  cases enabled with
  | false => exact later
  | true =>
      have read : Wire.expectVarint ⟨1, .varint⟩ (Wire.writeVarint 1 ++ rest) =
          some (1, rest) := Wire.expectVarint_writeVarint (by decide) rest
      refine .number (by decide) nofun ?_ later
      simp [mergeWithin, read]

theorem spells_offset (policy : Policy) (offset : Int64)
    (later : Spells (mergeWithin depth) { policy with offset } rest result) :
    Spells (mergeWithin depth) { policy with offset := 0 }
      (Wire.writeNumber 2 (Wire.zigzag offset.toInt) ++ rest) result := by
  have fits := Wire.zigzag_lt offset.le_toInt offset.toInt_lt
  refine .number (by decide) (fun zero => ?_) ?_ later
  · have same : offset = 0 := by
      rw [← offset.ofInt_toInt, Wire.eq_zero_of_zigzag_eq_zero zero]
      rfl
    rw [same]
  · simp [mergeWithin, Wire.expectVarint_writeVarint fits]

theorem spells_name (policy : Policy) (name : Option String)
    (fits : (name.elim [] fun name =>
      Wire.writeDelimited 3 (Wire.bytesOfText name)).length < 2 ^ 64)
    (later : Spells (mergeWithin depth) { policy with name } rest result) :
    Spells (mergeWithin depth) { policy with name := none }
      ((name.elim [] fun name =>
        Wire.writeDelimited 3 (Wire.bytesOfText name)) ++ rest) result := by
  cases name with
  | none => exact later
  | some name =>
      have payload : (Wire.bytesOfText name).length < 2 ^ 64 :=
        Nat.lt_of_le_of_lt (Wire.length_le_writeDelimited 3 _) fits
      refine .delimited (by decide) ?_ later
      simp only [mergeWithin, Wire.expectText_bytesOfText payload]
      rfl

theorem spells_ports (policy : Policy) (ports : List UInt32)
    (fits : (if ports = [] then [] else Wire.writeDelimited 4
      (ports.flatMap fun number => Wire.writeVarint number.toNat)).length <
        2 ^ 64)
    (later : Spells (mergeWithin depth) { policy with ports } rest result) :
    Spells (mergeWithin depth) { policy with ports := [] }
      ((if ports = [] then [] else Wire.writeDelimited 4
        (ports.flatMap fun number => Wire.writeVarint number.toNat)) ++ rest)
      result := by
  split
  · rename_i empty
    rw [empty] at later
    exact later
  · rename_i written
    rw [if_neg written] at fits
    have payload : (ports.flatMap fun number =>
        Wire.writeVarint number.toNat).length < 2 ^ 64 :=
      Nat.lt_of_le_of_lt (Wire.length_le_writeDelimited 4 _) fits
    refine .delimited (by decide) ?_ later
    simp only [mergeWithin, Wire.expectWords_writeVarint rfl payload]
    rfl

theorem spells_limits (policy : Policy) (limits : Option Limits)
    (fits : (limits.elim [] fun limits =>
      Wire.writeDelimited 5 limits.toBytes).length < 2 ^ 64)
    (later : Spells (mergeWithin depth) { policy with limits } rest result) :
    Spells (mergeWithin depth) { policy with limits := none }
      ((limits.elim [] fun limits =>
        Wire.writeDelimited 5 limits.toBytes) ++ rest) result := by
  cases limits with
  | none => exact later
  | some limits =>
      have payload : limits.toBytes.length < 2 ^ 64 :=
        Nat.lt_of_le_of_lt (Wire.length_le_writeDelimited 5 _) fits
      have spells : Spells (Limits.mergeWithin (depth - 1)) {} limits.toBytes
          limits := limits.spells_toBytes payload
      have read := Wire.mergeMessage_of_spells spells
      refine .delimited (by decide) ?_ later
      simp only [mergeWithin, Wire.expectDelimited, if_pos,
        Wire.readDelimited_append payload]
      simp [read]

theorem spells_labelBytes (label : String × String)
    (fits : (labelBytes label).length < 2 ^ 64) :
    Spells (mergeLabel depth) ("", "") (labelBytes label) label := by
  have nameFits : (Wire.bytesOfText label.1).length < 2 ^ 64 := by
    have within := Wire.length_le_writeText 1 label.1
    simp only [labelBytes, List.length_append] at fits
    omega
  have valueFits : (Wire.bytesOfText label.2).length < 2 ^ 64 := by
    have within := Wire.length_le_writeText 2 label.2
    simp only [labelBytes, List.length_append] at fits
    omega
  have last : Spells (mergeLabel depth) (label.1, "")
      (Wire.writeText 2 label.2 ++ []) label := by
    refine .text (by decide) (fun empty => by rw [← empty]) ?_ .nil
    simp only [mergeLabel, Wire.expectText_bytesOfText valueFits]
    rfl
  rw [labelBytes, ← List.append_nil (Wire.writeText 2 _)]
  refine .text (by decide) (fun empty => by rw [empty]) ?_ last
  simp only [mergeLabel, Wire.expectText_bytesOfText nameFits]
  rfl

theorem spells_labels (policy : Policy) (labels : List (String × String))
    (fits : (labels.flatMap fun label =>
      Wire.writeDelimited 6 (labelBytes label)).length < 2 ^ 64) :
    Spells (mergeWithin depth) policy
      (labels.flatMap fun label => Wire.writeDelimited 6 (labelBytes label))
      { policy with
        labels := labels.foldl (fun map label => map.insert label.1 label.2)
          policy.labels } := by
  induction labels generalizing policy with
  | nil => exact .nil
  | cons label later induction =>
      simp only [List.flatMap_cons, List.length_append] at fits
      have within := Wire.length_le_writeDelimited 6 (labelBytes label)
      have payload : (labelBytes label).length < 2 ^ 64 := by omega
      have spells : Spells (mergeLabel (depth - 1)) ("", "") (labelBytes label)
          label := spells_labelBytes label payload
      have read := Wire.mergeMessage_of_spells spells
      have others := induction
        { policy with labels := policy.labels.insert label.1 label.2 }
        (by omega)
      rw [List.flatMap_cons, List.foldl_cons]
      refine .delimited (by decide) ?_ others
      simp only [mergeWithin, Wire.readDelimited_append payload]
      simp [read]

theorem spells_toBytes (policy : Policy)
    (fits : policy.toBytes.length < 2 ^ 64) :
    Spells (mergeWithin depth) {} policy.toBytes policy := by
  obtain ⟨enabled, offset, name, ports, limits, labels⟩ := policy
  simp only [toBytes, List.length_append] at fits
  have restored : labels.toList.foldl
      (fun map label => map.insert label.1 label.2) .empty = labels :=
    labels.ofList_toList
  have last : Spells (mergeWithin depth) _ _ _ :=
    spells_labels ⟨enabled, offset, name, ports, limits, .empty⟩ labels.toList
      (by omega)
  simp only [restored] at last
  simp only [toBytes, List.append_assoc]
  refine spells_enabled {} enabled ?_
  refine spells_offset { enabled } offset ?_
  refine spells_name { enabled, offset } name (by omega) ?_
  refine spells_ports { enabled, offset, name } ports (by omega) ?_
  exact spells_limits { enabled, offset, name, ports } limits (by omega) last

theorem leads_toBytes (policy : Policy) : Leads fieldMarks policy.toBytes := by
  refine .append (.append (.append (.append (.append ?_ ?_) ?_) ?_) ?_) ?_
  · exact Wire.leads_writeNumber (by decide) (by decide) _
  · exact Wire.leads_writeNumber (by decide) (by decide) _
  · cases policy.name with
    | none => exact Wire.leads_nil
    | some name => exact Wire.leads_writeDelimited (by decide) (by decide) _
  · split
    · exact Wire.leads_nil
    · exact Wire.leads_writeDelimited (by decide) (by decide) _
  · cases policy.limits with
    | none => exact Wire.leads_nil
    | some limits => exact Wire.leads_writeDelimited (by decide) (by decide) _
  · refine Wire.leads_flatMap (fun label => ?_) _
    exact Wire.leads_writeDelimited (by decide) (by decide) _

instance : LawfulDocument Policy where
  ofJson?_toJson := ofJson?_toJson
  toJson_object _ := ⟨_, rfl⟩
  ofBytes?_toBytes policy fits :=
    Wire.mergeMessage_of_spells (policy.spells_toBytes fits)
  leads_toBytes := leads_toBytes

end Policy

end LiveFlags
