/-!
# Maps sorted by key

A map from text keys to values, kept as the list of its entries in increasing
key order.  The order is part of the type, so two maps with the same entries are
equal and a listing needs no sorting.  The main statements say what a look-up
finds after an insertion and after a removal.
-/

namespace LiveFlags

/-- Entries in strictly increasing order of their keys. -/
structure SortedMap (α : Type) where
  toList : List (String × α)
  sorted : toList.Pairwise fun earlier later => earlier.1 < later.1
deriving DecidableEq

namespace SortedMap

variable {α β : Type}

@[ext]
theorem ext {left right : SortedMap α} (same : left.toList = right.toList) :
    left = right := by
  cases left
  cases right
  cases same
  rfl

def empty : SortedMap α := ⟨[], .nil⟩

instance : Inhabited (SortedMap α) := ⟨empty⟩

/-- Put an entry at its place in a sorted list, over the entry that had its
key. -/
def insertEntry (key : String) (value : α) :
    List (String × α) → List (String × α)
  | [] => [(key, value)]
  | entry :: rest =>
    if key < entry.1 then (key, value) :: entry :: rest
    else if key = entry.1 then (key, value) :: rest
    else entry :: insertEntry key value rest

theorem mem_insertEntry {key : String} {value : α} {entries : List (String × α)}
    {found : String × α} (member : found ∈ insertEntry key value entries) :
    found = (key, value) ∨ found ∈ entries := by
  induction entries with
  | nil => simpa [insertEntry] using member
  | cons entry rest ih =>
      rw [insertEntry] at member
      split at member
      · simpa using member
      · split at member
        · rcases List.mem_cons.mp member with first | later
          · exact .inl first
          · exact .inr (List.mem_cons_of_mem _ later)
        · rcases List.mem_cons.mp member with first | later
          · exact .inr (first ▸ List.mem_cons_self)
          · exact (ih later).imp id (List.mem_cons_of_mem _)

theorem pairwise_insertEntry {key : String} {value : α}
    {entries : List (String × α)}
    (sorted : entries.Pairwise fun earlier later => earlier.1 < later.1) :
    (insertEntry key value entries).Pairwise fun earlier later =>
      earlier.1 < later.1 := by
  induction entries with
  | nil => simp [insertEntry]
  | cons entry rest ih =>
      obtain ⟨head, tail⟩ := List.pairwise_cons.mp sorted
      rw [insertEntry]
      split
      · rename_i before
        refine List.pairwise_cons.mpr ⟨?_, sorted⟩
        intro other member
        rcases List.mem_cons.mp member with rfl | later
        · exact before
        · exact String.lt_trans before (head other later)
      · split
        · rename_i same
          subst same
          exact List.pairwise_cons.mpr ⟨head, tail⟩
        · rename_i notBefore different
          refine List.pairwise_cons.mpr ⟨?_, ih tail⟩
          intro other member
          rcases mem_insertEntry member with rfl | later
          · exact Std.lt_of_le_of_ne (String.not_lt.mp notBefore)
              (Ne.symm different)
          · exact head other later

def insert (map : SortedMap α) (key : String) (value : α) : SortedMap α :=
  ⟨insertEntry key value map.toList, pairwise_insertEntry map.sorted⟩

/-- The map in which `key` has no value. -/
def erase (map : SortedMap α) (key : String) : SortedMap α :=
  ⟨map.toList.filter fun entry => entry.1 ≠ key, map.sorted.filter _⟩

def get? (map : SortedMap α) (key : String) : Option α :=
  map.toList.lookup key

def keys (map : SortedMap α) : List String :=
  map.toList.map Prod.fst

def mapValues (f : α → β) (map : SortedMap α) : SortedMap β :=
  ⟨map.toList.map fun entry => (entry.1, f entry.2),
    List.pairwise_map.mpr map.sorted⟩

/-- Entries inserted from left to right, so the last of a key wins. -/
def ofList (entries : List (String × α)) : SortedMap α :=
  entries.foldl (fun map entry => map.insert entry.1 entry.2) empty

theorem lookup_cons_eq (entry : String × α) (rest : List (String × α))
    (sought : String) :
    (entry :: rest).lookup sought =
      if sought = entry.1 then some entry.2 else rest.lookup sought := by
  rw [List.lookup_cons]
  by_cases same : sought = entry.1
  · simp [same]
  · simp [same, beq_eq_false_iff_ne.mpr same]

theorem lookup_insertEntry (key : String) (value : α)
    (entries : List (String × α)) (sought : String) :
    (insertEntry key value entries).lookup sought =
      if sought = key then some value else entries.lookup sought := by
  induction entries with
  | nil => rw [insertEntry, lookup_cons_eq]
  | cons entry rest ih =>
      rw [insertEntry]
      split
      · rw [lookup_cons_eq]
      · split
        · rename_i replaced
          rw [lookup_cons_eq, lookup_cons_eq, ← replaced]
          split <;> rfl
        · rename_i different
          rw [lookup_cons_eq, lookup_cons_eq, ih]
          by_cases same : sought = key
          · subst same
            simp [different]
          · simp [same]

@[simp]
theorem get?_empty (sought : String) :
    (empty : SortedMap α).get? sought = none := rfl

@[simp]
theorem get?_insert (map : SortedMap α) (key : String) (value : α)
    (sought : String) :
    (map.insert key value).get? sought =
      if sought = key then some value else map.get? sought :=
  lookup_insertEntry key value map.toList sought

@[simp]
theorem get?_erase (map : SortedMap α) (key sought : String) :
    (map.erase key).get? sought =
      if sought = key then none else map.get? sought := by
  obtain ⟨entries, sorted⟩ := map
  simp only [erase, get?]
  clear sorted
  induction entries with
  | nil => simp
  | cons entry rest ih =>
      by_cases dropped : entry.1 = key
      · rw [List.filter_cons_of_neg (by simp [dropped]), ih, lookup_cons_eq]
        by_cases same : sought = key
        · simp [same]
        · simp [same, dropped]
      · rw [List.filter_cons_of_pos (by simp [dropped]), lookup_cons_eq,
          lookup_cons_eq, ih]
        by_cases same : sought = entry.1
        · simp [same, dropped]
        · simp [same]

end SortedMap

end LiveFlags
