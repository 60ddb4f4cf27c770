import LiveFlags.SortedMap
import Mathlib.Data.List.Sort
import Mathlib.Data.String.Basic

/-!
# Sorted maps by what they hold

A sorted map is determined by what its keys look up, and a look-up finds
exactly the entries of the list.  Hence a map that is built from entries with
distinct keys does not depend on their order.
-/

namespace LiveFlags.SortedMap

variable {α : Type}

theorem nodup_keys (map : SortedMap α) : (map.toList.map Prod.fst).Nodup := by
  rw [List.Nodup, List.pairwise_map]
  exact map.sorted.imp fun before same =>
    String.ne_of_lt before same

private theorem mem_of_lookup {entries : List (String × α)} {key : String}
    {value : α} (found : entries.lookup key = some value) :
    (key, value) ∈ entries := by
  induction entries with
  | nil => cases found
  | cons entry later induction =>
      rw [lookup_cons_eq] at found
      by_cases same : key = entry.1
      · rw [if_pos same] at found
        obtain rfl := Option.some.inj found
        rw [same]
        exact List.mem_cons_self
      · rw [if_neg same] at found
        exact List.mem_cons_of_mem _ (induction found)

private theorem lookup_of_mem {entries : List (String × α)}
    (distinct : (entries.map Prod.fst).Nodup) {key : String} {value : α}
    (member : (key, value) ∈ entries) : entries.lookup key = some value := by
  induction entries with
  | nil => cases member
  | cons entry later induction =>
      obtain ⟨fresh, laterDistinct⟩ := List.nodup_cons.mp distinct
      rw [lookup_cons_eq]
      rcases List.mem_cons.mp member with rfl | later
      · exact if_pos rfl
      · have different : key ≠ entry.1 := by
          rintro rfl
          exact fresh (List.mem_map.mpr ⟨_, later, rfl⟩)
        rw [if_neg different]
        exact induction laterDistinct later

theorem get?_eq_some_iff {map : SortedMap α} {key : String} {value : α} :
    map.get? key = some value ↔ (key, value) ∈ map.toList :=
  ⟨mem_of_lookup, lookup_of_mem map.nodup_keys⟩

/-- Maps that look up the same are the same. -/
theorem ext_get? {left right : SortedMap α}
    (same : ∀ key, left.get? key = right.get? key) : left = right := by
  have members : ∀ entry, entry ∈ left.toList ↔ entry ∈ right.toList := by
    rintro ⟨key, value⟩
    rw [← get?_eq_some_iff, ← get?_eq_some_iff, same]
  have permutation : left.toList.Perm right.toList :=
    (List.perm_ext_iff_of_nodup left.nodup_keys.of_map
      right.nodup_keys.of_map).mpr members
  apply SortedMap.ext
  refine permutation.eq_of_pairwise ?_ left.sorted right.sorted
  intro first second _ _ before after
  exact absurd (String.lt_trans before after) (String.lt_irrefl _)

theorem get?_foldl_insert {entries : List (String × α)} {start : SortedMap α}
    (distinct : (entries.map Prod.fst).Nodup) (key : String) :
    (entries.foldl (fun map entry => map.insert entry.1 entry.2)
        start).get? key =
      (entries.lookup key).or (start.get? key) := by
  induction entries generalizing start with
  | nil => simp
  | cons entry later induction =>
      obtain ⟨fresh, laterDistinct⟩ := List.nodup_cons.mp distinct
      rw [List.foldl_cons, induction laterDistinct, get?_insert, lookup_cons_eq]
      by_cases same : key = entry.1
      · have absent : later.lookup key = none := by
          cases found : later.lookup key with
          | none => rfl
          | some value =>
              exact absurd
                (List.mem_map.mpr ⟨_, mem_of_lookup found, same⟩) fresh
        rw [absent, if_pos same, if_pos same, Option.none_or, Option.some_or]
      · rw [if_neg same, if_neg same]

/-- A map that is built from entries with distinct keys holds just these. -/
theorem get?_ofList {entries : List (String × α)}
    (distinct : (entries.map Prod.fst).Nodup) {key : String} {value : α} :
    (ofList entries).get? key = some value ↔ (key, value) ∈ entries := by
  rw [ofList, get?_foldl_insert distinct, get?_empty, Option.or_none]
  exact ⟨mem_of_lookup, lookup_of_mem distinct⟩

theorem mem_keys_iff {map : SortedMap α} {key : String} :
    key ∈ map.keys ↔ ∃ value, map.get? key = some value := by
  simp [keys, get?_eq_some_iff]

/-- A map that is built from any entries has just their keys. -/
theorem mem_keys_ofList {entries : List (String × α)} {key : String} :
    key ∈ (ofList entries).keys ↔ key ∈ entries.map Prod.fst := by
  suffices built : ∀ start : SortedMap α,
      key ∈ (entries.foldl (fun map entry => map.insert entry.1 entry.2)
        start).keys ↔ key ∈ entries.map Prod.fst ∨ key ∈ start.keys by
    have none : (empty : SortedMap α).keys = [] := rfl
    rw [ofList, built, none, List.mem_nil_iff, or_false]
  induction entries with
  | nil => simp
  | cons entry later induction =>
      intro start
      have inserted : key ∈ (start.insert entry.1 entry.2).keys ↔
          key = entry.1 ∨ key ∈ start.keys := by
        rw [mem_keys_iff, mem_keys_iff, get?_insert]
        by_cases same : key = entry.1 <;> simp [same]
      rw [List.foldl_cons, induction, inserted, List.map_cons, List.mem_cons,
        or_left_comm, or_assoc]

theorem ofList_perm {left right : List (String × α)}
    (permutation : left.Perm right) (distinct : (right.map Prod.fst).Nodup) :
    ofList left = ofList right := by
  have leftDistinct : (left.map Prod.fst).Nodup :=
    (permutation.map Prod.fst).nodup_iff.mpr distinct
  apply ext_get?
  intro key
  apply Option.ext
  intro value
  rw [get?_ofList leftDistinct, get?_ofList distinct]
  exact permutation.mem_iff

theorem ofList_toList (map : SortedMap α) : ofList map.toList = map := by
  apply ext_get?
  intro key
  apply Option.ext
  intro value
  rw [get?_ofList map.nodup_keys, get?_eq_some_iff]

/-- The entries whose keys satisfy a condition. -/
def filterKeys (keep : String → Bool) (map : SortedMap α) : SortedMap α :=
  ⟨map.toList.filter fun entry => keep entry.1, map.sorted.filter _⟩

@[simp] theorem get?_filterKeys (keep : String → Bool) (map : SortedMap α)
    (key : String) :
    (map.filterKeys keep).get? key =
      if keep key then map.get? key else none := by
  apply Option.ext
  intro value
  rw [get?_eq_some_iff, filterKeys, List.mem_filter, ← get?_eq_some_iff]
  split <;> simp_all

/-- The entry of one key, as a part of the list of all entries. -/
theorem filter_toList_eq (map : SortedMap α) (key : String) :
    (map.toList.filter fun entry => decide (entry.1 = key)) =
      (map.get? key).toList.map fun value => (key, value) := by
  have only : ∀ entry ∈ map.toList.filter (fun entry => decide (entry.1 = key)),
      map.get? key = some entry.2 := by
    rintro ⟨other, value⟩ member
    obtain ⟨held, same⟩ := List.mem_filter.mp member
    obtain rfl : other = key := by simpa using same
    exact get?_eq_some_iff.mpr held
  have distinct :
    (map.toList.filter fun entry => decide (entry.1 = key)).Nodup :=
    map.nodup_keys.of_map.filter _
  cases found : map.get? key with
  | none =>
      apply List.eq_nil_iff_forall_not_mem.mpr
      intro entry member
      have held := only entry member
      rw [found] at held
      cases held
  | some value =>
      refine (List.perm_singleton.mp ?_)
      refine (List.perm_ext_iff_of_nodup distinct
        (List.nodup_singleton _)).mpr ?_
      rintro ⟨other, otherValue⟩
      rw [List.mem_filter, ← get?_eq_some_iff, List.mem_singleton]
      constructor
      · rintro ⟨held, same⟩
        obtain rfl : other = key := by simpa using same
        rw [found] at held
        rw [Option.some.inj held]
      · intro same
        cases same
        exact ⟨found, by simp⟩

end LiveFlags.SortedMap
