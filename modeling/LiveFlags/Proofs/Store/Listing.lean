import LiveFlags.Proofs.Key
import LiveFlags.Proofs.SortedMap
import LiveFlags.Proofs.Store.Log

/-!
# What a read of a directory lists

A recursive read of a directory lists a leaf for every entry below it and marks
everything else as a directory.  The scan that starts at the directory and
stops at the first key outside loses nothing, because the keys below a
directory stand together.
-/

namespace LiveFlags

/-- The leaves of a snapshot as a map from keys to entries. -/
def Snapshot.leafMap (snapshot : Snapshot) : SortedMap Entry :=
  .ofList ((snapshot.nodes.filter fun node => !node.isDirectory).map fun node =>
    (node.key, ⟨node.value, node.index⟩))

/-- The leaf that shows an entry. -/
def Node.ofEntry (entry : String × Entry) : Node :=
  .leaf entry.1 entry.2.value entry.2.index

namespace MemoryStore

/-- In key order, the entries from a directory on up to the first one outside
are all entries below it. -/
private theorem scan_eq_filter (directory : String)
    {entries : List (String × Entry)}
    (sorted : entries.Pairwise fun earlier later => earlier.1 < later.1) :
    ((entries.dropWhile fun entry => entry.1 < directory).takeWhile fun entry =>
        Key.isBelow directory entry.1) =
      entries.filter fun entry => Key.isBelow directory entry.1 := by
  induction entries with
  | nil => rfl
  | cons entry later induction =>
      obtain ⟨first, laterSorted⟩ := List.pairwise_cons.mp sorted
      by_cases before : entry.1 < directory
      · have outside : ¬ Key.isBelow directory entry.1 = true := fun below =>
          Key.not_lt_directory below before
        rw [List.dropWhile_cons_of_pos (by simpa using before),
          List.filter_cons_of_neg (by simpa using outside)]
        exact induction laterSorted
      · rw [List.dropWhile_cons_of_neg (by simpa using before)]
        by_cases below : Key.isBelow directory entry.1 = true
        · have none : ∀ other ∈ later, ¬ other.1 < directory := by
            intro other member smaller
            exact before (String.lt_trans (first other member) smaller)
          have whole : (later.dropWhile fun other => other.1 < directory) =
              later := by
            cases later with
            | nil => rfl
            | cons head tail =>
                exact List.dropWhile_cons_of_neg
                  (by simpa using none head List.mem_cons_self)
          rw [List.takeWhile_cons_of_pos (by simpa using below),
            List.filter_cons_of_pos (by simpa using below),
            ← induction laterSorted, whole]
        · rw [List.takeWhile_cons_of_neg (by simpa using below),
            List.filter_cons_of_neg (by simpa using below)]
          symm
          rw [List.filter_eq_nil_iff]
          intro other member otherBelow
          exact below
            (Key.isBelow_of_between before (first other member) otherBelow)

/-- The scan finds what a look at every entry would find. -/
theorem entriesBelow_eq (store : MemoryStore) (directory : String) :
    store.entriesBelow directory =
      store.entries.toList.filterMap fun entry =>
        (Key.below? directory entry.1).map fun rest =>
          (rest, entry.1, entry.2) := by
  rw [entriesBelow, scan_eq_filter directory store.entries.sorted,
    List.filterMap_filter]
  congr 1
  funext entry
  cases found : Key.below? directory entry.1 <;> simp [Key.isBelow, found]

theorem leaves_eq (store : MemoryStore) (directory : String) :
    ((store.entriesBelow directory).filterMap fun (rest, key, entry) =>
      if true || (Key.segments rest).length = 1 then
        some (Node.leaf key entry.value entry.index)
      else none) =
      (store.entries.filterKeys (Key.isBelow directory)).toList.map
        Node.ofEntry := by
  rw [entriesBelow, scan_eq_filter directory store.entries.sorted,
    List.filterMap_filterMap, SortedMap.filterKeys,
    List.filterMap_eq_map_iff_forall_eq_some]
  intro entry member
  obtain ⟨rest, found⟩ :=
    Option.isSome_iff_exists.mp (List.mem_filter.mp member).2
  simp [found, Node.ofEntry]

theorem get?_of_isDirectory {store : MemoryStore} {log : List ChangeEvent}
    (traces : store.Traces log) {path : String}
    (isDirectory : Key.IsDirectory path) : store.entries.get? path = none := by
  cases found : store.entries.get? path with
  | none => rfl
  | some entry =>
      exact absurd isDirectory (Key.not_isDirectory_of_isStorable
        (traces.isStorable_of_entry found))

/-- A recursive read of a directory lists the entries below it and, besides,
only directories. -/
theorem get_nodes_perm {store : MemoryStore} {log : List ChangeEvent}
    (traces : store.Traces log) {directory : String}
    (isDirectory : Key.IsDirectory directory) (sorted : Bool) :
    ∃ directories : List Node, (∀ node ∈ directories, node.isDirectory = true) ∧
      (store.get directory ⟨true, sorted⟩).nodes.Perm
        ((store.entries.filterKeys (Key.isBelow directory)).toList.map
          Node.ofEntry ++ directories) := by
  have absent := get?_of_isDirectory traces isDirectory
  let directories := (sortedDistinct ((store.entriesBelow directory).flatMap
    fun (rest, _, _) =>
      impliedDirectories directory true (Key.segments rest))).map fun key =>
        Node.directory key store.index
  have listed : store.nodesBelow directory true =
      (store.entries.filterKeys (Key.isBelow directory)).toList.map
        Node.ofEntry ++ directories := by
    rw [← leaves_eq]
    rfl
  refine ⟨directories, ?_, ?_⟩
  · intro node member
    obtain ⟨key, _, rfl⟩ := List.mem_map.mp member
    rfl
  · rw [get, absent, ← listed]
    simp only [Key.asDirectory_of_isDirectory isDirectory]
    split
    · exact List.mergeSort_perm _ _
    · exact List.Perm.refl _

theorem get_index (store : MemoryStore) (path : String)
    (options : ReadOptions) :
    (store.get path options).index = store.index := by
  unfold get
  split <;> rfl

/-- The leaves of a recursive read are the entries below the directory. -/
theorem get_leaves_perm {store : MemoryStore} {log : List ChangeEvent}
    (traces : store.Traces log) {directory : String}
    (isDirectory : Key.IsDirectory directory) (sorted : Bool) :
    ((store.get directory ⟨true, sorted⟩).nodes.filter fun node =>
        !node.isDirectory).Perm
      ((store.entries.filterKeys (Key.isBelow directory)).toList.map
        Node.ofEntry) := by
  obtain ⟨directories, marked, permutation⟩ :=
    get_nodes_perm traces isDirectory sorted
  let below := store.entries.filterKeys (Key.isBelow directory)
  have leaves : ((below.toList.map Node.ofEntry ++ directories).filter
      fun node => !node.isDirectory) = below.toList.map Node.ofEntry := by
    rw [List.filter_append, List.filter_eq_self.mpr, List.filter_eq_nil_iff.mpr,
      List.append_nil]
    · intro node member
      simp [marked node member]
    · intro node member
      obtain ⟨entry, _, rfl⟩ := List.mem_map.mp member
      rfl
  have same := permutation.filter fun node => !node.isDirectory
  rwa [leaves] at same

theorem leafMap_get {store : MemoryStore} {log : List ChangeEvent}
    (traces : store.Traces log) {directory : String}
    (isDirectory : Key.IsDirectory directory) (sorted : Bool) :
    (store.get directory ⟨true, sorted⟩).leafMap =
      store.entries.filterKeys (Key.isBelow directory) := by
  let below := store.entries.filterKeys (Key.isBelow directory)
  have shown : ((below.toList.map Node.ofEntry).map fun node =>
      (node.key, (⟨node.value, node.index⟩ : Entry))) = below.toList := by
    rw [List.map_map]
    exact List.map_id _
  have entries := (get_leaves_perm traces isDirectory sorted).map
    fun node => (node.key, (⟨node.value, node.index⟩ : Entry))
  rw [shown] at entries
  rw [Snapshot.leafMap, SortedMap.ofList_perm entries below.nodup_keys]
  exact below.ofList_toList

/-- What a sorted read does with its nodes puts them in the order of their
keys. -/
theorem pairwise_mergeSort_key (nodes : List Node) :
    (nodes.mergeSort fun left right => decide (left.key ≤ right.key)).Pairwise
      fun earlier later => earlier.key ≤ later.key := by
  have ordered : (nodes.mergeSort fun left right =>
      decide (left.key ≤ right.key)).Pairwise
        fun earlier later => decide (earlier.key ≤ later.key) = true := by
    apply List.pairwise_mergeSort
    · simpa using fun _ _ _ => String.le_trans
    · simpa using fun _ _ => String.le_total _ _
  exact ordered.imp of_decide_eq_true

theorem pairwise_key_le (store : MemoryStore) {path : String}
    (absent : store.entries.get? path = none) :
    (store.get path .everything).nodes.Pairwise fun earlier later =>
      earlier.key ≤ later.key := by
  rw [get, absent]
  exact pairwise_mergeSort_key _

/-- A sorted read lists the entries below the directory in the order of their
keys, whatever directories stand in between. -/
theorem get_leaves {store : MemoryStore} {log : List ChangeEvent}
    (traces : store.Traces log) {directory : String}
    (isDirectory : Key.IsDirectory directory) :
    ((store.get directory .everything).nodes.filter fun node =>
        !node.isDirectory) =
      (store.entries.filterKeys (Key.isBelow directory)).toList.map
        Node.ofEntry := by
  let below := store.entries.filterKeys (Key.isBelow directory)
  have same := get_leaves_perm traces isDirectory true
  have ordered :=
    store.pairwise_key_le (get?_of_isDirectory traces isDirectory)
  have increasing : (below.toList.map Node.ofEntry).Pairwise
      fun earlier later => earlier.key < later.key :=
    List.pairwise_map.mpr below.sorted
  refine List.Perm.eq_of_pairwise ?_ (ordered.filter _)
    (increasing.imp fun less => Std.le_of_lt less) same
  intro left right leftListed rightListed forth back
  have sameKey : left.key = right.key := Std.le_antisymm forth back
  obtain ⟨⟨key, entry⟩, leftHeld, rfl⟩ :=
    List.mem_map.mp (same.subset leftListed)
  obtain ⟨⟨_, other⟩, rightHeld, rfl⟩ := List.mem_map.mp rightListed
  obtain rfl : key = _ := sameKey
  have leftFound := SortedMap.get?_eq_some_iff.mpr leftHeld
  have rightFound := SortedMap.get?_eq_some_iff.mpr rightHeld
  obtain rfl : entry = other := by simpa [leftFound] using rightFound
  rfl

/-- A key below the directory is listed as at most one leaf, with its entry. -/
theorem get_leaf {store : MemoryStore} {log : List ChangeEvent}
    (traces : store.Traces log) {directory key : String}
    (isDirectory : Key.IsDirectory directory)
    (below : Key.isBelow directory key = true) (sorted : Bool) :
    ((store.get directory ⟨true, sorted⟩).nodes.filter fun node =>
        !node.isDirectory && decide (node.key = key)) =
      (store.entries.get? key).toList.map fun entry =>
        Node.ofEntry (key, entry) := by
  have parts : (((store.entries.filterKeys (Key.isBelow directory)).toList.map
      Node.ofEntry).filter fun node => decide (node.key = key)) =
      (store.entries.get? key).toList.map fun entry =>
        Node.ofEntry (key, entry) := by
    rw [List.filter_map]
    change ((store.entries.filterKeys (Key.isBelow directory)).toList.filter
      fun entry => decide (entry.1 = key)).map Node.ofEntry = _
    rw [SortedMap.filter_toList_eq, SortedMap.get?_filterKeys, if_pos below,
      List.map_map]
    rfl
  have same := (get_leaves_perm traces isDirectory sorted).filter
    fun node => decide (node.key = key)
  simp only [parts, List.filter_filter, Bool.and_comm (decide _)] at same
  cases found : store.entries.get? key with
  | none =>
      rw [found] at same
      exact List.perm_nil.mp same
  | some entry =>
      rw [found] at same
      exact List.perm_singleton.mp same

end MemoryStore

end LiveFlags
