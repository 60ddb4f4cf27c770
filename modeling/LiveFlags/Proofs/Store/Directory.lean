import LiveFlags.Proofs.Store.Listing

/-!
# What a read of a path returns

A read of a stored key returns its leaf and nothing else.  A read of any other
path lists a directory: the leaves below it, and every directory above one of
the keys below it.  Directories are stored nowhere; they come from the segments
of the keys, so an empty segment makes one as well, and a path can be a leaf and
a directory at once.
-/

namespace LiveFlags

namespace Key

/-- Whether a path can stand in a read of a directory: anywhere below it, or
only on its first level. -/
def IsListed (directory : String) (recursive : Bool) (path : String) : Prop :=
  ∃ rest, path = directory ++ rest ∧
    (recursive = true ∨ separator ∉ rest.toList)

/-- Whether a path is a directory that has a key in it. -/
def IsAbove (path key : String) : Prop :=
  ∃ rest, key = path ++ "/" ++ rest

theorem segments_ne_nil (path : String) : segments path ≠ [] := by
  rw [segments, ne_eq, List.map_eq_nil_iff]
  exact List.splitOn_ne_nil separator path.toList

theorem intercalate_segments (path : String) :
    String.intercalate "/" (segments path) = path := by
  rw [← String.toList_inj, String.toList_intercalate, segments, List.map_map]
  have pieces : String.toList ∘ String.ofList = id := by
    funext characters
    exact String.toList_ofList
  rw [pieces, List.map_id]
  exact List.intercalate_splitOn separator

theorem segments_append (start rest : String) :
    segments (start ++ "/" ++ rest) = segments start ++ segments rest := by
  have characters : (start ++ "/" ++ rest).toList =
      start.toList ++ separator :: rest.toList := by
    simp [separator]
  rw [segments, characters, List.splitOn_append_cons_self, List.map_append]
  rfl

theorem segments_eq_singleton {path : String}
    (single : separator ∉ path.toList) : segments path = [path] := by
  rw [segments, List.splitOn_eq_singleton single]
  simp

theorem exists_append_of_separator_mem {path : String}
    (member : separator ∈ path.toList) :
    ∃ first rest, separator ∉ first.toList ∧ path = first ++ "/" ++ rest := by
  obtain ⟨first, rest, characters, single⟩ := List.eq_append_cons_of_mem member
  refine ⟨String.ofList first, String.ofList rest, ?_, String.toList_inj.mp ?_⟩
  · rwa [String.toList_ofList]
  · simpa [separator] using characters

theorem length_segments_eq_one_iff {path : String} :
    (segments path).length = 1 ↔ separator ∉ path.toList := by
  constructor
  · intro single member
    obtain ⟨first, rest, _, rfl⟩ := exists_append_of_separator_mem member
    rw [segments_append, List.length_append] at single
    have front := List.length_pos_iff.mpr (segments_ne_nil first)
    have back := List.length_pos_iff.mpr (segments_ne_nil rest)
    omega
  · intro single
    rw [segments_eq_singleton single]
    rfl

/-- The first segments of a text, short of all, are a directory above it. -/
theorem isAbove_take {path : String} {depth : Nat}
    (short : depth + 1 < (segments path).length) :
    IsAbove (String.intercalate "/" ((segments path).take (depth + 1)))
      path := by
  have front : (segments path).take (depth + 1) ≠ [] := by
    simpa using segments_ne_nil path
  have back : (segments path).drop (depth + 1) ≠ [] := by
    simpa using short
  refine ⟨String.intercalate "/" ((segments path).drop (depth + 1)), ?_⟩
  rw [← String.intercalate_append_of_ne_nil front back, List.take_append_drop,
    intercalate_segments]

/-- The first segment of a text that has several. -/
theorem separator_notMem_take_one {path : String}
    (several : 1 < (segments path).length) :
    separator ∉ (String.intercalate "/" ((segments path).take 1)).toList := by
  have member : separator ∈ path.toList := by
    by_contra single
    have one := length_segments_eq_one_iff.mpr single
    omega
  obtain ⟨first, rest, single, rfl⟩ := exists_append_of_separator_mem member
  rwa [segments_append, segments_eq_singleton single, List.singleton_append,
    List.take_succ_cons, List.take_zero, String.intercalate_singleton]

end Key

namespace MemoryStore

/-- The directories that a key implies are those above it which the read
lists. -/
theorem mem_impliedDirectories {directory rest path : String}
    {recursive : Bool} :
    path ∈ impliedDirectories directory recursive (Key.segments rest) ↔
      ∃ start, path = directory ++ start ∧
        (recursive = true ∨ Key.separator ∉ start.toList) ∧
        Key.IsAbove start rest := by
  simp only [impliedDirectories, List.mem_map, List.mem_range]
  constructor
  · rintro ⟨depth, bounded, rfl⟩
    refine ⟨_, rfl, ?_, ?_⟩
    · cases recursive with
      | true => exact .inl rfl
      | false =>
          simp only [Bool.false_eq_true, if_false] at bounded
          obtain rfl : depth = 0 := by omega
          exact .inr (Key.separator_notMem_take_one (by omega))
    · apply Key.isAbove_take
      split at bounded <;> omega
  · rintro ⟨start, rfl, listed, tail, rfl⟩
    have front := List.length_pos_iff.mpr (Key.segments_ne_nil start)
    have back := List.length_pos_iff.mpr (Key.segments_ne_nil tail)
    refine ⟨(Key.segments start).length - 1, ?_, ?_⟩
    · rw [Key.segments_append, List.length_append]
      cases recursive with
      | true =>
          simp only [if_true]
          omega
      | false =>
          have single := Key.length_segments_eq_one_iff.mpr
            (listed.resolve_left Bool.false_ne_true)
          simp only [Bool.false_eq_true, if_false]
          omega
    · rw [Nat.sub_add_cancel front, Key.segments_append, List.take_left,
        Key.intercalate_segments]

theorem mem_entriesBelow {store : MemoryStore}
    {directory rest key : String} {entry : Entry} :
    (rest, key, entry) ∈ store.entriesBelow directory ↔
      key = directory ++ rest ∧ store.entries.get? key = some entry := by
  rw [entriesBelow_eq, List.mem_filterMap, SortedMap.get?_eq_some_iff]
  simp only [Option.map_eq_some_iff, Key.below?_eq_some_iff]
  constructor
  · rintro ⟨⟨_, _⟩, held, _, split, same⟩
    cases same
    exact ⟨split, held⟩
  · rintro ⟨split, held⟩
    exact ⟨(key, entry), held, rest, split, rfl⟩

theorem mem_sortedDistinct {texts : List String} {text : String} :
    text ∈ sortedDistinct texts ↔ text ∈ texts := by
  rw [sortedDistinct, SortedMap.mem_keys_ofList, List.map_map]
  simp

theorem sortedDistinct_increasing (texts : List String) :
    (sortedDistinct texts).Pairwise fun earlier later => earlier < later :=
  List.pairwise_map.mpr (SortedMap.sorted _)

/-- The leaves in a read of a directory. -/
def leavesBelow (store : MemoryStore) (directory : String) (recursive : Bool) :
    List Node :=
  (store.entriesBelow directory).filterMap fun (rest, key, entry) =>
    if recursive || (Key.segments rest).length = 1 then
      some (Node.leaf key entry.value entry.index)
    else none

/-- The directories in a read of a directory. -/
def directoriesBelow (store : MemoryStore) (directory : String)
    (recursive : Bool) : List Node :=
  (sortedDistinct ((store.entriesBelow directory).flatMap fun (rest, _, _) =>
    impliedDirectories directory recursive (Key.segments rest))).map fun key =>
      Node.directory key store.index

theorem nodesBelow_eq (store : MemoryStore) (directory : String)
    (recursive : Bool) :
    store.nodesBelow directory recursive =
      store.leavesBelow directory recursive ++
        store.directoriesBelow directory recursive := rfl

theorem mem_leavesBelow {store : MemoryStore} {directory : String}
    {recursive : Bool} {node : Node} :
    node ∈ store.leavesBelow directory recursive ↔
      ∃ key entry, store.entries.get? key = some entry ∧
        Key.IsListed directory recursive key ∧
        node = .leaf key entry.value entry.index := by
  simp only [leavesBelow, List.mem_filterMap, Prod.exists, mem_entriesBelow,
    Option.ite_none_right_eq_some, Bool.or_eq_true, decide_eq_true_eq,
    Key.length_segments_eq_one_iff]
  constructor
  · rintro ⟨rest, key, entry, ⟨split, found⟩, listed, same⟩
    exact ⟨key, entry, found, ⟨rest, split, listed⟩,
      (Option.some.inj same).symm⟩
  · rintro ⟨key, entry, found, ⟨rest, split, listed⟩, rfl⟩
    exact ⟨rest, key, entry, ⟨split, found⟩, listed, rfl⟩

theorem mem_directoriesBelow {store : MemoryStore} {directory : String}
    {recursive : Bool} {node : Node} :
    node ∈ store.directoriesBelow directory recursive ↔
      ∃ path, Key.IsListed directory recursive path ∧
        (∃ key entry, store.entries.get? key = some entry ∧
          Key.IsAbove path key) ∧
        node = .directory path store.index := by
  simp only [directoriesBelow, List.mem_map, mem_sortedDistinct,
    List.mem_flatMap, Prod.exists, mem_entriesBelow, mem_impliedDirectories]
  constructor
  · rintro ⟨_, ⟨rest, key, entry, ⟨split, found⟩, start, rfl, listed, tail,
      below⟩,
      rfl⟩
    refine ⟨directory ++ start, ⟨start, rfl, listed⟩,
      ⟨key, entry, found, tail, ?_⟩, rfl⟩
    rw [split, below]
    simp only [String.append_assoc]
  · rintro ⟨_, ⟨start, rfl, listed⟩, ⟨key, entry, found, tail, above⟩, rfl⟩
    refine ⟨directory ++ start, ⟨start ++ "/" ++ tail, key, entry, ⟨?_, found⟩,
      start, rfl, listed, tail, rfl⟩, rfl⟩
    rw [above]
    simp only [String.append_assoc]

theorem leavesBelow_increasing (store : MemoryStore) (directory : String)
    (recursive : Bool) :
    (store.leavesBelow directory recursive).Pairwise fun earlier later =>
      earlier.key < later.key := by
  have scanned : (store.entriesBelow directory).Pairwise fun earlier later =>
      earlier.2.1 < later.2.1 := by
    rw [entriesBelow_eq]
    refine List.Pairwise.filterMap _ ?_ store.entries.sorted
    intro earlier later before _ first _ second
    obtain ⟨_, _, rfl⟩ := Option.map_eq_some_iff.mp first
    obtain ⟨_, _, rfl⟩ := Option.map_eq_some_iff.mp second
    exact before
  refine List.Pairwise.filterMap _ ?_ scanned
  intro earlier later before _ first _ second
  obtain ⟨_, same⟩ := Option.ite_none_right_eq_some.mp first
  obtain ⟨_, sameLater⟩ := Option.ite_none_right_eq_some.mp second
  cases same
  cases sameLater
  exact before

theorem directoriesBelow_increasing (store : MemoryStore) (directory : String)
    (recursive : Bool) :
    (store.directoriesBelow directory recursive).Pairwise fun earlier later =>
      earlier.key < later.key :=
  List.pairwise_map.mpr (sortedDistinct_increasing _)

/-- The nodes of a read list a directory of a store. -/
structure Lists (store : MemoryStore) (directory : String)
    (options : ReadOptions) (nodes : List Node) : Prop where
  leaves : ∀ node, (node ∈ nodes ∧ node.isDirectory = false) ↔
    ∃ key entry, store.entries.get? key = some entry ∧
      Key.IsListed directory options.recursive key ∧
      node = .leaf key entry.value entry.index
  directories : ∀ node, (node ∈ nodes ∧ node.isDirectory = true) ↔
    ∃ path, Key.IsListed directory options.recursive path ∧
      (∃ key entry, store.entries.get? key = some entry ∧
        Key.IsAbove path key) ∧
      node = .directory path store.index
  /-- No leaf is listed twice. -/
  leavesIncrease : (nodes.filter fun node => !node.isDirectory).Pairwise
    fun earlier later => earlier.key < later.key
  /-- No directory is listed twice. -/
  directoriesIncrease : (nodes.filter fun node => node.isDirectory).Pairwise
    fun earlier later => earlier.key < later.key
  sorted : options.sorted = true →
    nodes.Pairwise fun earlier later => earlier.key ≤ later.key
  grouped : options.sorted = false →
    nodes = (nodes.filter fun node => !node.isDirectory) ++
      nodes.filter fun node => node.isDirectory

variable {store : MemoryStore} {directory : String} {options : ReadOptions}

theorem isDirectory_of_mem_leavesBelow {recursive : Bool} {node : Node}
    (member : node ∈ store.leavesBelow directory recursive) :
    node.isDirectory = false := by
  obtain ⟨_, _, _, _, rfl⟩ := mem_leavesBelow.mp member
  rfl

theorem isDirectory_of_mem_directoriesBelow {recursive : Bool} {node : Node}
    (member : node ∈ store.directoriesBelow directory recursive) :
    node.isDirectory = true := by
  obtain ⟨_, _, _, rfl⟩ := mem_directoriesBelow.mp member
  rfl

theorem filter_nodesBelow (store : MemoryStore) (directory : String)
    (recursive : Bool) :
    ((store.nodesBelow directory recursive).filter fun node =>
      node.isDirectory) = store.directoriesBelow directory recursive := by
  rw [nodesBelow_eq, List.filter_append, List.filter_eq_nil_iff.mpr,
    List.filter_eq_self.mpr, List.nil_append]
  · intro node member
    exact isDirectory_of_mem_directoriesBelow member
  · intro node member
    simp [isDirectory_of_mem_leavesBelow member]

theorem filter_not_nodesBelow (store : MemoryStore) (directory : String)
    (recursive : Bool) :
    ((store.nodesBelow directory recursive).filter fun node =>
      !node.isDirectory) = store.leavesBelow directory recursive := by
  rw [nodesBelow_eq, List.filter_append, List.filter_eq_self.mpr,
    List.filter_eq_nil_iff.mpr, List.append_nil]
  · intro node member
    simp [isDirectory_of_mem_directoriesBelow member]
  · intro node member
    simp [isDirectory_of_mem_leavesBelow member]

/-- Nodes in the order of their keys that only rearrange nodes with increasing
keys have increasing keys as well. -/
theorem increasing_of_perm {nodes listed : List Node}
    (same : nodes.Perm listed)
    (increasing : listed.Pairwise fun earlier later => earlier.key < later.key)
    (ordered : nodes.Pairwise fun earlier later => earlier.key ≤ later.key) :
    nodes.Pairwise fun earlier later => earlier.key < later.key := by
  have listedDistinct : listed.Pairwise fun earlier later =>
      earlier.key ≠ later.key :=
    increasing.imp fun before => String.ne_of_lt before
  have distinct : nodes.Pairwise fun earlier later => earlier.key ≠ later.key :=
    (same.pairwise_iff fun different => Ne.symm different).mpr listedDistinct
  exact ordered.imp₂ (fun _ _ before different =>
    Std.lt_of_le_of_ne before different) distinct

/-- A rearrangement of the nodes below a directory lists it, if a sorted read
has put them in order and any other has left them alone. -/
theorem Lists.of_perm {nodes : List Node}
    (same : nodes.Perm (store.nodesBelow directory options.recursive))
    (sorted : options.sorted = true →
      nodes.Pairwise fun earlier later => earlier.key ≤ later.key)
    (untouched : options.sorted = false →
      nodes = store.nodesBelow directory options.recursive) :
    store.Lists directory options nodes := by
  have leaves := same.filter fun node => !node.isDirectory
  have directories := same.filter fun node => node.isDirectory
  rw [filter_not_nodesBelow] at leaves
  rw [filter_nodesBelow] at directories
  have leavesIncrease := store.leavesBelow_increasing directory
    options.recursive
  have directoriesIncrease := store.directoriesBelow_increasing directory
    options.recursive
  refine ⟨?_, ?_, ?_, ?_, sorted, ?_⟩
  · intro node
    rw [← mem_leavesBelow, ← leaves.mem_iff]
    simp
  · intro node
    rw [← mem_directoriesBelow, ← directories.mem_iff]
    simp
  · cases order : options.sorted with
    | true =>
        exact increasing_of_perm leaves leavesIncrease ((sorted order).filter _)
    | false => rwa [untouched order, filter_not_nodesBelow]
  · cases order : options.sorted with
    | true =>
        exact increasing_of_perm directories directoriesIncrease
          ((sorted order).filter _)
    | false => rwa [untouched order, filter_nodesBelow]
  · intro order
    rw [untouched order, filter_not_nodesBelow, filter_nodesBelow,
      nodesBelow_eq]

/-- A read of a path shows the index of the store and either the one leaf that
stands there, or what the path lists as a directory. -/
theorem get_shows (store : MemoryStore) (path : String)
    (options : ReadOptions) :
    (store.get path options).index = store.index ∧
      (∀ entry, store.entries.get? path = some entry →
        (store.get path options).nodes =
          [.leaf path entry.value entry.index]) ∧
      (store.entries.get? path = none →
        store.Lists (Key.asDirectory path) options
          (store.get path options).nodes) := by
  refine ⟨get_index store path options, ?_, ?_⟩
  · intro entry found
    rw [get, found]
  · intro absent
    rw [get, absent]
    dsimp only
    apply Lists.of_perm
    · split
      · exact List.mergeSort_perm _ _
      · exact List.Perm.refl _
    · intro order
      rw [if_pos order]
      exact pairwise_mergeSort_key _
    · intro order
      rw [if_neg (by simp [order])]

/-- A store with a key below another one, a key with an empty segment, and the
key of a neighbouring directory. -/
def crowded : MemoryStore :=
  let first := (MemoryStore.empty.set "/c/a" "1" none).2
  let second := (first.set "/c/a/b" "2" none).2
  let third := (second.set "/c//é" "3" none).2
  (third.set "/c-d" "4" none).2

theorem get_shows_crowded :
    crowded.entries.get? "/c" = none ∧
      (crowded.get "/c" .everything).index = 4 ∧
      .leaf "/c/a" "1" 1 ∈ (crowded.get "/c" .everything).nodes ∧
      .directory "/c/a" 4 ∈ (crowded.get "/c" .everything).nodes ∧
      .directory "/c/" 4 ∈ (crowded.get "/c" .everything).nodes ∧
      (crowded.get "/c/a" .everything).nodes = [.leaf "/c/a" "1" 1] := by
  have absent : crowded.entries.get? "/c" = none := by decide +kernel
  obtain ⟨index, _, lists⟩ := get_shows crowded "/c" .everything
  obtain ⟨_, alone, _⟩ := get_shows crowded "/c/a" .everything
  have asDirectory : Key.asDirectory "/c" = "/c/" := by decide +kernel
  have listed := lists absent
  rw [asDirectory] at listed
  have indexed : crowded.index = 4 := by decide +kernel
  refine ⟨absent, index.trans indexed, ?_, ?_, ?_, ?_⟩
  · exact ((listed.leaves _).mpr ⟨"/c/a", ⟨"1", 1⟩, by decide +kernel,
      ⟨"a", by decide +kernel, .inl rfl⟩, rfl⟩).1
  · exact ((listed.directories _).mpr
      ⟨"/c/a", ⟨"a", by decide +kernel, .inl rfl⟩,
      ⟨"/c/a/b", ⟨"2", 2⟩, by decide +kernel, "b", by decide +kernel⟩, by
        rw [indexed]⟩).1
  · exact ((listed.directories _).mpr ⟨"/c/", ⟨"", by decide +kernel, .inl rfl⟩,
      ⟨"/c//é", ⟨"3", 3⟩, by decide +kernel, "é", by decide +kernel⟩, by
        rw [indexed]⟩).1
  · exact alone ⟨"1", 1⟩ (by decide +kernel)

end MemoryStore

end LiveFlags
