import LiveFlags.Store.Memory

/-!
# Reading a directory

A read of a stored key returns that one leaf.  Any other path is read as a
directory: the keys below it are contiguous in key order, and the directories
that those keys imply are added.
-/

namespace LiveFlags.MemoryStore

/-- The entries below a directory, each with what follows the directory in its
key.  Keys are sorted, so the scan starts at the directory and ends at the first
key that does not lie below it. -/
def entriesBelow (store : MemoryStore) (directory : String) :
    List (String × String × Entry) :=
  ((store.entries.toList.dropWhile fun entry => entry.1 < directory).takeWhile
      fun entry => Key.isBelow directory entry.1).filterMap fun entry =>
    (Key.below? directory entry.1).map fun rest => (rest, entry.1, entry.2)

/-- Directories below `directory` that are implied by a key with `segments`
below it: those at every depth, or only the first. -/
def impliedDirectories (directory : String) (recursive : Bool)
    (segments : List String) : List String :=
  let depths :=
    if recursive then segments.length - 1 else min 1 (segments.length - 1)
  (List.range depths).map fun depth =>
    directory ++ String.intercalate "/" (segments.take (depth + 1))

def sortedDistinct (texts : List String) : List String :=
  (SortedMap.ofList (texts.map fun text => (text, ()))).keys

/-- The nodes of a directory: leaves in key order, then directories in key
order. -/
def nodesBelow (store : MemoryStore) (directory : String) (recursive : Bool) :
    List Node :=
  let below := store.entriesBelow directory
  let leaves := below.filterMap fun (rest, key, entry) =>
    if recursive || (Key.segments rest).length = 1 then
      some (Node.leaf key entry.value entry.index)
    else none
  let directories := below.flatMap fun (rest, _, _) =>
    impliedDirectories directory recursive (Key.segments rest)
  leaves ++ (sortedDistinct directories).map fun key =>
    Node.directory key store.index

/-- Read a path.  Sorting by key is stable, so a leaf stays before a directory
of the same key. -/
def get (store : MemoryStore) (path : String) (options : ReadOptions) :
    Snapshot :=
  match store.entries.get? path with
  | some entry => ⟨store.index, [.leaf path entry.value entry.index]⟩
  | none =>
    let nodes := store.nodesBelow (Key.asDirectory path) options.recursive
    let ordered :=
      if options.sorted then
        nodes.mergeSort fun left right => decide (left.key ≤ right.key)
      else nodes
    ⟨store.index, ordered⟩

end LiveFlags.MemoryStore
