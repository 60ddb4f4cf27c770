import LiveFlags.Key
import LiveFlags.SortedMap
import LiveFlags.Store.Basic
import LiveFlags.Text.Quoted

/-!
# The memory store

A store in one value: the current entries, the index of the latest mutation, the
mutations kept for watches that open later, and those still held for watches
that are already open.  Every mutation takes the next index and is appended to
both; compaction drops the first only.
-/

namespace LiveFlags

/-- A stored value and the index of the mutation that wrote it. -/
structure Entry where
  value : String
  index : Nat
deriving DecidableEq, Repr, Inhabited

/-- A memory store. -/
structure MemoryStore where
  entries : SortedMap Entry
  index : Nat
  /-- The mutations that a new watch can replay, oldest first. -/
  history : List ChangeEvent
  /-- The mutations that open watches can still be given, oldest first. -/
  recent : List ChangeEvent
  /-- How many mutations the history keeps; at least one. -/
  limit : Nat

namespace MemoryStore

/-- How many mutations a history keeps unless told otherwise. -/
def standardLimit : Nat := 1000

/-- The empty store with a history of at least one mutation. -/
def empty (limit : Nat := standardLimit) : MemoryStore :=
  { entries := .empty
    index := 0
    history := []
    recent := []
    limit := max limit 1 }

instance : Inhabited MemoryStore := ⟨empty⟩

/-- The least power of two that is not below a number, looked for among `tries`
doublings. -/
def powerOfTwoAbove (number candidate : Nat) : Nat → Nat
  | 0 => candidate
  | tries + 1 =>
    if number ≤ candidate then candidate
    else powerOfTwoAbove number (2 * candidate) tries

/-- How many mutations are held for open watches: the limit rounded up to a
power of two. -/
def capacity (store : MemoryStore) : Nat :=
  powerOfTwoAbove store.limit 1 store.limit

/-- The last elements of a list, at most `count` of them. -/
def lastOf {α : Type} (count : Nat) (items : List α) : List α :=
  items.drop (items.length - count)

def value? (store : MemoryStore) (key : String) : Option String :=
  (store.entries.get? key).map Entry.value

/-- The index of the mutation that wrote a key. -/
def index? (store : MemoryStore) (key : String) : Option Nat :=
  (store.entries.get? key).map Entry.index

/-- The index of the oldest mutation that a new watch can replay. -/
def oldestRetained (store : MemoryStore) : Nat :=
  (store.history.head?.map ChangeEvent.index).getD (store.index + 1)

/-- Drop the history.  Watches that resume below the current index will be told
so. -/
def compact (store : MemoryStore) : MemoryStore :=
  { store with history := [] }

/-- Whether a condition on the index of a key's value holds. -/
def checkCondition (store : MemoryStore) (key : String)
    (condition : Option Nat) : Except StoreError Unit :=
  match condition with
  | none => .ok ()
  | some expected =>
    match store.entries.get? key with
    | none => .error (.keyNotFound key)
    | some entry =>
      if entry.index = expected then .ok ()
      else .error (.conditionFailed key expected entry.index)

/-- Whether a key can be written at all. -/
def checkKey (key : String) : Except StoreError Unit :=
  if Key.isStorable key then .ok ()
  else .error (.other s!"invalid key: {Text.quoted key}")

/-- Append a mutation and forget the oldest ones beyond the limits. -/
def record (store : MemoryStore) (event : ChangeEvent) : MemoryStore :=
  { store with
    history := lastOf store.limit (store.history ++ [event])
    recent := lastOf store.capacity (store.recent ++ [event]) }

/-- The store after a write that nothing stands against. -/
def write (store : MemoryStore) (key value : String) (conditional : Bool) :
    MemoryStore :=
  let index := store.index + 1
  let event : ChangeEvent :=
    { action := if conditional then .compareAndSwap else .set
      key
      value := some value
      index
      previous := store.value? key }
  { store with
    entries := store.entries.insert key ⟨value, index⟩
    index }.record event

/-- The store after a deletion that nothing stands against. -/
def remove (store : MemoryStore) (key previous : String) (conditional : Bool) :
    MemoryStore :=
  let index := store.index + 1
  let event : ChangeEvent :=
    { action := if conditional then .compareAndDelete else .delete
      key
      value := none
      index
      previous := some previous }
  { store with entries := store.entries.erase key, index }.record event

/-- Write a value.  The key is checked before the condition. -/
def set (store : MemoryStore) (key value : String) (condition : Option Nat) :
    Except StoreError Nat × MemoryStore :=
  match checkKey key, store.checkCondition key condition with
  | .error error, _ => (.error error, store)
  | .ok (), .error error => (.error error, store)
  | .ok (), .ok () =>
    let written := store.write key value condition.isSome
    (.ok written.index, written)

def delete (store : MemoryStore) (key : String) (condition : Option Nat) :
    Except StoreError Nat × MemoryStore :=
  match checkKey key, store.checkCondition key condition, store.value? key with
  | .error error, _, _ => (.error error, store)
  | .ok (), .error error, _ => (.error error, store)
  | .ok (), .ok (), none => (.error (.keyNotFound key), store)
  | .ok (), .ok (), some previous =>
    let written := store.remove key previous condition.isSome
    (.ok written.index, written)

/-- Write the numbers below `count` one after the other to a key, and answer
with the last result. -/
def fill (store : MemoryStore) (key : String) (count : Nat) :
    Option (Except StoreError Nat) × MemoryStore :=
  (List.range count).foldl
    (fun (_, store) number =>
      let (answer, store) := store.set key (toString number) none
      (some answer, store))
    (none, store)

@[simp]
theorem record_index (store : MemoryStore) (event : ChangeEvent) :
    (store.record event).index = store.index := rfl

@[simp]
theorem record_entries (store : MemoryStore) (event : ChangeEvent) :
    (store.record event).entries = store.entries := rfl

end MemoryStore

end LiveFlags
