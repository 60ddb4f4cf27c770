import LiveFlags.Store.Basic

/-!
# The scripted store

A store whose answers are laid down in advance, to rehearse how a synchronizer
takes them.  Every watch opens a queue of its own, and items are queued on the
one opened last: a watch ends after its queue once it is closed or another one
is opened.
-/

namespace LiveFlags

/-- The items queued for one watch. -/
structure ScriptedQueue where
  items : List (Except StoreError ChangeEvent) := []
  /-- Whether the watch ends after its queue. -/
  closed : Bool := false
deriving Inhabited

/-- A store that answers as it was told to. -/
structure ScriptedStore where
  snapshot : Snapshot := {}
  readFailure : Option StoreError := none
  writeFailure : Option StoreError := none
  /-- The queues of all watches ever opened, in the order of opening. -/
  queues : List ScriptedQueue := []
deriving Inhabited

namespace ScriptedStore

def writeAnswer (store : ScriptedStore) : Except StoreError Nat :=
  match store.writeFailure with
  | some error => .error error
  | none => .ok 0

/-- The number of the watch opened last, while it has not been closed. -/
def openWatch? (store : ScriptedStore) : Option Nat :=
  match store.queues.getLast? with
  | some queue => if queue.closed then none else some (store.queues.length - 1)
  | none => none

/-- Queue an item on the watch opened last. -/
def push (store : ScriptedStore) (item : Except StoreError ChangeEvent) :
    ScriptedStore :=
  { store with
    queues := store.queues.modify (store.queues.length - 1) fun queue =>
      { queue with items := queue.items ++ [item] } }

/-- Let the watch opened last end after its queue. -/
def closeWatch (store : ScriptedStore) : ScriptedStore :=
  { store with
    queues := store.queues.modify (store.queues.length - 1) fun queue =>
      { queue with closed := true } }

/-- Open a watch, closing the one before it. -/
def watch (store : ScriptedStore) : Nat × ScriptedStore :=
  (store.queues.length,
    { store with queues := store.closeWatch.queues ++ [{}] })

def next (store : ScriptedStore) (watch : Nat) :
    Arrival × Nat × ScriptedStore :=
  match store.queues[watch]? with
  | none => (.ended, watch, store)
  | some queue =>
    match queue.items with
    | [] => (if queue.closed then .ended else .pending, watch, store)
    | item :: later =>
      let queues := store.queues.set watch { queue with items := later }
      (.ofItem item, watch, { store with queues })

/-- Whether a watch has an item or its end to yield. -/
def ready (store : ScriptedStore) (watch : Nat) : Bool :=
  match store.queues[watch]? with
  | none => true
  | some queue => queue.closed || !queue.items.isEmpty

/-- Every item, and the end, is looked at alone. -/
def supply (store : ScriptedStore) (watch : Nat) : Supply :=
  .live (if store.ready watch then 1 else 0)

instance : KeyValueStore ScriptedStore Nat where
  get store _ _ := match store.readFailure with
    | some error => .error error
    | none => .ok store.snapshot
  watch store _ _ := store.watch
  ready := ready
  supply := supply
  next := next
  write store _ := (store.writeAnswer, store)

end ScriptedStore

end LiveFlags
