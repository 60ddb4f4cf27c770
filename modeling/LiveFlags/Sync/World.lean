import LiveFlags.Flag.Registry
import LiveFlags.Sync.Notice

/-!
# The world of a synchronizer

The flags it sets, the store it reads, the time, and the journal of what it told
and what it asked of the store.  A read and the opening of a watch are entered
before they are served, a write with its answer.
-/

namespace LiveFlags

/-- What the journal holds. -/
inductive JournalEntry where
  | notice (notice : Notice)
  | read (path : String) (options : ReadOptions)
  | watch (path : String) (options : WatchOptions)
  | write (command : WriteCommand) (answer : Except StoreError Nat)

/-- Nothing waits longer than this in one go: thirty years of 365 days, in
milliseconds. -/
def longestWait : Nat := 30 * 365 * 24 * 60 * 60 * 1000

/-- The flags, the store, and what happened so far. -/
structure World (V S : Type) where
  flags : FlagSet V
  store : S
  /-- The time in milliseconds. -/
  time : Nat := 0
  /-- What happened, with the time of each entry. -/
  journal : List (Nat × JournalEntry) := []

namespace World

variable {V S W : Type}

def enter (world : World V S) (entry : JournalEntry) : World V S :=
  { world with journal := world.journal ++ [(world.time, entry)] }

def tell (world : World V S) (notice : Notice) :
    World V S := world.enter (.notice notice)

def tellAll (world : World V S) (notices : List Notice) :
    World V S := notices.foldl tell world

def read [KeyValueStore S W] (world : World V S) (path : String)
    (options : ReadOptions) : Except StoreError Snapshot × World V S :=
  (KeyValueStore.get world.store path options, world.enter (.read path options))

def openWatch [KeyValueStore S W] (world : World V S) (path : String)
    (options : WatchOptions) : W × World V S :=
  let (watch, store) := KeyValueStore.watch world.store path options
  (watch, { world.enter (.watch path options) with store })

def write [KeyValueStore S W] (world : World V S) (command : WriteCommand) :
    Except StoreError Nat × World V S :=
  let (answer, store) := KeyValueStore.write world.store command
  (answer, ({ world with store } : World V S).enter (.write command answer))

end World

end LiveFlags
