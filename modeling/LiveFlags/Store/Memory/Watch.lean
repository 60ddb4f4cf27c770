import LiveFlags.Store.Memory.Listing

/-!
# Watching

A watch first replays the retained history after its index and then follows the
mutations made since it was opened.  A watch whose index has been compacted away
says so and ends.  One that falls behind the mutations still held says so and
goes on with the oldest of them.
-/

namespace LiveFlags

/-- The live part of a watch. -/
structure LivePosition where
  /-- The index of the next mutation to look at. -/
  next : Nat
  /-- The index of the last mutation looked at, or the one the watch was opened
  after. -/
  cursor : Nat
deriving DecidableEq, Repr, Inhabited

/-- An open watch on a memory store. -/
structure MemoryWatch where
  path : String
  after : Nat
  recursive : Bool
  /-- Items to yield before the live part. -/
  backlog : List (Except StoreError ChangeEvent)
  /-- The live part; absent when the watch ends after its backlog. -/
  live : Option LivePosition
deriving Inhabited

namespace MemoryWatch

def wants (watch : MemoryWatch) (event : ChangeEvent) : Bool :=
  watch.after < event.index &&
    Key.isWatched watch.path watch.recursive event.key

end MemoryWatch

namespace MemoryStore

def watch (store : MemoryStore) (path : String) (options : WatchOptions) :
    MemoryWatch :=
  let opened : MemoryWatch :=
    { path
      after := options.after
      recursive := options.recursive
      backlog := []
      live := none }
  let oldest := store.oldestRetained
  if options.after < store.index ∧ options.after + 1 < oldest then
    { opened with backlog := [.error (.compacted options.after oldest)] }
  else
    { opened with
      backlog := (store.history.filter opened.wants).map .ok
      live := some ⟨store.index + 1, options.after⟩ }

/-- The index of the oldest mutation that is still held for open watches. -/
def oldestHeld (store : MemoryStore) : Nat :=
  (store.recent.head?.map ChangeEvent.index).getD (store.index + 1)

/-- Indices are words of 64 bits. -/
def wrapped (index : Nat) : Nat := index % UInt64.size

/-- The report to a watch that fell behind by the mutations between its position
and the oldest one held. -/
def lagReport (store : MemoryStore) (position : LivePosition) : StoreError :=
  .compacted position.cursor
    (wrapped (position.cursor + (store.oldestHeld - position.next) + 1))

def unseen (store : MemoryStore) (position : LivePosition) : List ChangeEvent :=
  store.recent.dropWhile fun event => event.index < position.next

/-- The next item of the live part: the first mutation from its position on that
the watch reports, mutations in between being passed over. -/
def nextLive (store : MemoryStore) (watch : MemoryWatch)
    (position : LivePosition) : Arrival × LivePosition :=
  if position.next < store.oldestHeld then
    (.failure (store.lagReport position),
      { position with next := store.oldestHeld })
  else
    let unseen := store.unseen position
    let passed := unseen.takeWhile fun event => !watch.wants event
    match unseen.drop passed.length with
    | event :: _ => (.event event, ⟨event.index + 1, event.index⟩)
    | [] =>
      (.pending, ⟨store.index + 1,
        (passed.getLast?.map ChangeEvent.index).getD position.cursor⟩)

def next (store : MemoryStore) (watch : MemoryWatch) : Arrival × MemoryWatch :=
  match watch.backlog, watch.live with
  | item :: later, _ => (.ofItem item, { watch with backlog := later })
  | [], none => (.ended, watch)
  | [], some position =>
    let (arrival, position) := store.nextLive watch position
    (arrival, { watch with live := some position })

/-- Up to `count` items of a watch; the last one tells that nothing is there or
that the watch is over, if that is so. -/
def take (store : MemoryStore) (watch : MemoryWatch) :
    Nat → List Arrival × MemoryWatch
  | 0 => ([], watch)
  | count + 1 =>
    match store.next watch with
    | (.pending, watch) => ([.pending], watch)
    | (.ended, watch) => ([.ended], watch)
    | (arrival, watch) =>
      let (later, watch) := store.take watch count
      (arrival :: later, watch)

/-- Whether a watch has anything to look at: backlog, its end, or a mutation not
looked at. -/
def ready (store : MemoryStore) (watch : MemoryWatch) : Bool :=
  !watch.backlog.isEmpty ||
    match watch.live with
    | some position => position.next ≤ store.index
    | none => true

/-- Where the next item of a watch comes from.  A report of having fallen behind
counts as one look, and every mutation that is passed over counts too. -/
def supply (store : MemoryStore) (watch : MemoryWatch) : Supply :=
  match watch.backlog, watch.live with
  | [], some position =>
    if position.next < store.oldestHeld then .live 1
    else
      let unseen := store.unseen position
      let passed := unseen.takeWhile fun event => !watch.wants event
      .live (min unseen.length (passed.length + 1))
  | _, _ => .replay

def run (store : MemoryStore) :
    WriteCommand → Except StoreError Nat × MemoryStore
  | .set key value condition => store.set key value condition
  | .delete key condition => store.delete key condition

instance : KeyValueStore MemoryStore MemoryWatch where
  get store path options := .ok (store.get path options)
  watch store path options := (store.watch path options, store)
  ready := ready
  supply := supply
  next store watch :=
    let (arrival, watch) := store.next watch
    (arrival, watch, store)
  write := run

end MemoryStore

end LiveFlags
