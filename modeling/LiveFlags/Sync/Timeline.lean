import LiveFlags.Sync.Synchronizer

/-!
# Virtual time

A deterministic run of synchronizers under a virtual clock.  Loops run only
while the time advances: all loops that can move do so until none can, in the
order in which they became able to, and then the clock jumps to the end of the
next pause.

A loop goes on until it has to wait, but not without limit.  After a run of
replayed items it goes to the end of the queue, and after a run of live ones it
stands back until no other loop can move; of the loops that stand back, the last
to do so is the first to go on.
-/

namespace LiveFlags

/-- A loop of one of the synchronizers. -/
structure LoopName where
  synchronizer : Nat
  number : Nat
deriving DecidableEq, Repr

/-- How many replayed items a loop takes in one go. -/
def fullReplays : Nat := 32

/-- How many live items a loop looks at in one go. -/
def fullLooks : Nat := 128

/-- A loop that can move, and what it may still take before it makes room for
others. -/
structure Runner where
  name : LoopName
  /-- Replayed items. -/
  replays : Nat := fullReplays
  /-- Looks at live items. -/
  looks : Nat := fullLooks
deriving DecidableEq, Repr

/-- How a loop goes on whose turn it is. -/
inductive Course where
  | move (runner : Runner)
  /-- To the end of the queue. -/
  | queueAgain
  /-- Behind all others, with what it may take once it goes on. -/
  | standBack (runner : Runner)
deriving DecidableEq, Repr

namespace Runner

/-- How a loop goes on, by what its next step takes.  A step that asks for more
looks than are left is put off as a whole, and the looks that are left count for
the next time. -/
def course (runner : Runner) : Option Supply → Course
  | none => .move runner
  | some supply =>
    let later : Runner := { runner with looks := runner.looks + fullLooks }
    if runner.looks = 0 then .standBack later
    else if runner.replays = 0 then .queueAgain
    else
      match supply with
      | .replay => .move { runner with replays := runner.replays - 1 }
      | .live looks =>
        if runner.looks < looks then .standBack later
        else .move { runner with looks := runner.looks - looks }

end Runner

/-- Synchronizers in one world. -/
structure Timeline (V S W : Type) where
  world : World V S
  synchronizers : List (Synchronizer W) := []
  current : Option Nat := none
  /-- Loops that can move, in the order in which they became able to. -/
  able : List Runner := []
  /-- Loops that stand back, the last to do so first. -/
  standing : List Runner := []
  /-- Loops that have to wait, in the order in which they began to. -/
  waiting : List LoopName := []

namespace Timeline

variable {V S W : Type} [FlagValue V] [KeyValueStore S W]

/-- The random part of every generic pause. -/
def draw : Nat := 0

/-- How many steps all loops together may make while the time advances once. -/
def stepLimit : Nat := 1000000

def step? (timeline : Timeline V S W) (name : LoopName) :
    Option (Timeline V S W) := do
  let sync ← timeline.synchronizers[name.synchronizer]?
  let (sync, world) ← sync.stepLoop? draw name.number timeline.world
  return { timeline with
    world
    synchronizers := timeline.synchronizers.set name.synchronizer sync }

omit [FlagValue V] [KeyValueStore S W] in
def isFinished (timeline : Timeline V S W) (name : LoopName) : Bool :=
  timeline.synchronizers[name.synchronizer]?.all fun sync =>
    sync.isFinished name.number

/-- Move the loops that no longer have to wait behind those that can move. -/
def wake (timeline : Timeline V S W) : Timeline V S W :=
  let (woken, waiting) :=
    timeline.waiting.partition fun name => (timeline.step? name).isSome
  { timeline with
    able := timeline.able ++ woken.map fun name => { name }
    waiting }

omit [FlagValue V] in
/-- What the next step of a loop takes from where, if it can be put off. -/
def supply? (timeline : Timeline V S W) (name : LoopName) : Option Supply := do
  let sync ← timeline.synchronizers[name.synchronizer]?
  let loop ← sync.loops[name.number]?
  loop.supply? timeline.world

/-- Let loops move until none can or the limit of steps is reached.  A loop goes
on until it has to wait or to make room, then the next one moves. -/
def settle : Nat → Timeline V S W → Timeline V S W
  | 0, timeline => timeline
  | limit + 1, timeline =>
    match timeline.able, timeline.standing with
    | [], [] => timeline
    | [], able => settle limit { timeline with able, standing := [] }
    | runner :: later, standing =>
      let name := runner.name
      match runner.course (timeline.supply? name) with
      | .queueAgain =>
        settle limit { timeline with able := later ++ [{ name }] }
      | .standBack runner =>
        settle limit
          { timeline with able := later, standing := runner :: standing }
      | .move runner =>
        match timeline.step? name with
        | some timeline =>
          settle limit { timeline with able := runner :: later }.wake
        | none =>
          let waiting :=
            if timeline.isFinished name then timeline.waiting
            else timeline.waiting ++ [name]
          settle limit { timeline with able := later, waiting }

omit [FlagValue V] [KeyValueStore S W] in
/-- The end of the pause that a loop makes. -/
def deadline? (timeline : Timeline V S W) (name : LoopName) : Option Nat := do
  let sync ← timeline.synchronizers[name.synchronizer]?
  let loop ← sync.loops[name.number]?
  loop.phase.deadline?

omit [FlagValue V] [KeyValueStore S W] in
/-- The end of the pause that ends first. -/
def nextDeadline? (timeline : Timeline V S W) : Option Nat :=
  (timeline.waiting.filterMap timeline.deadline?).min?

/-- Set the clock and let loops move, from the end of one pause to the next,
until a time is reached or `done` holds. -/
def runUntil (target : Nat) (done : Timeline V S W → Bool) :
    Nat → Timeline V S W → Timeline V S W
  | 0, timeline => timeline
  | limit + 1, timeline =>
    let timeline := settle stepLimit timeline.wake
    if done timeline then timeline
    else
      let next := match timeline.nextDeadline? with
        | some deadline => min deadline target
        | none => target
      let timeline :=
        { timeline with world := { timeline.world with time := next } }
      if target ≤ next then timeline else runUntil target done limit timeline

def advanceTo (timeline : Timeline V S W) (target : Nat) : Timeline V S W :=
  runUntil target (fun _ => false) stepLimit timeline

/-- Let the time advance.  If it does not, no loop moves. -/
def advance (timeline : Timeline V S W) (milliseconds : Nat) : Timeline V S W :=
  if milliseconds = 0 then timeline
  else timeline.advanceTo (timeline.world.time + min longestWait milliseconds)

omit [FlagValue V] in
/-- Call the synchronizer in use, if there is one. -/
def call {β : Type} (timeline : Timeline V S W)
    (method : Synchronizer W → World V S → β × Synchronizer W × World V S) :
    Option β × Timeline V S W :=
  match timeline.current with
  | none => (none, timeline)
  | some number =>
    match timeline.synchronizers[number]? with
    | none => (none, timeline)
    | some sync =>
      let (answer, sync, world) := method sync timeline.world
      (some answer,
        { timeline with
          world
          synchronizers := timeline.synchronizers.set number sync })

omit [FlagValue V] [KeyValueStore S W] in
def synchronizer? (timeline : Timeline V S W) : Option (Synchronizer W) :=
  timeline.current.bind fun number => timeline.synchronizers[number]?

def drop (timeline : Timeline V S W) : Timeline V S W :=
  let timeline :=
    (timeline.call fun (sync : Synchronizer W) (world : World V S) =>
    let (sync, world) := sync.release world
    ((), sync, world)).2
  { timeline with current := none }.wake

/-- Put a new synchronizer into use, giving up the one before it. -/
def create (timeline : Timeline V S W) (config : Config) :
    Except Error (Timeline V S W) :=
  match Synchronizer.create config with
  | .error error => .error error
  | .ok sync =>
    let timeline := timeline.drop
    .ok { timeline with
      synchronizers := timeline.synchronizers ++ [sync]
      current := some timeline.synchronizers.length }

def loadInitially (timeline : Timeline V S W) :
    Option Outcome × Timeline V S W :=
  timeline.call Synchronizer.loadInitially

/-- Start a watch loop, on a runtime or without one.  The new loop takes its
turn once even when its predecessor is not over yet, and so may find it over by
then. -/
def start (timeline : Timeline V S W) (hasRuntime : Bool) :
    Option Outcome × Timeline V S W :=
  match timeline.current, timeline.synchronizer? with
  | some number, some sync =>
    match sync.start hasRuntime with
    | .error error => (some (.failed error), timeline)
    | .ok started =>
      let name : LoopName := ⟨number, sync.loops.length⟩
      let spawned : Timeline V S W := { timeline with
        synchronizers := timeline.synchronizers.set number started
        able := timeline.able ++ [{ name }] }
      (some .done, spawned)
  | _, _ => (none, timeline)

def stop (timeline : Timeline V S W) : Option Outcome × Timeline V S W :=
  let (outcome, timeline) := timeline.call Synchronizer.stop
  (outcome, timeline.wake)

/-- What waiting for a loop came to. -/
inductive Wait where
  | finished (outcome : Outcome)
  /-- The time was up first; the loop runs on without anyone who could wait for
  it. -/
  | stillRunning

/-- How the clock is aligned after a wait, in milliseconds. -/
def alignment : Nat := 10

/-- Wait for the latest loop, at most for some time.  In no time only a loop
that is already over is found so.  Afterwards the time advances to the next
multiple of the alignment. -/
def waitStopped (timeline : Timeline V S W) (milliseconds : Nat) :
    Option Wait × Timeline V S W :=
  match timeline.current, timeline.synchronizer? with
  | some number, some sync =>
    let target := timeline.world.time + min longestWait milliseconds
    let timeline :=
      { timeline with
        synchronizers := timeline.synchronizers.set number sync.detachTask }
    let (wait, timeline) := match sync.task with
      | none => (Wait.finished .done, timeline)
      | some task =>
        let ended (timeline : Timeline V S W) : Bool :=
          timeline.isFinished ⟨number, task⟩
        let timeline :=
          if ended timeline || milliseconds = 0 then timeline
          else runUntil target ended stepLimit timeline
        let outcome :=
          timeline.synchronizers[number]?.elim Outcome.done (·.joinOutcome task)
        (if ended timeline then Wait.finished outcome else .stillRunning,
          timeline)
    let ticks := timeline.world.time / alignment + 1
    (some wait, timeline.advanceTo (ticks * alignment))
  | _, _ => (none, timeline)

def withStore {β : Type} (timeline : Timeline V S W) (act : S → β × S) :
    β × Timeline V S W :=
  let (answer, store) := act timeline.world.store
  (answer, { timeline with world := { timeline.world with store } }.wake)

omit [FlagValue V] [KeyValueStore S W] in
def withFlags {β : Type} (timeline : Timeline V S W)
    (act : FlagSet V → β × FlagSet V) : β × Timeline V S W :=
  let (answer, flags) := act timeline.world.flags
  (answer, { timeline with world := { timeline.world with flags } })

omit [FlagValue V] [KeyValueStore S W] in
/-- Whether some loop holds a watch that satisfies a condition. -/
def holdsWatch (timeline : Timeline V S W) (condition : W → Bool) : Bool :=
  timeline.synchronizers.any fun sync => sync.loops.any fun loop =>
    loop.phase.watch?.any condition

omit [FlagValue V] [KeyValueStore S W] in
/-- Take what the journal holds and leave it empty. -/
def takeJournal (timeline : Timeline V S W) :
    List (Nat × JournalEntry) × Timeline V S W :=
  (timeline.world.journal,
    { timeline with world := { timeline.world with journal := [] } })

end Timeline

end LiveFlags
