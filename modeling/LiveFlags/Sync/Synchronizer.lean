import LiveFlags.Sync.Loop

/-!
# The synchronizer

The lifecycle of keeping flags in step with one directory of a store: load
everything once, start a watch loop, stop it, wait for it.  All loops ever
started are kept in the order of their start and share the cursor, so a
restarted loop resumes where the one before it ended.
-/

namespace LiveFlags

/-- A synchronizer over watches of type `W`. -/
structure Synchronizer (W : Type) where
  config : Config
  /-- Whether the initial load has read a snapshot. -/
  initialized : Bool := false
  /-- The index that the next watch resumes after. -/
  cursor : Nat := 0
  /-- The loop that `stop` will cancel. -/
  cancel : Option Nat := none
  /-- The loop that can be waited for. -/
  task : Option Nat := none
  /-- All loops, numbered in the order of their start. -/
  loops : List (WatchLoop W) := []
deriving Inhabited

namespace Synchronizer

variable {V S W : Type}

def create (config : Config) : Except Error (Synchronizer W) :=
  match config.validate with
  | .ok () => .ok { config }
  | .error error => .error error

/-- The directory that is kept in step, with its closing separator. -/
def directory (sync : Synchronizer W) : String := sync.config.normalized

def isFinished (sync : Synchronizer W) (number : Nat) : Bool :=
  match sync.loops[number]? with
  | some loop => loop.phase.isFinished
  | none => true

/-- Whether a loop is active and has not been asked to stop. -/
def isWatching (sync : Synchronizer W) : Bool :=
  sync.cancel.isSome && sync.task.any fun number => !sync.isFinished number

/-- Read every flag in the directory and apply it.  Failures of single entries
are reported together; the synchronizer counts as initialized all the same. -/
def loadInitially [FlagValue V] [KeyValueStore S W] (sync : Synchronizer W)
    (world : World V S) : Outcome × Synchronizer W × World V S :=
  if sync.initialized then (.failed .alreadyInitialized, sync, world)
  else
    match world.load sync.directory false with
    | (.unreadable error, world) => (.failed (.store error), sync, world)
    | (.crashed detail, world) => (.crashed detail, sync, world)
    | (.loaded index applied failures, world) =>
      let sync := { sync with initialized := true, cursor := index }
      let world := world.tell (.initialized applied sync.directory index)
      (if failures.isEmpty then .done else .failed (.initialLoad failures),
        sync, world)

/-- Start a watch loop.  If the one before it is not over, the new one waits for
it.  Loops need a runtime to run on. -/
def start (sync : Synchronizer W) (hasRuntime : Bool) :
    Except Error (Synchronizer W) :=
  if !sync.initialized then .error .notInitialized
  else if sync.isWatching then .error .alreadyWatching
  else if !hasRuntime then
    .error (.other "flagsync: start() requires a tokio runtime")
  else
    let number := sync.loops.length
    .ok { sync with
      cancel := some number
      task := some number
      loops := sync.loops ++ [{ phase := .queued sync.task }] }

def cancelLoop (sync : Synchronizer W) (number : Nat) : Synchronizer W :=
  { sync with
    cancel := none
    loops := sync.loops.modify number fun loop =>
      { loop with cancelled := true } }

/-- Ask the active loop to stop, without waiting for it. -/
def stop (sync : Synchronizer W) (world : World V S) :
    Outcome × Synchronizer W × World V S :=
  match sync.isWatching, sync.cancel with
  | true, some number => (.done, sync.cancelLoop number, world.tell .stopping)
  | _, _ => (.failed .notWatching, { sync with cancel := none }, world)

/-- Give the synchronizer up.  A loop that could still be stopped is asked to
stop. -/
def release (sync : Synchronizer W) (world : World V S) :
    Synchronizer W × World V S :=
  match sync.cancel with
  | some number => (sync.cancelLoop number, world.tell .droppedWhileWatching)
  | none => (sync, world)

/-- Give up the hold on the loop that can be waited for. -/
def detachTask (sync : Synchronizer W) :
    Synchronizer W := { sync with task := none }

/-- What waiting for a loop that is over answers. -/
def joinOutcome (sync : Synchronizer W) (number : Nat) : Outcome :=
  match sync.loops[number]?.map WatchLoop.phase with
  | some (.crashed detail) =>
    .failed (.other s!"flagsync: watch loop failed: {crashText detail}")
  | _ => .done

/-- Let a loop make its next step; `none` when it has to wait or there is no
such loop. -/
def stepLoop? [FlagValue V] [KeyValueStore S W] (draw : Nat)
    (sync : Synchronizer W) (number : Nat) (world : World V S) :
    Option (Synchronizer W × World V S) := do
  let loop ← sync.loops[number]?
  let turn ← loop.step? sync.config draw sync.isFinished sync.cursor world
  let sync := { sync with
    cursor := turn.cursor
    loops := sync.loops.set number { loop with phase := turn.phase } }
  return (sync, turn.world)

end Synchronizer

end LiveFlags
