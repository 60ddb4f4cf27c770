import LiveFlags.Config
import LiveFlags.Sync.Load
import LiveFlags.Sync.Rollback

/-!
# The watch loop

A loop waits for the next change after its cursor, applies it to dynamic flags,
undoes it in the store if the flag refused it, and recovers from failures of the
store by their class.  It moves in steps, each of which asks at most one thing
of the store, so that others can act in between.

| what the watch yields | state | what the loop does |
|---|---|---|
| a change | watching | apply it, undo it if it is refused |
| compacted history | recovering | pause, read everything again, reopen |
| no cluster member | cluster backoff | pause, wait again |
| a passed deadline | watching | wait again |
| a cancelled request | stopped | exit |
| another failure, its end | generic backoff | pause, reopen after the cursor |
-/

namespace LiveFlags

/-- What a loop goes on to do after an item of its watch. -/
inductive WatchState where
  | watching
  | recovering
  | backoffCluster
  | backoffGeneric
  | stopped
deriving DecidableEq, Repr

def WatchState.name : WatchState → String
  | watching => "Watching"
  | recovering => "Recovering"
  | backoffCluster => "BackoffCluster"
  | backoffGeneric => "BackoffGeneric"
  | stopped => "Stopped"

/-- The state that a failure of the store leads to. -/
def WatchState.afterError : StoreError → WatchState
  | .compacted .. => recovering
  | .clusterUnavailable _ => backoffCluster
  | .timeout => watching
  | .cancelled => stopped
  | _ => backoffGeneric

/-- What there is to tell about a failure of the store. -/
def StoreError.notice (error : StoreError) (cursor : Nat) : Notice :=
  match error with
  | compacted .. => .historyCompacted error cursor
  | clusterUnavailable _ => .clusterFailed error cursor
  | timeout => .deadlineExceeded
  | cancelled => .watchCancelled
  | _ => .watchFailed error cursor

/-- Where a loop is between two steps. -/
inductive Phase (W : Type) where
  /-- Not started; waits for the loop before it to finish. -/
  | queued (predecessor : Option Nat)
  /-- About to open a watch after the cursor. -/
  | opening
  /-- Waiting for the next item of a watch. -/
  | streaming (watch : W)
  /-- About to undo a change that a flag refused. -/
  | undoing (flag : String) (event : ChangeEvent) (watch : W)
  /-- Pausing until a time, then going on as the state says. -/
  | pausing (state : WatchState) (deadline : Nat) (watch : W)
  | rereading (watch : W)
  | exited
  | crashed (detail : String)
deriving Inhabited

namespace Phase

variable {W : Type}

def isFinished : Phase W → Bool
  | exited | crashed _ => true
  | _ => false

def watch? : Phase W → Option W
  | streaming watch | undoing _ _ watch | pausing _ _ watch | rereading watch =>
    some watch
  | _ => none

/-- The end of the pause that a loop makes. -/
def deadline? : Phase W → Option Nat
  | pausing _ deadline _ => some deadline
  | _ => none

end Phase

/-- A watch loop. -/
structure WatchLoop (W : Type) where
  phase : Phase W
  cancelled : Bool := false
deriving Inhabited

/-- Whether a loop in a pause hears that it is to stop.  If the pause is over as
well, which of the two the loop hears is drawn. -/
def WatchLoop.hearsStop {W : Type} (loop : WatchLoop W) (draw : Nat)
    (elapsed : Bool) : Bool :=
  loop.cancelled && (!elapsed || draw % 2 = 0)

/-- What became of a change. -/
inductive Verdict where
  | settled
  | refused (flag : String)
  | crashed (detail : String)

/-- What a change did to the flags. -/
structure Handling (V : Type) where
  verdict : Verdict
  flags : FlagSet V
  notice : Option Notice

/-- Apply a change to the flag that its key stands for, if that flag may
change. -/
def handleEvent {V : Type} [FlagValue V] (directory : String)
    (flags : FlagSet V) (event : ChangeEvent) : Handling V :=
  match flagName directory event.key event.isDirectory with
  | .error reason => ⟨.settled, flags, some (.changeIgnored reason event.index)⟩
  | .ok name =>
    let (outcome, flags) := flags.apply name event.value true
    match outcome with
    | .done =>
      ⟨.settled, flags, some (.updated name (event.value.getD "") event.index)⟩
    | .failed (.noValuePresent _) =>
      ⟨.settled, flags, some (.actionIgnored event.action name event.index)⟩
    | .failed (.flagLookupFailed _) =>
      ⟨.settled, flags, some (.unknownFlagIgnored name event.index)⟩
    | .failed (.flagNotDynamic flag) =>
      ⟨.settled, flags,
        some (.updateIgnored (.flagNotDynamic flag) event.index)⟩
    | .failed error =>
      ⟨.refused name, flags, some (.updateFailed name error event.index)⟩
    | .crashed detail => ⟨.crashed detail, flags, none⟩

/-- How long a loop pauses in a state as its settings say; `draw` stands for the
random part of a generic pause. -/
def WatchTiming.delay (timing : WatchTiming) (draw : Nat) : WatchState → Nat
  | .recovering => timing.recoveryDelay
  | .backoffCluster => timing.clusterRetryDelay
  | .backoffGeneric => timing.backoffBase + draw % (timing.backoffJitter + 1)
  | .watching | .stopped => 0

/-- How long a loop pauses in a state. -/
def WatchTiming.pause (timing : WatchTiming) (draw : Nat) (state : WatchState) :
    Nat :=
  min longestWait (timing.delay draw state)

/-- What there is to tell about the undoing of a change. -/
def RollbackOutcome.notice (flag : String) : RollbackOutcome → Notice
  | restored => .rolledBack flag
  | deleted => .rolledBackByDeletion flag
  | conflict => .rollbackOvertaken flag
  | failed error => .rollbackFailed flag error

/-- A loop after a step, with the cursor it shares and the world. -/
structure Turn (V S W : Type) where
  phase : Phase W
  cursor : Nat
  world : World V S

namespace Turn

variable {V S W : Type}

def exit (cursor : Nat) (world : World V S) : Turn V S W :=
  ⟨.exited, cursor, world.tell (.watcherExited cursor)⟩

/-- Go on as a state says after an item of a watch. -/
def enter (timing : WatchTiming) (draw cursor : Nat) (world : World V S)
    (watch : W) (state : WatchState) : Turn V S W :=
  match state with
  | .watching => ⟨.streaming watch, cursor, world⟩
  | .stopped => exit cursor world
  | state =>
    ⟨.pausing state (world.time + timing.pause draw state) watch, cursor, world⟩

/-- Take a change from a watch: move the cursor forward, then apply it. -/
def take [FlagValue V] (directory : String) (cursor : Nat) (world : World V S)
    (watch : W) (event : ChangeEvent) : Turn V S W :=
  let cursor := max cursor event.index
  let handling := handleEvent directory world.flags event
  let world := { world with flags := handling.flags }
  let world := match handling.notice with
    | some notice => world.tell notice
    | none => world
  match handling.verdict with
  | .settled => ⟨.streaming watch, cursor, world⟩
  | .refused flag => ⟨.undoing flag event watch, cursor, world⟩
  | .crashed detail => ⟨.crashed detail, cursor, world⟩

def receive [FlagValue V] (config : Config) (draw cursor : Nat)
    (world : World V S) (watch : W) (arrival : Arrival) : Turn V S W :=
  match arrival with
  | .event event => take config.normalized cursor world watch event
  | .failure error =>
    enter config.watch draw cursor (world.tell (error.notice cursor)) watch
      (.afterError error)
  | .ended =>
    enter config.watch draw cursor (world.tell (.watchClosed cursor)) watch
      .backoffGeneric
  | .pending => ⟨.streaming watch, cursor, world⟩

/-- Read everything again; the cursor moves to the index of the snapshot. -/
def reread [FlagValue V] [KeyValueStore S W] (directory : String) (cursor : Nat)
    (world : World V S) : Turn V S W :=
  match world.load directory true with
  | (.loaded index applied _, world) =>
    ⟨.opening, index, world.tell (.reread applied index)⟩
  | (.unreadable error, world) =>
    ⟨.opening, cursor, world.tell (.rereadFailed (.store error) cursor)⟩
  | (.crashed detail, world) => ⟨.crashed detail, cursor, world⟩

end Turn

namespace WatchLoop

variable {V S W : Type} [FlagValue V] [KeyValueStore S W]

/-- The next step of a loop; `none` when it has to wait.  A stopped loop takes
nothing more from its watch and cuts a pause short, but it finishes what it is
doing to a change, and it may go on after a pause that was over before its turn
came. -/
def step? (config : Config) (draw : Nat) (finished : Nat → Bool)
    (loop : WatchLoop W) (cursor : Nat) (world : World V S) :
    Option (Turn V S W) :=
  let directory := config.normalized
  match loop.phase with
  | .queued predecessor =>
    if predecessor.all finished then
      some ⟨.opening, cursor, world.tell (.watcherStarted cursor)⟩
    else none
  | .opening =>
    let (watch, world) := world.openWatch directory ⟨cursor, true⟩
    some ⟨.streaming watch, cursor, world⟩
  | .streaming watch =>
    if loop.cancelled then some (.exit cursor world)
    else if KeyValueStore.ready world.store watch then
      let (arrival, watch, store) := KeyValueStore.next world.store watch
      some (.receive config draw cursor { world with store } watch arrival)
    else none
  | .undoing flag event watch =>
    let (answer, world) := world.write event.undo
    let outcome := RollbackOutcome.ofAnswer event answer
    some ⟨.streaming watch, cursor, world.tell (outcome.notice flag)⟩
  | .pausing state deadline watch =>
    if loop.hearsStop draw (deadline ≤ world.time) then
      some (.exit cursor world)
    else if deadline ≤ world.time then
      match state with
      | .recovering => some ⟨.rereading watch, cursor, world⟩
      | .backoffGeneric => some ⟨.opening, cursor, world⟩
      | _ => some ⟨.streaming watch, cursor, world⟩
    else none
  | .rereading _ => some (.reread directory cursor world)
  | .exited | .crashed _ => none

/-- What the next step of a loop takes from where, if it is one that can be put
off.  To hear of the end of a pause or of the loop before it counts as one
look. -/
def supply? (loop : WatchLoop W) (world : World V S) : Option Supply :=
  match loop.phase with
  | .queued predecessor => some (.live (if predecessor.isSome then 1 else 0))
  | .streaming watch => some (KeyValueStore.supply world.store watch)
  | .pausing _ deadline _ =>
    some (.live (if deadline ≤ world.time then 1 else 0))
  | _ => none

end WatchLoop

end LiveFlags
