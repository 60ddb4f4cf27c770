import LiveFlags.Proofs.Store.Log
import LiveFlags.Proofs.Sync.Applying
import LiveFlags.Sync.Synchronizer

/-!
# Runs of a synchronizer, and the order of its loops

A run interleaves the steps of the loops with what others do to the store and
with the calls that start and stop loops.  At any time at most one loop is at
work: all loops before it are over and all loops after it wait in the queue.
-/

namespace LiveFlags

/-- A synchronizer and its world, with a memory store. -/
structure System (V : Type) where
  sync : Synchronizer MemoryWatch
  world : World V MemoryStore

namespace System

/-- What happens next in a run. -/
inductive Move where
  /-- Others write, delete or compact. -/
  | act (act : MemoryStore.Act)
  | pass (milliseconds : Nat)
  | load
  | start (hasRuntime : Bool)
  | stop
  /-- The latest loop is waited for until it is over. -/
  | join
  | loop (number draw : Nat)
deriving DecidableEq, Repr

variable {V : Type} [FlagValue V]

/-- The system after a move; a move that is not possible changes nothing. -/
def step (system : System V) : Move → System V
  | .act act =>
      { system with world :=
          { system.world with store := system.world.store.act act } }
  | .pass milliseconds =>
      { system with world :=
          { system.world with time := system.world.time + milliseconds } }
  | .load =>
      let (_, sync, world) := system.sync.loadInitially system.world
      ⟨sync, world⟩
  | .start hasRuntime =>
      match system.sync.start hasRuntime with
      | .ok sync => { system with sync }
      | .error _ => system
  | .stop =>
      let (_, sync, world) := system.sync.stop system.world
      ⟨sync, world⟩
  | .join =>
      if system.sync.task.all system.sync.isFinished then
        { system with sync := system.sync.detachTask }
      else system
  | .loop number draw =>
      match system.sync.stepLoop? draw number system.world with
      | some (sync, world) => ⟨sync, world⟩
      | none => system

def run (system : System V) (moves : List Move) : System V :=
  moves.foldl step system

omit [FlagValue V] in
/-- A new synchronizer in a world. -/
def fresh (config : Config) (world : World V MemoryStore) : System V :=
  ⟨{ config }, world⟩

theorem step_join (system : System V) :
    system.step .join =
      if system.sync.task.all system.sync.isFinished then
        { system with sync := system.sync.detachTask }
      else system := rfl

@[simp] theorem run_nil (system : System V) : system.run [] = system := rfl

@[simp] theorem run_cons (system : System V) (move : Move)
    (later : List Move) :
    system.run (move :: later) = (system.step move).run later := rfl

@[simp] theorem run_append (system : System V) (earlier later : List Move) :
    system.run (earlier ++ later) = (system.run earlier).run later :=
  List.foldl_append

theorem run_concat (system : System V) (moves : List Move) (move : Move) :
    system.run (moves ++ [move]) = (system.run moves).step move := by
  rw [run_append, run_cons, run_nil]

end System

namespace Phase

/-- Whether the loop has not begun. -/
def isQueued {W : Type} : Phase W → Bool
  | queued _ => true
  | _ => false

/-- Whether the loop is not at work: it has not begun or is over. -/
def isDormant {W : Type} (phase : Phase W) : Bool :=
  phase.isQueued || phase.isFinished

/-- The change that the loop is about to undo. -/
def undoing? {W : Type} : Phase W → Option ChangeEvent
  | undoing _ event _ => some event
  | _ => none

theorem undoing?_of_isDormant {W : Type} {phase : Phase W}
    (dormant : phase.isDormant = true) : phase.undoing? = none := by
  cases phase with
  | undoing flag event watch => cases dormant
  | _ => rfl

end Phase

namespace Synchronizer

variable {W : Type}

/-- Where a loop is. -/
def phase? (sync : Synchronizer W) (number : Nat) : Option (Phase W) :=
  sync.loops[number]?.map WatchLoop.phase

theorem phase?_of_loop {sync : Synchronizer W} {number : Nat}
    {loop : WatchLoop W} (found : sync.loops[number]? = some loop) :
    sync.phase? number = some loop.phase :=
  congrArg (Option.map WatchLoop.phase) found

theorem isFinished_eq (sync : Synchronizer W) (number : Nat) :
    sync.isFinished number = (sync.phase? number).all Phase.isFinished := by
  rw [isFinished, phase?]
  cases sync.loops[number]? with
  | none => rfl
  | some loop => rfl

/-- A loop is out of the way of a later one: it is over, or the hold on it or
on one between the two was lost. -/
def IsPast (sync : Synchronizer W) (lost : List Nat) (earlier later : Nat) :
    Prop :=
  sync.isFinished earlier = true ∨
    ∃ number ∈ lost, earlier ≤ number ∧ number < later

/-- How the loops stand in line when `held` is the one that the next loop would
wait for and the hold on those in `lost` was given up: a loop that has begun has
all loops before it out of its way, and one that waits does so for the one right
before it, unless all are out of its way. -/
structure IsLined (sync : Synchronizer W) (held : Option Nat)
    (lost : List Nat) : Prop where
  alone : ∀ number phase, sync.phase? number = some phase →
    phase.isQueued = false → ∀ earlier < number,
      sync.IsPast lost earlier number
  queue : ∀ number predecessor,
    sync.phase? number = some (.queued predecessor) →
      predecessor = some (number - 1) ∧ 0 < number ∨
        ∀ earlier < number, sync.IsPast lost earlier number
  latest : ∀ number, held = some number → number + 1 = sync.loops.length
  loose : held = none → ∀ number < sync.loops.length,
    sync.IsPast lost number sync.loops.length

/-- The loops take turns: one that is at work has only finished ones before it,
and one that waits does so for the one right before it, unless all are over. -/
structure IsOrderly (sync : Synchronizer W) : Prop where
  alone : ∀ number phase, sync.phase? number = some phase →
    phase.isQueued = false → ∀ earlier < number, sync.isFinished earlier = true
  queue : ∀ number predecessor,
    sync.phase? number = some (.queued predecessor) →
      predecessor = some (number - 1) ∧ 0 < number ∨
        ∀ earlier < number, sync.isFinished earlier = true
  latest : ∀ task, sync.task = some task → task + 1 = sync.loops.length
  released : sync.task = none → ∀ number, sync.isFinished number = true

theorem phase?_eq_none {sync : Synchronizer W} {number : Nat} :
    sync.phase? number = none ↔ sync.loops.length ≤ number := by
  rw [phase?, Option.map_eq_none_iff, List.getElem?_eq_none_iff]

theorem isFinished_of_length_le {sync : Synchronizer W} {number : Nat}
    (outside : sync.loops.length ≤ number) :
    sync.isFinished number = true := by
  rw [isFinished_eq, phase?_eq_none.mpr outside]
  rfl

theorem IsPast.mono {sync next : Synchronizer W} {lost more : List Nat}
    {earlier later further : Nat} (past : sync.IsPast lost earlier later)
    (finished : sync.isFinished earlier = true → next.isFinished earlier = true)
    (known : ∀ number ∈ lost, number ∈ more) (within : later ≤ further) :
    next.IsPast more earlier further := by
  rcases past with complete | ⟨number, member, after, before⟩
  · exact .inl (finished complete)
  · exact .inr ⟨number, known number member, after, by omega⟩

theorem isPast_nil {sync : Synchronizer W} {earlier later : Nat} :
    sync.IsPast [] earlier later ↔ sync.isFinished earlier = true := by
  simp [IsPast]

namespace IsLined

variable {sync next : Synchronizer W} {held : Option Nat} {lost : List Nat}

theorem created (config : Config) :
    IsLined ({ config } : Synchronizer W) none [] where
  alone := by
    intro number phase found
    cases found
  queue := by
    intro number predecessor found
    cases found
  latest := by
    intro number active
    cases active
  loose := fun _ _ _ => .inl rfl

/-- A loop that is over has only such loops before it that are out of the way
of all that come after it. -/
theorem past_of_isFinished (lined : sync.IsLined held lost) {number later : Nat}
    (inside : number < sync.loops.length)
    (finished : sync.isFinished number = true) (after : number < later) :
    ∀ earlier ≤ number, sync.IsPast lost earlier later := by
  intro earlier within
  cases found : sync.phase? number with
  | none =>
      have outside := phase?_eq_none.mp found
      omega
  | some phase =>
      have complete : phase.isFinished = true := by
        rw [isFinished_eq, found] at finished
        exact finished
      have begun : phase.isQueued = false := by
        cases phase <;> first | rfl | cases complete
      rcases Nat.lt_or_eq_of_le within with before | rfl
      · have past := lined.alone number phase found begun earlier before
        exact past.mono id (fun _ member => member) (Nat.le_of_lt after)
      · exact .inl finished

/-- Of two loops that are at work, the hold on the earlier one or on one
between them was lost. -/
theorem lost_between (lined : sync.IsLined held lost) {left right : Nat}
    {leftPhase rightPhase : Phase W} (before : left < right)
    (leftFound : sync.phase? left = some leftPhase)
    (leftBusy : leftPhase.isDormant = false)
    (rightFound : sync.phase? right = some rightPhase)
    (rightBusy : rightPhase.isDormant = false) :
    ∃ number ∈ lost, left ≤ number ∧ number < right := by
  simp only [Phase.isDormant, Bool.or_eq_false_iff] at leftBusy rightBusy
  rcases lined.alone right rightPhase rightFound rightBusy.1 left before with
    finished | between
  · rw [isFinished_eq, leftFound] at finished
    exact absurd finished (by simp [leftBusy.2])
  · exact between

/-- Nothing changes in the line when no phase does. -/
theorem of_same_phases (lined : sync.IsLined held lost)
    (phases : next.phase? = sync.phase?)
    (length : next.loops.length = sync.loops.length) :
    next.IsLined held lost := by
  have past : ∀ earlier later, next.IsPast lost earlier later =
      sync.IsPast lost earlier later := by
    intro earlier later
    rw [IsPast, IsPast, isFinished_eq, isFinished_eq, phases]
  constructor
  · simpa only [phases, past] using lined.alone
  · simpa only [phases, past] using lined.queue
  · simpa only [length] using lined.latest
  · simpa only [length, past] using lined.loose

/-- A loop that is over need not be held any longer. -/
theorem finish (lined : sync.IsLined held lost)
    (complete : held.all sync.isFinished = true) :
    sync.IsLined none lost where
  alone := lined.alone
  queue := lined.queue
  latest := nofun
  loose := by
    intro _ number inside
    cases active : held with
    | none => exact lined.loose active number inside
    | some latest =>
        have last := lined.latest latest active
        rw [active] at complete
        exact lined.past_of_isFinished (by omega) complete (by omega) number
          (by omega)

/-- The hold on a loop can be lost, but then this is known. -/
theorem lose {latest : Nat} (lined : sync.IsLined (some latest) lost) :
    sync.IsLined none (latest :: lost) where
  alone := by
    intro number phase found begun earlier before
    exact (lined.alone number phase found begun earlier before).mono id
      (fun _ => List.mem_cons_of_mem _) (Nat.le_refl _)
  queue := by
    intro number predecessor found
    rcases lined.queue number predecessor found with right_before | past
    · exact .inl right_before
    · exact .inr fun earlier before => (past earlier before).mono id
        (fun _ => List.mem_cons_of_mem _) (Nat.le_refl _)
  latest := nofun
  loose := by
    intro _ number inside
    have last := lined.latest latest rfl
    exact .inr ⟨latest, List.mem_cons_self, by omega, by omega⟩

end IsLined

namespace IsOrderly

variable {sync next : Synchronizer W}

/-- The loops take turns when none was lost from the line. -/
theorem iff_isLined : sync.IsOrderly ↔ sync.IsLined sync.task [] := by
  constructor
  · intro orderly
    constructor
    · simpa only [isPast_nil] using orderly.alone
    · simpa only [isPast_nil] using orderly.queue
    · exact orderly.latest
    · intro released number _
      exact isPast_nil.mpr (orderly.released released number)
  · intro lined
    constructor
    · simpa only [isPast_nil] using lined.alone
    · simpa only [isPast_nil] using lined.queue
    · exact lined.latest
    · intro released number
      by_cases inside : number < sync.loops.length
      · exact isPast_nil.mp (lined.loose released number inside)
      · exact isFinished_of_length_le (by omega)

theorem created (config : Config) :
    IsOrderly ({ config } : Synchronizer W) :=
  iff_isLined.mpr (.created config)

/-- Two loops that are at work are the same. -/
theorem unique (orderly : sync.IsOrderly) {left right : Nat}
    {leftPhase rightPhase : Phase W}
    (leftFound : sync.phase? left = some leftPhase)
    (leftBusy : leftPhase.isDormant = false)
    (rightFound : sync.phase? right = some rightPhase)
    (rightBusy : rightPhase.isDormant = false) : left = right := by
  have lined := iff_isLined.mp orderly
  rcases Nat.lt_trichotomy left right with before | same | after
  · simpa using lined.lost_between before leftFound leftBusy rightFound
      rightBusy
  · exact same
  · simpa using lined.lost_between after rightFound rightBusy leftFound
      leftBusy

/-- Other loops are not at work while one is. -/
theorem dormant (orderly : sync.IsOrderly) {number other : Nat}
    {phase otherPhase : Phase W} (found : sync.phase? number = some phase)
    (busy : phase.isDormant = false)
    (otherFound : sync.phase? other = some otherPhase)
    (different : other ≠ number) : otherPhase.isDormant = true := by
  by_contra working
  exact different (orderly.unique otherFound (Bool.eq_false_iff.mpr working)
    found busy)

/-- Nothing changes in the order when no phase does. -/
theorem of_same_phases (orderly : sync.IsOrderly)
    (phases : next.phase? = sync.phase?) (task : next.task = sync.task)
    (length : next.loops.length = sync.loops.length) : next.IsOrderly := by
  rw [iff_isLined, task]
  exact (iff_isLined.mp orderly).of_same_phases phases length

end IsOrderly

/-- The first load takes nothing from the store but what it reads, and moves no
loop. -/
theorem loadInitially_cases {V S : Type} [FlagValue V] [KeyValueStore S W]
    (sync : Synchronizer W) (world : World V S) :
    (sync.loadInitially world).2.2.store = world.store ∧
      ((sync.loadInitially world).2.1 = sync ∨
        ∃ index, (sync.loadInitially world).2.1 =
          { sync with initialized := true, cursor := index }) := by
  have store := world.load_store sync.directory false
  rw [loadInitially]
  split
  · exact ⟨rfl, .inl rfl⟩
  · split
    · rename_i error later failed
      rw [failed] at store
      exact ⟨store, .inl rfl⟩
    · rename_i detail later crashed
      rw [crashed] at store
      exact ⟨store, .inl rfl⟩
    · rename_i index applied failures later loaded
      rw [loaded] at store
      exact ⟨store, .inr ⟨index, rfl⟩⟩

theorem start_eq_ok {sync next : Synchronizer W} {hasRuntime : Bool}
    (started : sync.start hasRuntime = .ok next) :
    sync.initialized = true ∧
      next = { sync with
        cancel := some sync.loops.length
        task := some sync.loops.length
        loops := sync.loops ++ [{ phase := .queued sync.task }] } := by
  unfold start at started
  split at started
  · cases started
  · rename_i initialized
    split at started
    · cases started
    · split at started
      · cases started
      · cases started
        exact ⟨by simpa using initialized, rfl⟩

theorem phase?_start {sync next : Synchronizer W} {hasRuntime : Bool}
    (started : sync.start hasRuntime = .ok next) (number : Nat) :
    next.phase? number =
      if number = sync.loops.length then some (.queued sync.task)
      else sync.phase? number := by
  obtain ⟨_, rfl⟩ := start_eq_ok started
  unfold phase?
  dsimp only
  by_cases new : number = sync.loops.length
  · rw [if_pos new, new, List.getElem?_concat_length]
    rfl
  · rw [if_neg new, List.getElem?_append]
    by_cases old : number < sync.loops.length
    · rw [if_pos old]
    · have beyond : sync.loops.length ≤ number := by omega
      have none : sync.loops[number]? = none := List.getElem?_eq_none beyond
      rw [if_neg old, none, List.getElem?_eq_none (by simp; omega)]

theorem phase?_cancelLoop (sync : Synchronizer W) (cancelled : Nat) :
    (sync.cancelLoop cancelled).phase? = sync.phase? := by
  funext number
  rw [phase?, cancelLoop, List.getElem?_modify, phase?]
  cases sync.loops[number]? with
  | none => rfl
  | some loop =>
      by_cases same : cancelled = number
      · simp [same]
      · simp [same]

theorem length_cancelLoop (sync : Synchronizer W) (cancelled : Nat) :
    (sync.cancelLoop cancelled).loops.length = sync.loops.length :=
  List.length_modify ..

/-- Stopping changes neither the phases of the loops nor anything else that a
loop works with. -/
theorem stop_cases {V S : Type} (sync : Synchronizer W) (world : World V S) :
    (∃ number, (sync.stop world).2 =
        (sync.cancelLoop number, world.tell .stopping)) ∨
      (sync.stop world).2 = ({ sync with cancel := none }, world) := by
  unfold stop
  split
  · exact .inl ⟨_, rfl⟩
  · exact .inr rfl

section Turns

variable {V S : Type} [FlagValue V] [KeyValueStore S W]
variable {sync : Synchronizer W} {world : World V S}

/-- The synchronizer after a loop took a turn. -/
def turned (sync : Synchronizer W) (number : Nat) (loop : WatchLoop W)
    (turn : Turn V S W) : Synchronizer W :=
  { sync with
    cursor := turn.cursor
    loops := sync.loops.set number { loop with phase := turn.phase } }

theorem stepLoop?_eq_some {number draw : Nat} {next : Synchronizer W}
    {later : World V S} :
    sync.stepLoop? draw number world = some (next, later) ↔
      ∃ loop turn, sync.loops[number]? = some loop ∧
        loop.step? sync.config draw sync.isFinished sync.cursor world =
          some turn ∧ next = sync.turned number loop turn ∧
            later = turn.world := by
  simp only [stepLoop?, Option.bind_eq_bind, Option.bind_eq_some_iff,
    Option.pure_def, Option.some.injEq, Prod.mk.injEq]
  constructor
  · rintro ⟨loop, found, turn, stepped, rfl, rfl⟩
    exact ⟨loop, turn, found, stepped, rfl, rfl⟩
  · rintro ⟨loop, turn, found, stepped, rfl, rfl⟩
    exact ⟨loop, found, turn, stepped, rfl, rfl⟩

omit [FlagValue V] [KeyValueStore S W] in
theorem phase?_turned {number : Nat} {loop : WatchLoop W}
    (found : sync.loops[number]? = some loop) (turn : Turn V S W)
    (sought : Nat) :
    (sync.turned number loop turn).phase? sought =
      if sought = number then some turn.phase else sync.phase? sought := by
  unfold phase? turned
  dsimp only
  rw [List.getElem?_set]
  by_cases same : number = sought
  · have inside : number < sync.loops.length :=
      (List.getElem?_eq_some_iff.mp found).1
    rw [if_pos same, if_pos inside, if_pos same.symm]
    rfl
  · rw [if_neg same, if_neg (Ne.symm same)]

end Turns

end Synchronizer

namespace Turn

variable {V : Type} [FlagValue V]

theorem enter_isQueued {V S W : Type} (timing : WatchTiming)
    (draw cursor : Nat) (world : World V S) (watch : W) (state : WatchState) :
    (Turn.enter timing draw cursor world watch state).phase.isQueued =
      false := by
  cases state <;> rfl

theorem receive_isQueued {S W : Type} (config : Config) (draw cursor : Nat)
    (world : World V S) (watch : W) (arrival : Arrival) :
    (Turn.receive config draw cursor world watch arrival).phase.isQueued =
      false := by
  cases arrival with
  | event event =>
      rw [receive, take]
      split <;> rfl
  | failure error => exact enter_isQueued ..
  | pending => rfl
  | ended => exact enter_isQueued ..

theorem enter_store {V S W : Type} (timing : WatchTiming)
    (draw cursor : Nat) (world : World V S) (watch : W) (state : WatchState) :
    (Turn.enter timing draw cursor world watch state).world.store =
      world.store := by
  cases state <;> rfl

theorem take_store {S W : Type} (directory : String) (cursor : Nat)
    (world : World V S) (watch : W) (event : ChangeEvent) :
    (Turn.take directory cursor world watch event).world.store =
      world.store := by
  unfold take
  dsimp only
  cases (handleEvent directory world.flags event).verdict <;>
    cases (handleEvent directory world.flags event).notice <;> rfl

/-- What arrived leaves the store alone until the next step. -/
theorem receive_store {S W : Type} (config : Config) (draw cursor : Nat)
    (world : World V S) (watch : W) (arrival : Arrival) :
    (Turn.receive config draw cursor world watch arrival).world.store =
      world.store := by
  cases arrival with
  | event event => exact take_store ..
  | failure error => exact enter_store ..
  | pending => rfl
  | ended => exact enter_store ..

theorem reread_store {S W : Type} [KeyValueStore S W] (directory : String)
    (cursor : Nat) (world : World V S) :
    (Turn.reread directory cursor world).world.store = world.store := by
  have store := world.load_store directory true
  unfold reread
  split
  · rename_i index applied failures later loaded
    rw [loaded] at store
    exact store
  · rename_i error later failed
    rw [failed] at store
    exact store
  · rename_i detail later crashed
    rw [crashed] at store
    exact store

end Turn

namespace WatchLoop

variable {V S W : Type} [FlagValue V] [KeyValueStore S W]

section Hearing

omit [FlagValue V] [KeyValueStore S W]

variable {loop : WatchLoop W}

theorem cancelled_of_hearsStop {draw : Nat} {elapsed : Bool}
    (heard : loop.hearsStop draw elapsed = true) : loop.cancelled = true :=
  (Bool.and_eq_true_iff.mp heard).1

theorem hearsStop_of_running (running : loop.cancelled = false) (draw : Nat)
    (elapsed : Bool) : loop.hearsStop draw elapsed = false := by
  rw [hearsStop, running, Bool.false_and]

end Hearing

/-- Where a loop goes on after a pause. -/
def resumed (watch : W) : WatchState → Phase W
  | .recovering => .rereading watch
  | .backoffGeneric => .opening
  | _ => .streaming watch

/-- What a loop can do in a step. -/
inductive Steps (config : Config) (draw : Nat) (finished : Nat → Bool)
    (loop : WatchLoop W) (cursor : Nat) (world : World V S) :
    Turn V S W → Prop
  | begins (predecessor : Option Nat)
      (queued : loop.phase = .queued predecessor)
      (complete : predecessor.all finished = true) :
      Steps config draw finished loop cursor world
        ⟨.opening, cursor, world.tell (.watcherStarted cursor)⟩
  | opens (opening : loop.phase = .opening) (watch : W) (later : World V S)
      (opened : world.openWatch config.normalized ⟨cursor, true⟩ =
        (watch, later)) :
      Steps config draw finished loop cursor world
        ⟨.streaming watch, cursor, later⟩
  | stops (watch : W)
      (attending : loop.phase = .streaming watch ∨
        ∃ state deadline, loop.phase = .pausing state deadline watch)
      (cancelled : loop.cancelled = true) :
      Steps config draw finished loop cursor world (.exit cursor world)
  | receives (watch : W) (streaming : loop.phase = .streaming watch)
      (running : loop.cancelled = false)
      (ready : KeyValueStore.ready world.store watch = true)
      (arrival : Arrival) (left : W) (store : S)
      (next : KeyValueStore.next world.store watch = (arrival, left, store)) :
      Steps config draw finished loop cursor world
        (.receive config draw cursor { world with store } left arrival)
  | undoes (flag : String) (event : ChangeEvent) (watch : W)
      (undoing : loop.phase = .undoing flag event watch)
      (answer : Except StoreError Nat) (later : World V S)
      (written : world.write event.undo = (answer, later)) :
      Steps config draw finished loop cursor world
        ⟨.streaming watch, cursor,
          later.tell ((RollbackOutcome.ofAnswer event answer).notice flag)⟩
  | resumes (state : WatchState) (deadline : Nat) (watch : W)
      (pausing : loop.phase = .pausing state deadline watch)
      (unheard : loop.hearsStop draw true = false)
      (due : deadline ≤ world.time) :
      Steps config draw finished loop cursor world
        ⟨resumed watch state, cursor, world⟩
  | rereads (watch : W) (rereading : loop.phase = .rereading watch) :
      Steps config draw finished loop cursor world
        (.reread config.normalized cursor world)

theorem steps {config : Config} {draw cursor : Nat}
    {finished : Nat → Bool} {loop : WatchLoop W} {world : World V S}
    {turn : Turn V S W}
    (stepped : loop.step? config draw finished cursor world = some turn) :
    loop.Steps config draw finished cursor world turn := by
  unfold step? at stepped
  cases phase : loop.phase with
  | queued predecessor =>
      simp only [phase] at stepped
      split at stepped
      · rename_i complete
        cases stepped
        exact .begins predecessor phase complete
      · cases stepped
  | opening =>
      simp only [phase] at stepped
      cases stepped
      exact .opens phase _ _ rfl
  | streaming watch =>
      simp only [phase] at stepped
      split at stepped
      · rename_i cancelled
        cases stepped
        exact .stops watch (.inl phase) cancelled
      · rename_i running
        split at stepped
        · rename_i ready
          cases stepped
          exact .receives watch phase (by simpa using running) ready _ _ _ rfl
        · cases stepped
  | undoing flag event watch =>
      simp only [phase] at stepped
      cases stepped
      exact .undoes flag event watch phase _ _ rfl
  | pausing state deadline watch =>
      simp only [phase] at stepped
      split at stepped
      · rename_i heard
        cases stepped
        exact .stops watch (.inr ⟨state, deadline, phase⟩)
          (cancelled_of_hearsStop heard)
      · rename_i unheard
        split at stepped
        · rename_i due
          rw [decide_eq_true due, Bool.not_eq_true] at unheard
          have resumes : loop.Steps config draw finished cursor world
              ⟨resumed watch state, cursor, world⟩ :=
            .resumes state deadline watch phase unheard due
          cases state <;> cases stepped <;> exact resumes
        · cases stepped
  | rereading watch =>
      simp only [phase] at stepped
      cases stepped
      exact .rereads watch phase
  | exited =>
      simp only [phase] at stepped
      cases stepped
  | crashed detail =>
      simp only [phase] at stepped
      cases stepped

/-- A loop that takes a turn is not over, has begun afterwards, and if it had
not then the loop that it waited for is over. -/
theorem step?_begins {config : Config} {draw cursor : Nat}
    {finished : Nat → Bool} {loop : WatchLoop W} {world : World V S}
    {turn : Turn V S W}
    (stepped : loop.step? config draw finished cursor world = some turn) :
    loop.phase.isFinished = false ∧ turn.phase.isQueued = false ∧
      ∀ predecessor, loop.phase = .queued predecessor →
        predecessor.all finished = true := by
  cases steps stepped with
  | begins predecessor queued complete =>
      rw [queued]
      refine ⟨rfl, rfl, ?_⟩
      intro other same
      cases same
      exact complete
  | opens opening =>
      rw [opening]
      exact ⟨rfl, rfl, fun _ same => by cases same⟩
  | stops watch attending =>
      rcases attending with streaming | ⟨state, deadline, pausing⟩
      · rw [streaming]
        exact ⟨rfl, rfl, fun _ same => by cases same⟩
      · rw [pausing]
        exact ⟨rfl, rfl, fun _ same => by cases same⟩
  | receives watch streaming =>
      rw [streaming]
      exact ⟨rfl, Turn.receive_isQueued .., fun _ same => by cases same⟩
  | undoes flag event watch undoing =>
      rw [undoing]
      exact ⟨rfl, rfl, fun _ same => by cases same⟩
  | resumes state deadline watch pausing =>
      rw [pausing]
      refine ⟨rfl, ?_, fun _ same => by cases same⟩
      cases state <;> rfl
  | rereads watch rereading =>
      rw [rereading]
      refine ⟨rfl, ?_, fun _ same => by cases same⟩
      unfold Turn.reread
      split <;> rfl

end WatchLoop

namespace Synchronizer

variable {W : Type} {sync next : Synchronizer W}

/-- A loop that is over stays so when loops take turns. -/
theorem isFinished_turned {V S : Type} [FlagValue V] [KeyValueStore S W]
    {world : World V S} {number draw : Nat} {loop : WatchLoop W}
    {turn : Turn V S W} (found : sync.loops[number]? = some loop)
    (stepped : loop.step? sync.config draw sync.isFinished sync.cursor world =
      some turn) {other : Nat} (complete : sync.isFinished other = true) :
    (sync.turned number loop turn).isFinished other = true := by
  rw [isFinished_eq, phase?_turned found]
  by_cases same : other = number
  · rw [isFinished_eq, same, phase?_of_loop found, Option.all_some,
      (WatchLoop.step?_begins stepped).1] at complete
    cases complete
  · rw [if_neg same, ← isFinished_eq]
    exact complete

namespace IsLined

variable {held : Option Nat} {lost : List Nat}

theorem start {hasRuntime : Bool} (lined : sync.IsLined sync.task lost)
    (started : sync.start hasRuntime = .ok next) :
    next.IsLined next.task lost := by
  have phases := phase?_start started
  obtain ⟨_, created⟩ := start_eq_ok started
  have length : next.loops.length = sync.loops.length + 1 := by
    rw [created]
    exact List.length_append
  have task : next.task = some sync.loops.length := by rw [created]
  have old : ∀ {number later : Nat}, number < sync.loops.length →
      sync.IsPast lost number later → next.IsPast lost number later := by
    intro number later before past
    refine past.mono ?_ (fun _ member => member) (Nat.le_refl _)
    rw [isFinished_eq, isFinished_eq, phases, if_neg (Nat.ne_of_lt before)]
    exact id
  have inside : ∀ number phase, sync.phase? number = some phase →
      number < sync.loops.length := by
    intro number phase found
    by_contra outside
    rw [phase?_eq_none.mpr (by omega)] at found
    cases found
  constructor
  · intro number phase found begun earlier before
    rw [phases] at found
    by_cases new : number = sync.loops.length
    · rw [if_pos new] at found
      cases found
      cases begun
    · rw [if_neg new] at found
      have within := inside number phase found
      exact old (by omega) (lined.alone number phase found begun earlier before)
  · intro number predecessor found
    rw [phases] at found
    by_cases new : number = sync.loops.length
    · rw [if_pos new] at found
      cases found
      cases active : sync.task with
      | none =>
          right
          intro earlier before
          rw [new] at before ⊢
          exact old before (lined.loose active earlier before)
      | some latest =>
          left
          have last := lined.latest latest active
          exact ⟨congrArg some (by omega), by omega⟩
    · rw [if_neg new] at found
      have within := inside number _ found
      rcases lined.queue number predecessor found with right_before | past
      · exact .inl right_before
      · exact .inr fun earlier before =>
          old (by omega) (past earlier before)
  · intro latest active
    rw [task] at active
    cases active
    exact length.symm
  · intro released
    rw [task] at released
    cases released

theorem turn {V S : Type} [FlagValue V] [KeyValueStore S W]
    {world : World V S} {number draw : Nat} {loop : WatchLoop W}
    {turn : Turn V S W} (lined : sync.IsLined held lost)
    (found : sync.loops[number]? = some loop)
    (stepped : loop.step? sync.config draw sync.isFinished sync.cursor world =
      some turn) : (sync.turned number loop turn).IsLined held lost := by
  have phases := phase?_turned found turn
  obtain ⟨running, begins, queued⟩ := WatchLoop.step?_begins stepped
  have here : sync.phase? number = some loop.phase :=
    phase?_of_loop found
  have still : ∀ {earlier later : Nat}, sync.IsPast lost earlier later →
      (sync.turned number loop turn).IsPast lost earlier later := by
    intro earlier later past
    exact past.mono (isFinished_turned found stepped) (fun _ member => member)
      (Nat.le_refl _)
  have earlierPast : ∀ earlier < number, sync.IsPast lost earlier number := by
    cases waiting : loop.phase.isQueued with
    | false => exact lined.alone number loop.phase here waiting
    | true =>
        cases phase : loop.phase with
        | queued predecessor =>
            rw [phase] at here
            rcases lined.queue number predecessor here with
              ⟨right_before, positive⟩ | past
            · have complete := queued predecessor phase
              rw [right_before] at complete
              intro earlier before
              have inside := (List.getElem?_eq_some_iff.mp found).1
              exact lined.past_of_isFinished (by omega) complete (by omega)
                earlier (by omega)
            · exact past
        | _ =>
            rw [phase] at waiting
            cases waiting
  have length : (sync.turned number loop turn).loops.length =
      sync.loops.length := List.length_set
  constructor
  · intro other phase otherFound begun earlier before
    apply still
    rw [phases] at otherFound
    by_cases same : other = number
    · rw [same] at before ⊢
      exact earlierPast earlier before
    · rw [if_neg same] at otherFound
      exact lined.alone other phase otherFound begun earlier before
  · intro other predecessor otherFound
    rw [phases] at otherFound
    by_cases same : other = number
    · rw [if_pos same] at otherFound
      rw [Option.some.inj otherFound] at begins
      cases begins
    · rw [if_neg same] at otherFound
      rcases lined.queue other predecessor otherFound with right_before | past
      · exact .inl right_before
      · exact .inr fun earlier before => still (past earlier before)
  · intro latest active
    rw [length]
    exact lined.latest latest active
  · intro released other inside
    rw [length] at inside ⊢
    exact still (lined.loose released other inside)

end IsLined

end Synchronizer

namespace Synchronizer.IsOrderly

variable {W : Type} {sync next : Synchronizer W}

theorem start {hasRuntime : Bool} (orderly : sync.IsOrderly)
    (started : sync.start hasRuntime = .ok next) : next.IsOrderly :=
  iff_isLined.mpr ((iff_isLined.mp orderly).start started)

/-- A loop that was waited for until it was over was the latest one. -/
theorem join (orderly : sync.IsOrderly)
    (complete : sync.task.all sync.isFinished = true) :
    sync.detachTask.IsOrderly := by
  have lined := (iff_isLined.mp orderly).finish complete
  exact iff_isLined.mpr (lined.of_same_phases rfl rfl)

theorem turn {V S : Type} [FlagValue V] [KeyValueStore S W]
    {world : World V S} {number draw : Nat} {loop : WatchLoop W}
    {turn : Turn V S W} (orderly : sync.IsOrderly)
    (found : sync.loops[number]? = some loop)
    (stepped : loop.step? sync.config draw sync.isFinished sync.cursor world =
      some turn) : (sync.turned number loop turn).IsOrderly :=
  iff_isLined.mpr ((iff_isLined.mp orderly).turn found stepped)

/-- No other loop is at work when one takes a turn. -/
theorem others_dormant {V S : Type} [FlagValue V] [KeyValueStore S W]
    {world : World V S} {number draw : Nat} {loop : WatchLoop W}
    {turn : Turn V S W} (orderly : sync.IsOrderly)
    (found : sync.loops[number]? = some loop)
    (stepped : loop.step? sync.config draw sync.isFinished sync.cursor world =
      some turn) {other : Nat} {phase : Phase W} (different : other ≠ number)
    (otherFound : sync.phase? other = some phase) :
    phase.isDormant = true := by
  cases waiting : loop.phase.isQueued with
  | false =>
      have busy : loop.phase.isDormant = false := by
        simp [Phase.isDormant, waiting, (WatchLoop.step?_begins stepped).1]
      exact orderly.dormant (phase?_of_loop found) busy otherFound different
  | true =>
      -- The loop is at work after its first step.
      have after := phase?_turned found turn
      have here := after number
      rw [if_pos rfl] at here
      have there := after other
      rw [if_neg different, otherFound] at there
      refine (orderly.turn found stepped).dormant here ?_ there different
      cases WatchLoop.steps stepped with
      | begins predecessor queued complete => rfl
      | opens opening => simp [opening, Phase.isQueued] at waiting
      | stops watch attending =>
          rcases attending with streaming | ⟨state, deadline, pausing⟩
          · simp [streaming, Phase.isQueued] at waiting
          · simp [pausing, Phase.isQueued] at waiting
      | receives watch streaming => simp [streaming, Phase.isQueued] at waiting
      | undoes flag event watch undoing =>
          simp [undoing, Phase.isQueued] at waiting
      | resumes state deadline watch pausing =>
          simp [pausing, Phase.isQueued] at waiting
      | rereads watch rereading =>
          simp [rereading, Phase.isQueued] at waiting

end Synchronizer.IsOrderly

namespace Synchronizer

variable {W : Type}

/-- No loop moves and the cursor stays, while loops may be added that wait in
the queue. -/
structure SameLoops (earlier later : Synchronizer W) : Prop where
  config : later.config = earlier.config
  cursor : later.cursor = earlier.cursor
  initialized : later.initialized = earlier.initialized
  orderly : earlier.IsOrderly → later.IsOrderly
  empty : earlier.initialized = false → earlier.loops = [] → later.loops = []
  kept : ∀ number phase, earlier.phase? number = some phase →
    later.phase? number = some phase
  added : ∀ number phase, later.phase? number = some phase →
    earlier.phase? number = some phase ∨ phase.isQueued = true

namespace SameLoops

theorem refl (sync : Synchronizer W) : SameLoops sync sync where
  config := rfl
  cursor := rfl
  initialized := rfl
  orderly := id
  empty := fun _ none => none
  kept := fun _ _ found => found
  added := fun _ _ found => .inl found

theorem start {sync next : Synchronizer W} {hasRuntime : Bool}
    (started : sync.start hasRuntime = .ok next) : SameLoops sync next := by
  have phases := phase?_start started
  have orderly : sync.IsOrderly → next.IsOrderly :=
    fun orderly => orderly.start started
  obtain ⟨initialized, created⟩ := start_eq_ok started
  have kept : ∀ number phase, sync.phase? number = some phase →
      next.phase? number = some phase := by
    intro number phase found
    rw [phases, if_neg]
    · exact found
    · rintro rfl
      rw [phase?_eq_none.mpr (Nat.le_refl _)] at found
      cases found
  have added : ∀ number phase, next.phase? number = some phase →
      sync.phase? number = some phase ∨ phase.isQueued = true := by
    intro number phase found
    rw [phases] at found
    split at found
    · cases found
      exact .inr rfl
    · exact .inl found
  refine ⟨?_, ?_, ?_, orderly, ?_, kept, added⟩
  · rw [created]
  · rw [created]
  · rw [created]
  · intro notYet
    rw [initialized] at notYet
    cases notYet

theorem stop {V S : Type} (sync : Synchronizer W) (world : World V S) :
    SameLoops sync (sync.stop world).2.1 := by
  rcases sync.stop_cases world with ⟨cancelled, stopped⟩ | stopped
  · have phases := phase?_cancelLoop sync cancelled
    have orderly : sync.IsOrderly → (sync.cancelLoop cancelled).IsOrderly :=
      fun orderly => orderly.of_same_phases phases rfl
        (length_cancelLoop sync cancelled)
    rw [stopped]
    refine ⟨rfl, rfl, rfl, orderly, ?_, ?_, ?_⟩
    · intro _ none
      change sync.loops.modify cancelled _ = []
      rw [none]
      exact List.modify_nil ..
    · intro number phase found
      exact (congrFun phases number).trans found
    · intro number phase found
      exact .inl ((congrFun phases number).symm.trans found)
  · rw [stopped]
    exact ⟨rfl, rfl, rfl, fun orderly => orderly.of_same_phases rfl rfl rfl,
      fun _ none => none, fun _ _ found => found, fun _ _ found => .inl found⟩

theorem join {sync : Synchronizer W}
    (complete : sync.task.all sync.isFinished = true) :
    SameLoops sync sync.detachTask :=
  ⟨rfl, rfl, rfl, fun orderly => orderly.join complete, fun _ none => none,
    fun _ _ found => found, fun _ _ found => .inl found⟩

end SameLoops

/-- A loop was asked to stop. -/
def IsCancelled (sync : Synchronizer W) (number : Nat) : Prop :=
  ∃ loop, sync.loops[number]? = some loop ∧ loop.cancelled = true

namespace IsCancelled

variable {sync next : Synchronizer W} {number : Nat}

theorem of_start {hasRuntime : Bool}
    (started : sync.start hasRuntime = .ok next)
    (cancelled : next.IsCancelled number) : sync.IsCancelled number := by
  obtain ⟨_, rfl⟩ := start_eq_ok started
  obtain ⟨loop, found, asked⟩ := cancelled
  rw [List.getElem?_append] at found
  split at found
  · exact ⟨loop, found, asked⟩
  · obtain rfl := List.mem_singleton.mp (List.mem_of_getElem? found)
    cases asked

theorem of_cancelLoop {stopping : Nat}
    (cancelled : (sync.cancelLoop stopping).IsCancelled number) :
    sync.IsCancelled number ∨ stopping = number := by
  obtain ⟨loop, found, asked⟩ := cancelled
  rw [cancelLoop, List.getElem?_modify, Option.map_eq_map,
    Option.map_eq_some_iff] at found
  obtain ⟨before, there, rfl⟩ := found
  by_cases here : stopping = number
  · exact .inr here
  · rw [if_neg here] at asked
    exact .inl ⟨before, there, asked⟩

theorem of_stop {V S : Type} {world : World V S}
    (cancelled : (sync.stop world).2.1.IsCancelled number) :
    sync.IsCancelled number ∨
      sync.isWatching = true ∧ sync.cancel = some number := by
  unfold stop at cancelled
  split at cancelled
  · rename_i stopping watching latest
    rcases of_cancelLoop cancelled with before | rfl
    · exact .inl before
    · exact .inr ⟨watching, latest⟩
  · exact .inl cancelled

theorem of_turned {V S : Type} {turning : Nat} {loop : WatchLoop W}
    {turn : Turn V S W} (found : sync.loops[turning]? = some loop)
    (cancelled : (sync.turned turning loop turn).IsCancelled number) :
    sync.IsCancelled number := by
  obtain ⟨other, there, asked⟩ := cancelled
  rw [turned, List.getElem?_set] at there
  split at there
  · rename_i here
    subst here
    split at there
    · cases there
      exact ⟨loop, found, asked⟩
    · cases there
  · exact ⟨other, there, asked⟩

end IsCancelled

end Synchronizer

end LiveFlags
