import LiveFlags.Proofs.Flag.Setting
import LiveFlags.Proofs.Sync.Lifecycle

/-!
# Who can still stop a loop

The holder of a synchronizer starts, stops and waits for loops and gives the
synchronizer up in the end, while the loops go on by themselves.  A wait takes
the hold on its loop out of the synchronizer.  If it is given up before the loop
is over, the hold is lost: the loop runs on unwatched, nothing that the holder
starts waits for it, and stopping does not reach it.  Nothing else has this
effect, so loops take turns and can be stopped until a wait is given up.
-/

namespace LiveFlags

/-- A synchronizer and what its holder did to it. -/
structure Custody (V S W : Type) where
  sync : Synchronizer W
  world : World V S
  /-- The loop whose end is being waited for. -/
  awaited : Option Nat := none
  /-- The loops that were not over when the wait for them was given up. -/
  abandoned : List Nat := []
  released : Bool := false

namespace Custody

/-- What the holder of a synchronizer can ask of it. -/
inductive Call where
  | load
  | start (hasRuntime : Bool)
  | stop
  /-- Begin to wait for the latest loop. -/
  | wait
  | release

/-- What happens next. -/
inductive Move (V S : Type) where
  | call (call : Call)
  /-- The wait returns if its loop is over. -/
  | finish
  /-- The wait is given up. -/
  | abandon
  | loop (number draw : Nat)
  /-- Others bring the world about. -/
  | others (world : World V S)

variable {V S W : Type} [FlagValue V] [KeyValueStore S W]

def called (custody : Custody V S W) : Call → Custody V S W
  | .load =>
      let (_, sync, world) := custody.sync.loadInitially custody.world
      { custody with sync, world }
  | .start hasRuntime =>
      match custody.sync.start hasRuntime with
      | .ok sync => { custody with sync }
      | .error _ => custody
  | .stop =>
      let (_, sync, world) := custody.sync.stop custody.world
      { custody with sync, world }
  | .wait =>
      { custody with
        sync := custody.sync.detachTask
        awaited := custody.sync.task }
  | .release =>
      let (sync, world) := custody.sync.release custody.world
      { custody with sync, world, released := true }

/-- The custody after a move; a move that is not possible changes nothing.
Nothing can be asked of a synchronizer during a wait. -/
def step (custody : Custody V S W) : Move V S → Custody V S W
  | .call call =>
      if custody.awaited = none ∧ custody.released = false then
        custody.called call
      else custody
  | .finish =>
      if custody.awaited.all custody.sync.isFinished then
        { custody with awaited := none }
      else custody
  | .abandon =>
      if custody.awaited.all custody.sync.isFinished then
        { custody with awaited := none }
      else
        { custody with
          awaited := none
          abandoned := custody.awaited.toList ++ custody.abandoned }
  | .loop number draw =>
      match custody.sync.stepLoop? draw number custody.world with
      | some (sync, world) => { custody with sync, world }
      | none => custody
  | .others world => { custody with world }

def run (custody : Custody V S W) (moves : List (Move V S)) : Custody V S W :=
  moves.foldl step custody

omit [FlagValue V] [KeyValueStore S W] in
/-- A new synchronizer in a world. -/
def fresh (config : Config) (world : World V S) : Custody V S W :=
  { sync := { config }, world }

omit [FlagValue V] [KeyValueStore S W] in
/-- The loop that the synchronizer or a wait has a hold on. -/
def held (custody : Custody V S W) : Option Nat :=
  custody.sync.task.or custody.awaited

end Custody

namespace Synchronizer

variable {W : Type} {sync next : Synchronizer W} {number : Nat}

/-- Whether a loop is neither over nor asked to stop. -/
def isRunning (sync : Synchronizer W) (number : Nat) : Bool :=
  sync.loops[number]?.any fun loop =>
    !loop.phase.isFinished && !loop.cancelled

theorem isRunning_iff : sync.isRunning number = true ↔
    ∃ loop, sync.loops[number]? = some loop ∧
      loop.phase.isFinished = false ∧ loop.cancelled = false := by
  simp [isRunning, Option.any_eq_true]

theorem isFinished_of_isRunning (running : sync.isRunning number = true) :
    sync.isFinished number = false := by
  obtain ⟨loop, found, working, _⟩ := isRunning_iff.mp running
  simp [isFinished, found, working]

theorem isRunning_start {hasRuntime : Bool}
    (started : sync.start hasRuntime = .ok next)
    (running : next.isRunning number = true) :
    number = sync.loops.length ∨ sync.isRunning number = true := by
  obtain ⟨_, rfl⟩ := start_eq_ok started
  obtain ⟨loop, found, working⟩ := isRunning_iff.mp running
  rw [List.getElem?_append] at found
  split at found
  · exact .inr (isRunning_iff.mpr ⟨loop, found, working⟩)
  · have inside := (List.getElem?_eq_some_iff.mp found).1
    left
    simp at inside
    omega

theorem isRunning_cancelLoop {stopping : Nat}
    (running : (sync.cancelLoop stopping).isRunning number = true) :
    stopping ≠ number ∧ sync.isRunning number = true := by
  obtain ⟨loop, found, working, asked⟩ := isRunning_iff.mp running
  rw [cancelLoop, List.getElem?_modify, Option.map_eq_map,
    Option.map_eq_some_iff] at found
  obtain ⟨before, there, rfl⟩ := found
  by_cases here : stopping = number
  · simp [here] at asked
  · rw [if_neg here] at working asked
    exact ⟨here, isRunning_iff.mpr ⟨before, there, working, asked⟩⟩

theorem isRunning_turned {V S : Type} {turning : Nat} {loop : WatchLoop W}
    {turn : Turn V S W} (found : sync.loops[turning]? = some loop)
    (working : loop.phase.isFinished = false)
    (running : (sync.turned turning loop turn).isRunning number = true) :
    sync.isRunning number = true := by
  obtain ⟨other, there, moving, asked⟩ := isRunning_iff.mp running
  rw [turned, List.getElem?_set] at there
  split at there
  · rename_i here
    subst here
    split at there
    · cases there
      exact isRunning_iff.mpr ⟨loop, found, working, asked⟩
    · cases there
  · exact isRunning_iff.mpr ⟨other, there, moving, asked⟩

theorem isCancelled_cancelLoop (inside : number < sync.loops.length) :
    (sync.cancelLoop number).IsCancelled number :=
  ⟨{ sync.loops[number] with cancelled := true },
    by simp [cancelLoop, inside], rfl⟩

theorem isWatching_of_start {hasRuntime : Bool}
    (started : sync.start hasRuntime = .ok next) : sync.isWatching = false := by
  unfold start at started
  split at started
  · cases started
  · split at started
    · cases started
    · rename_i idle
      simpa using idle

end Synchronizer

namespace Custody

variable {V S W : Type} [FlagValue V] [KeyValueStore S W]

omit [FlagValue V] [KeyValueStore S W] in
/-- The loops stand in line, and each that goes on unasked is the one that the
synchronizer has both holds on, unless the wait for it was given up. -/
structure Sound (custody : Custody V S W) : Prop where
  lined : custody.sync.IsLined custody.held custody.abandoned
  ready : custody.sync.loops ≠ [] → custody.sync.initialized = true
  single : custody.sync.task = none ∨ custody.awaited = none
  agreed : ∀ task cancel, custody.sync.task = some task →
    custody.sync.cancel = some cancel → cancel = task
  known : ∀ number ∈ custody.abandoned, number < custody.sync.loops.length
  owned : ∀ number, custody.held = some number → number ∉ custody.abandoned
  followed : ∀ number, custody.sync.isRunning number = true →
    number ∈ custody.abandoned ∨
      custody.sync.cancel = some number ∧ custody.held = some number

namespace Sound

variable {custody : Custody V S W}

omit [FlagValue V] [KeyValueStore S W] in
theorem fresh (config : Config) (world : World V S) :
    (fresh config world : Custody V S W).Sound where
  lined := .created config
  ready := fun any => absurd rfl any
  single := .inl rfl
  agreed := nofun
  known := nofun
  owned := nofun
  followed := nofun

omit [FlagValue V] [KeyValueStore S W] in
/-- A loop that is neither over nor asked to stop is watched while nothing is
waited for, unless the wait for it was given up. -/
theorem watched (sound : custody.Sound) (idle : custody.awaited = none)
    {number : Nat} (running : custody.sync.isRunning number = true)
    (kept : number ∉ custody.abandoned) :
    custody.sync.isWatching = true ∧ custody.sync.cancel = some number := by
  obtain ⟨cancel, held⟩ := (sound.followed number running).resolve_left kept
  have task : custody.sync.task = some number := by
    simpa [Custody.held, idle] using held
  refine ⟨?_, cancel⟩
  simp [Synchronizer.isWatching, cancel, task,
    Synchronizer.isFinished_of_isRunning running]

omit [FlagValue V] [KeyValueStore S W] in
/-- What others do to the world does not matter. -/
theorem congr {other : Custody V S W} (sound : custody.Sound)
    (sync : other.sync = custody.sync)
    (awaited : other.awaited = custody.awaited)
    (abandoned : other.abandoned = custody.abandoned) : other.Sound := by
  have held : other.held = custody.held := by
    simp [Custody.held, sync, awaited]
  constructor
  · simpa only [sync, held, abandoned] using sound.lined
  · simpa only [sync] using sound.ready
  · simpa only [sync, awaited] using sound.single
  · simpa only [sync] using sound.agreed
  · simpa only [sync, abandoned] using sound.known
  · simpa only [held, abandoned] using sound.owned
  · simpa only [sync, held, abandoned] using sound.followed

omit [FlagValue V] [KeyValueStore S W] in
/-- The loop that the synchronizer could stop is asked to stop. -/
theorem cancelled (sound : custody.Sound) {number : Nat}
    (latest : custody.sync.cancel = some number) :
    ({ custody with sync := custody.sync.cancelLoop number } :
      Custody V S W).Sound := by
  have length := Synchronizer.length_cancelLoop custody.sync number
  constructor
  · exact sound.lined.of_same_phases
      (Synchronizer.phase?_cancelLoop custody.sync number) length
  · intro any
    apply sound.ready
    rintro none
    simp [Synchronizer.cancelLoop, none] at any
  · exact sound.single
  · intro task cancel _ active
    cases active
  · simpa only [length] using sound.known
  · exact sound.owned
  · intro other running
    obtain ⟨different, before⟩ := Synchronizer.isRunning_cancelLoop running
    rcases sound.followed other before with lost | ⟨cancel, _⟩
    · exact .inl lost
    · exact absurd (Option.some.inj (latest.symm.trans cancel)) different

theorem load (sound : custody.Sound) : (custody.called .load).Sound := by
  have same : ∃ initialized cursor,
      (custody.sync.initialized = true → initialized = true) ∧
        (custody.called .load).sync =
          { custody.sync with initialized, cursor } := by
    rcases (custody.sync.loadInitially_cases custody.world).2 with
      same | ⟨index, loaded⟩
    · exact ⟨_, _, id, same⟩
    · exact ⟨_, _, fun _ => rfl, loaded⟩
  obtain ⟨initialized, cursor, kept, after⟩ := same
  have loaded : ({ custody with
      sync := { custody.sync with initialized, cursor } } :
        Custody V S W).Sound :=
    ⟨sound.lined.of_same_phases rfl rfl, fun any => kept (sound.ready any),
      sound.single, sound.agreed, sound.known, sound.owned, sound.followed⟩
  exact loaded.congr after rfl rfl

theorem start (sound : custody.Sound) (idle : custody.awaited = none)
    (hasRuntime : Bool) : (custody.called (.start hasRuntime)).Sound := by
  cases started : custody.sync.start hasRuntime with
  | error error => simpa [called, started] using sound
  | ok next =>
      have idleBefore := Synchronizer.isWatching_of_start started
      have running : ∀ number, next.isRunning number = true →
          number = custody.sync.loops.length ∨
            custody.sync.isRunning number = true := fun _ =>
        Synchronizer.isRunning_start started
      have heldBefore : custody.held = custody.sync.task := by
        simp [held, idle]
      have lined := sound.lined
      rw [heldBefore] at lined
      have standing := lined.start started
      obtain ⟨initialized, rfl⟩ := Synchronizer.start_eq_ok started
      simp only [called, started]
      constructor
      · exact standing
      · exact fun _ => initialized
      · exact .inr idle
      · intro task cancel active latest
        exact Option.some.inj (latest.symm.trans active)
      · intro number member
        have before := sound.known number member
        simp
        omega
      · intro number latest member
        have before := sound.known number member
        obtain rfl : custody.sync.loops.length = number :=
          Option.some.inj latest
        exact absurd before (Nat.lt_irrefl _)
      · intro number working
        rcases running number working with rfl | before
        · exact .inr ⟨rfl, rfl⟩
        · -- A loop that runs on would have been watched, and kept the new one
          -- out.
          left
          by_contra kept
          have watching := (sound.watched idle before kept).1
          simp [idleBefore] at watching

theorem stop (sound : custody.Sound) (idle : custody.awaited = none) :
    (custody.called .stop).Sound := by
  simp only [called, Synchronizer.stop]
  split
  · rename_i number watching latest
    exact (sound.cancelled latest).congr rfl rfl rfl
  · rename_i unwatched
    constructor
    · exact sound.lined.of_same_phases rfl rfl
    · exact sound.ready
    · exact sound.single
    · intro task cancel _ active
      cases active
    · exact sound.known
    · exact sound.owned
    · -- The cancellation that is thrown away was of no loop that is still held.
      intro number running
      left
      by_contra kept
      obtain ⟨watching, latest⟩ := sound.watched idle running kept
      exact unwatched number watching latest

theorem release (sound : custody.Sound) :
    (custody.called .release).Sound := by
  simp only [called, Synchronizer.release]
  split
  · rename_i number latest
    exact (sound.cancelled latest).congr rfl rfl rfl
  · exact sound.congr rfl rfl rfl

/-- Beginning to wait moves the hold on a loop. -/
theorem wait (sound : custody.Sound) (idle : custody.awaited = none) :
    (custody.called .wait).Sound := by
  have held : (custody.called .wait).held = custody.held := by
    simp [Custody.held, called, Synchronizer.detachTask, idle]
  constructor
  · rw [held]
    exact sound.lined.of_same_phases rfl rfl
  · exact sound.ready
  · exact .inl rfl
  · intro task cancel active
    cases active
  · exact sound.known
  · rw [held]
    exact sound.owned
  · rw [held]
    exact sound.followed

omit [FlagValue V] [KeyValueStore S W] in
theorem finish (sound : custody.Sound)
    (complete : custody.awaited.all custody.sync.isFinished = true) :
    ({ custody with awaited := none } : Custody V S W).Sound := by
  cases waiting : custody.awaited with
  | none => exact sound.congr rfl waiting.symm rfl
  | some latest =>
      have task : custody.sync.task = none := by
        simpa [waiting] using sound.single
      have held : custody.held = some latest := by
        simp [Custody.held, task, waiting]
      have ended : custody.sync.isFinished latest = true := by
        simpa [waiting] using complete
      have loosed : ({ custody with awaited := none } :
          Custody V S W).held = none := by
        simp [Custody.held, task]
      constructor
      · rw [loosed]
        exact sound.lined.finish (by simpa [held] using ended)
      · exact sound.ready
      · exact .inr rfl
      · exact sound.agreed
      · exact sound.known
      · simp [loosed]
      · intro number running
        left
        rcases sound.followed number running with lost | ⟨_, same⟩
        · exact lost
        · obtain rfl := Option.some.inj (held.symm.trans same)
          have working := Synchronizer.isFinished_of_isRunning running
          simp [ended] at working

omit [FlagValue V] [KeyValueStore S W] in
/-- A wait that is given up loses the hold on its loop. -/
theorem abandon (sound : custody.Sound) :
    ({ custody with
      awaited := none
      abandoned := custody.awaited.toList ++ custody.abandoned } :
        Custody V S W).Sound := by
  cases waiting : custody.awaited with
  | none => exact sound.congr rfl waiting.symm rfl
  | some latest =>
      have task : custody.sync.task = none := by
        simpa [waiting] using sound.single
      have held : custody.held = some latest := by
        simp [Custody.held, task, waiting]
      have lined := sound.lined
      rw [held] at lined
      have last := lined.latest latest rfl
      constructor
      · simpa [Custody.held, task] using lined.lose
      · exact sound.ready
      · exact .inr rfl
      · exact sound.agreed
      · intro number member
        rcases List.mem_cons.mp member with rfl | before
        · change number < custody.sync.loops.length
          omega
        · exact sound.known number before
      · simp [Custody.held, task]
      · intro number running
        left
        rcases sound.followed number running with lost | ⟨_, same⟩
        · exact List.mem_cons_of_mem _ lost
        · obtain rfl := Option.some.inj (held.symm.trans same)
          exact List.mem_cons_self

theorem loop (sound : custody.Sound) (number draw : Nat) :
    (custody.step (.loop number draw)).Sound := by
  cases stepped : custody.sync.stepLoop? draw number custody.world with
  | none => simpa [Custody.step, stepped] using sound
  | some next =>
      obtain ⟨loop, turn, found, turned, same, _⟩ :=
        Synchronizer.stepLoop?_eq_some.mp stepped
      have working := (WatchLoop.step?_begins turned).1
      have length : (custody.sync.turned number loop turn).loops.length =
          custody.sync.loops.length := List.length_set
      have moved : ({ custody with
          sync := custody.sync.turned number loop turn } :
            Custody V S W).Sound := by
        constructor
        · exact sound.lined.turn found turned
        · intro any
          apply sound.ready
          rintro none
          simp [none] at found
        · exact sound.single
        · exact sound.agreed
        · simpa only [length] using sound.known
        · exact sound.owned
        · intro other running
          exact sound.followed other
            (Synchronizer.isRunning_turned found working running)
      simp only [Custody.step, stepped]
      exact moved.congr same rfl rfl

theorem step (sound : custody.Sound) (move : Move V S) :
    (custody.step move).Sound := by
  cases move with
  | call call =>
      by_cases free : custody.awaited = none ∧ custody.released = false
      · have after : custody.step (.call call) = custody.called call :=
          if_pos free
        rw [after]
        cases call with
        | load => exact sound.load
        | start hasRuntime => exact sound.start free.1 hasRuntime
        | stop => exact sound.stop free.1
        | wait => exact sound.wait free.1
        | release => exact sound.release
      · have after : custody.step (.call call) = custody := if_neg free
        rwa [after]
  | finish =>
      simp only [Custody.step]
      split
      · rename_i complete
        exact sound.finish complete
      · exact sound
  | abandon =>
      simp only [Custody.step]
      split
      · rename_i complete
        exact sound.finish complete
      · exact sound.abandon
  | loop number draw => exact sound.loop number draw
  | others world => exact sound.congr rfl rfl rfl

theorem run (sound : custody.Sound) (moves : List (Move V S)) :
    (custody.run moves).Sound := by
  induction moves generalizing custody with
  | nil => exact sound
  | cons move later induction => exact induction (sound.step move)

end Sound

/-- What the holder of a synchronizer can do about a loop: see that it is there,
not start another one beside it, and ask it to stop. -/
structure IsWatched (custody : Custody V S W) (number : Nat) : Prop where
  watching : custody.sync.isWatching = true
  alone : ∀ hasRuntime,
    custody.sync.start hasRuntime = .error .alreadyWatching
  stops : (custody.sync.stop custody.world).1 = .done ∧
    (custody.sync.stop custody.world).2.1.IsCancelled number
  releases : (custody.sync.release custody.world).1.IsCancelled number

section Holding

variable {custody : Custody V S W} {number : Nat}

omit [FlagValue V] [KeyValueStore S W] in
theorem Sound.isWatched (sound : custody.Sound) (idle : custody.awaited = none)
    (running : custody.sync.isRunning number = true)
    (kept : number ∉ custody.abandoned) : custody.IsWatched number := by
  obtain ⟨watching, cancel⟩ := sound.watched idle running kept
  obtain ⟨loop, found, _⟩ := Synchronizer.isRunning_iff.mp running
  have inside : number < custody.sync.loops.length :=
    (List.getElem?_eq_some_iff.mp found).1
  have initialized : custody.sync.initialized = true := by
    apply sound.ready
    rintro none
    simp [none] at inside
  have cancelled := Synchronizer.isCancelled_cancelLoop inside
  constructor
  · exact watching
  · intro hasRuntime
    simp [Synchronizer.start, initialized, watching]
  · simpa [Synchronizer.stop, watching, cancel] using cancelled
  · simpa [Synchronizer.release, cancel] using cancelled

omit [FlagValue V] [KeyValueStore S W] in
/-- A loop that the wait was given up for is out of reach. -/
theorem Sound.not_isWatched (sound : custody.Sound)
    (running : custody.sync.isRunning number = true)
    (lost : number ∈ custody.abandoned) : ¬ custody.IsWatched number := by
  intro watched
  obtain ⟨loop, found, _, unasked⟩ := Synchronizer.isRunning_iff.mp running
  rcases Synchronizer.IsCancelled.of_stop watched.stops.2 with
    ⟨other, there, asked⟩ | ⟨watching, cancel⟩
  · obtain rfl := Option.some.inj (found.symm.trans there)
    simp [unasked] at asked
  · simp only [Synchronizer.isWatching, Bool.and_eq_true,
      Option.any_eq_true] at watching
    obtain ⟨_, task, active, _⟩ := watching
    obtain rfl := sound.agreed task number active cancel
    exact sound.owned number (by simp [Custody.held, active]) lost

theorem abandoned_called (custody : Custody V S W) (call : Call) :
    (custody.called call).abandoned = custody.abandoned := by
  cases call with
  | start hasRuntime =>
      simp only [called]
      split <;> rfl
  | _ => rfl

/-- A hold is lost only when a wait is given up. -/
theorem abandoned_step {move : Move V S} (other : move ≠ .abandon) :
    (custody.step move).abandoned = custody.abandoned := by
  cases move with
  | call call =>
      simp only [step]
      split
      · exact custody.abandoned_called call
      · rfl
  | finish =>
      simp only [step]
      split <;> rfl
  | abandon => exact absurd rfl other
  | loop number draw =>
      simp only [step]
      split <;> rfl
  | others world => rfl

theorem abandoned_run {moves : List (Move V S)} (waited : .abandon ∉ moves) :
    (custody.run moves).abandoned = custody.abandoned := by
  induction moves generalizing custody with
  | nil => rfl
  | cons move later induction =>
      obtain ⟨other, rest⟩ := List.ne_and_not_mem_of_not_mem_cons waited
      exact (induction rest).trans (abandoned_step other.symm)

end Holding

/-- Two loops are at work together only if the wait for the earlier one or for
one between them was given up, and while nothing is waited for, a loop that is
neither over nor asked to stop is watched just if the wait for it was not given
up.  In a run in which all waits return neither happens. -/
theorem one_loop_unless_abandoned (config : Config) (world : World V S)
    (moves : List (Move V S)) :
    let custody : Custody V S W := (fresh config world).run moves
    (∀ left right leftPhase rightPhase, left < right →
      custody.sync.phase? left = some leftPhase →
      leftPhase.isDormant = false →
      custody.sync.phase? right = some rightPhase →
      rightPhase.isDormant = false →
        ∃ number ∈ custody.abandoned, left ≤ number ∧ number < right) ∧
    (custody.awaited = none → ∀ number,
      custody.sync.isRunning number = true →
        (number ∉ custody.abandoned ↔ custody.IsWatched number)) ∧
    (.abandon ∉ moves → custody.abandoned = []) := by
  intro custody
  have sound : custody.Sound := (Sound.fresh config world).run moves
  refine ⟨?_, ?_, ?_⟩
  · intro left right leftPhase rightPhase before leftFound leftBusy rightFound
      rightBusy
    exact sound.lined.lost_between before leftFound leftBusy rightFound
      rightBusy
  · intro idle number running
    constructor
    · exact sound.isWatched idle running
    · intro watched lost
      exact sound.not_isWatched running lost watched
  · exact abandoned_run

/-- A run in which the wait for a loop is given up and another loop is started
beside it. -/
def deserting : List (Move Setting MemoryStore) :=
  [.call .load, .call (.start true), .loop 0 0, .loop 0 0, .call .wait,
    .abandon, .call (.start true), .loop 1 0, .loop 1 0]

/-- The loop that was waited for in vain is running although the synchronizer
says that it watches nothing, and then a second loop is at work beside it. -/
theorem deserting_orphans :
    let start : Custody Setting MemoryStore MemoryWatch :=
      fresh { directory := "/c" } (World.switch 4)
    let deserted := start.run (deserting.take 6)
    let crowded := start.run deserting
    (deserted.awaited = none ∧ deserted.sync.isRunning 0 = true ∧
        deserted.sync.isWatching = false) ∧
      (crowded.sync.phase? 0).map Phase.isDormant = some false ∧
        (crowded.sync.phase? 1).map Phase.isDormant = some false := by
  decide +kernel

/-- Of the two loops only the second is watched. -/
theorem deserting_watches :
    let custody : Custody Setting MemoryStore MemoryWatch :=
      (fresh { directory := "/c" } (World.switch 4)).run deserting
    (∃ number ∈ custody.abandoned, 0 ≤ number ∧ number < 1) ∧
      custody.IsWatched 1 ∧ ¬ custody.IsWatched 0 := by
  intro custody
  obtain ⟨together, watched, _⟩ := one_loop_unless_abandoned
    { directory := "/c" } (World.switch 4) deserting
  have idle : custody.awaited = none := by decide +kernel
  have lost : custody.abandoned = [0] := by decide +kernel
  have left : (custody.sync.phase? 0).map Phase.isDormant = some false := by
    decide +kernel
  have right : (custody.sync.phase? 1).map Phase.isDormant = some false := by
    decide +kernel
  have first : custody.sync.isRunning 0 = true := by decide +kernel
  have second : custody.sync.isRunning 1 = true := by decide +kernel
  obtain ⟨leftPhase, leftFound, leftBusy⟩ := Option.map_eq_some_iff.mp left
  obtain ⟨rightPhase, rightFound, rightBusy⟩ := Option.map_eq_some_iff.mp right
  refine ⟨together 0 1 leftPhase rightPhase (by decide) leftFound leftBusy
    rightFound rightBusy, (watched idle 1 second).mp ?_, ?_⟩
  · change 1 ∉ custody.abandoned
    simp [lost]
  · intro reached
    have kept : 0 ∉ custody.abandoned := (watched idle 0 first).mpr reached
    simp [lost] at kept

end Custody

end LiveFlags
