import LiveFlags.Proofs.Sync.Client
import LiveFlags.Proofs.Sync.Frozen

/-!
# Stopping a loop and waiting for its end

A loop that is asked to stop finishes what it does to a change and what it reads
again, takes nothing more from its watch and cuts a pause short if its turn
comes before the pause is over.  From then on its turns follow a short path
through its phases that depends neither on the store nor on what happens in
between.  Loops stand in line, so a wait for the latest one covers all of them,
and nothing is left to be done when it returns.
-/

namespace LiveFlags

/-! ### What is asked of a store -/

/-- What a loop asks of a store. -/
inductive Request where
  | read
  | watch
  /-- The next item of a watch. -/
  | next
  | write (command : WriteCommand)
deriving DecidableEq

def Exchange.request {W : Type} : Exchange W → Request
  | watch .. => .watch
  | next .. => .next
  | write command _ => .write command

namespace World

variable {V S W : Type}

/-- The reads in a journal. -/
def reads (world : World V S) : List Request :=
  world.journal.filterMap fun entry => match entry.2 with
    | .read .. => some .read
    | _ => none

@[simp] theorem reads_tell (world : World V S) (notice : Notice) :
    (world.tell notice).reads = world.reads := by
  simp [reads, tell, enter]

@[simp] theorem reads_tellAll (world : World V S) (notices : List Notice) :
    (world.tellAll notices).reads = world.reads := by
  induction notices generalizing world with
  | nil => rfl
  | cons notice later induction =>
      exact (induction (world.tell notice)).trans (world.reads_tell notice)

theorem reads_load [FlagValue V] [KeyValueStore S W] (world : World V S)
    (directory : String) (onlyDynamic : Bool) :
    (world.load directory onlyDynamic).2.reads = world.reads ++ [.read] := by
  have entered : (world.enter (.read directory .everything)).reads =
      world.reads ++ [.read] := by simp [reads, enter]
  rw [load, read]
  cases KeyValueStore.get world.store directory .everything with
  | error error => exact entered
  | ok snapshot =>
      dsimp only
      split <;> exact (reads_tellAll _ _).trans entered

/-- What was asked of a store between two times.  Only exchanges are in the
transcript of the store, and only reads in that of the journal. -/
def asked (before after : World V (Transcribed S W)) : List Request :=
  after.reads.drop before.reads.length ++
    (after.store.exchanges.drop before.store.exchanges.length).map
      Exchange.request

theorem asked_eq {before after : World V (Transcribed S W)}
    {reads : List Request} {exchanges : List (Exchange W)}
    (read : after.reads = before.reads ++ reads)
    (exchanged : after.store.exchanges =
      before.store.exchanges ++ exchanges) :
    asked before after = reads ++ exchanges.map Exchange.request := by
  rw [asked, read, exchanged, List.drop_left, List.drop_left]

theorem asked_eq_nil {before after : World V (Transcribed S W)}
    (read : after.reads = before.reads)
    (store : after.store = before.store) : asked before after = [] := by
  have unread : after.reads = before.reads ++ [] := by
    rw [read, List.append_nil]
  have silent : after.store.exchanges = before.store.exchanges ++ [] := by
    rw [store, List.append_nil]
  exact asked_eq unread silent

end World

/-! ### The end of a loop -/

namespace Phase

variable {W : Type} {phase later last : Phase W} {asked more : List Request}

/-- What a loop that was asked to stop does in a turn. -/
inductive Ends : Phase W → List Request → Phase W → Prop
  | begins (predecessor : Option Nat) : Ends (.queued predecessor) [] .opening
  | opens (watch : W) : Ends .opening [.watch] (.streaming watch)
  | leaves (watch : W) : Ends (.streaming watch) [] .exited
  | wakes (state : WatchState) (deadline : Nat) (watch : W) :
      Ends (.pausing state deadline watch) [] .exited
  | resumes (state : WatchState) (deadline : Nat) (watch : W) :
      Ends (.pausing state deadline watch) [] (WatchLoop.resumed watch state)
  | undoes (flag : String) (event : ChangeEvent) (watch : W) :
      Ends (.undoing flag event watch) [.write event.undo] (.streaming watch)
  | rereads (watch : W) : Ends (.rereading watch) [.read] .opening
  | crashes (watch : W) (detail : String) :
      Ends (.rereading watch) [.read] (.crashed detail)

/-- What it does in several turns. -/
inductive Winds : Phase W → List Request → Phase W → Prop
  | rest (phase : Phase W) : Winds phase [] phase
  | turn {phase later last : Phase W} {asked more : List Request}
      (ends : Ends phase asked later) (winds : Winds later more last) :
      Winds phase (asked ++ more) last

/-- What a loop may still ask of the store after it was asked to stop.  A pause
may be over before the loop has its turn. -/
def remainder : Phase W → List Request
  | queued _ | opening | pausing .backoffGeneric .. => [.watch]
  | undoing _ event _ => [.write event.undo]
  | rereading _ | pausing .recovering .. => [.read, .watch]
  | _ => []

theorem Ends.remainder (ends : Ends phase asked later) :
    asked ++ later.remainder <+: phase.remainder := by
  cases ends with
  | crashes watch detail => exact ⟨[.watch], rfl⟩
  | wakes state deadline watch => exact List.nil_prefix
  | resumes state deadline watch => cases state <;> exact List.prefix_rfl
  | _ => exact List.prefix_rfl

theorem Winds.remainder (winds : Winds phase asked last) :
    asked ++ last.remainder <+: phase.remainder := by
  induction winds with
  | rest phase => exact List.prefix_rfl
  | turn ends winds induction =>
      rw [List.append_assoc]
      exact ((List.prefix_append_right_inj _).mpr induction).trans
        ends.remainder

theorem Winds.trans (first : Winds phase asked later)
    (second : Winds later more last) : Winds phase (asked ++ more) last := by
  induction first with
  | rest phase => exact second
  | turn ends _ induction =>
      rw [List.append_assoc]
      exact .turn ends (induction second)

end Phase

namespace WatchLoop

variable {V S W : Type} [FlagValue V] [KeyValueStore S W]
variable {config : Config} {draw cursor : Nat} {finished : Nat → Bool}
variable {loop : WatchLoop W} {world : World V (Transcribed S W)}
variable {turn : Turn V (Transcribed S W) W}

/-- What a loop does in a turn after it was asked to stop, whatever the store
does. -/
theorem Steps.ends (steps : loop.Steps config draw finished cursor world turn)
    (cancelled : loop.cancelled = true) :
    loop.phase.Ends (World.asked world turn.world) turn.phase := by
  cases steps with
  | begins predecessor queued =>
      rw [queued, World.asked_eq_nil (World.reads_tell ..) rfl]
      exact .begins predecessor
  | opens opening watch later opened =>
      have entered : later = (world.openWatch config.normalized
        ⟨cursor, true⟩).2 := by rw [opened]
      have read : later.reads = world.reads ++ [] := by
        rw [entered]
        simp [World.openWatch, World.reads, World.enter]
      have exchanged : later.store.exchanges = world.store.exchanges ++
          [.watch config.normalized ⟨cursor, true⟩ watch] := by
        cases opened
        rfl
      rw [opening, World.asked_eq read exchanged]
      exact .opens watch
  | stops watch attending =>
      have silent : World.asked world (Turn.exit (W := W) cursor world).world =
          [] := World.asked_eq_nil (World.reads_tell ..) rfl
      rw [silent]
      rcases attending with streaming | ⟨state, deadline, pausing⟩
      · rw [streaming]
        exact .leaves watch
      · rw [pausing]
        exact .wakes state deadline watch
  | receives watch streaming running => simp [cancelled] at running
  | undoes flag event watch undoing answer later written =>
      have entered : later = (world.write event.undo).2 := by rw [written]
      have read : (later.tell ((RollbackOutcome.ofAnswer event answer).notice
          flag)).reads = world.reads ++ [] := by
        rw [World.reads_tell, entered]
        simp [World.write, World.reads, World.enter]
      have exchanged : later.store.exchanges = world.store.exchanges ++
          [.write event.undo answer] := by
        cases written
        rfl
      rw [undoing, World.asked_eq read exchanged]
      exact .undoes flag event watch
  | resumes state deadline watch pausing =>
      rw [pausing, World.asked_eq_nil rfl rfl]
      exact .resumes state deadline watch
  | rereads watch rereading =>
      have read : (Turn.reread config.normalized cursor world).world.reads =
          world.reads ++ [.read] := by
        rw [Turn.reread_world, World.reads_tellAll, World.reads_load]
      have silent : (Turn.reread config.normalized cursor
          world).world.store.exchanges = world.store.exchanges ++ [] := by
        rw [Turn.reread_store, List.append_nil]
      rw [rereading, World.asked_eq read silent]
      unfold Turn.reread
      split
      · exact .rereads watch
      · exact .rereads watch
      · exact .crashes watch _

end WatchLoop

namespace Synchronizer

variable {W : Type} {sync next : Synchronizer W} {number : Nat}
variable {loop : WatchLoop W}

end Synchronizer

namespace Custody

section Winding

variable {V S W : Type} [FlagValue V] [KeyValueStore S W]

/-- What a loop asks of the store in a move. -/
def requested (custody : Custody V (Transcribed S W) W) (number : Nat)
    (move : Move V (Transcribed S W)) : List Request :=
  match move with
  | .loop turning _ =>
      if turning = number then custody.world.asked (custody.step move).world
      else []
  | _ => []

variable {custody : Custody V (Transcribed S W) W} {number : Nat}
variable {loop : WatchLoop W}

end Winding

section Resting

variable {V S W : Type} {before after : Custody V S W}

/-- What a move left as it was: the cursor, the flags and the store. -/
structure Rests (before after : Custody V S W) : Prop where
  cursor : after.sync.cursor = before.sync.cursor
  flags : after.world.flags = before.world.flags
  store : after.world.store = before.world.store

theorem Rests.refl (custody : Custody V S W) : Rests custody custody :=
  ⟨rfl, rfl, rfl⟩

variable [FlagValue V] [KeyValueStore S W] {custody : Custody V S W}

omit [FlagValue V] [KeyValueStore S W] in
/-- When nothing is held or lost, all loops are over. -/
theorem Sound.isFinished (sound : custody.Sound)
    (untasked : custody.sync.task = none) (idle : custody.awaited = none)
    (kept : custody.abandoned = []) (number : Nat) :
    custody.sync.isFinished number = true := by
  rcases Nat.lt_or_ge number custody.sync.loops.length with inside | outside
  · have loose : custody.held = none := by simp [held, untasked, idle]
    have past := sound.lined.loose loose number inside
    rwa [kept, Synchronizer.isPast_nil] at past
  · exact Synchronizer.isFinished_of_length_le outside

/-- Whether a call of stop would reach a loop. -/
structure Stops (custody : Custody V S W) (number : Nat) : Prop where
  idle : custody.awaited = none
  owned : custody.released = false
  watching : custody.sync.isWatching = true
  latest : custody.sync.cancel = some number

theorem Sound.stopped {number : Nat} (sound : custody.Sound)
    (stops : custody.Stops number) :
    ∃ loop, custody.sync.loops[number]? = some loop ∧
      (custody.step (.call .stop)).sync.loops[number]? =
        some { loop with cancelled := true } := by
  have watching := stops.watching
  simp only [Synchronizer.isWatching, Bool.and_eq_true,
    Option.any_eq_true] at watching
  obtain ⟨_, task, active, working⟩ := watching
  obtain rfl := sound.agreed task number active stops.latest
  have inside : number < custody.sync.loops.length := by
    by_contra outside
    rw [Synchronizer.isFinished_of_length_le (by omega)] at working
    cases working
  have after : (custody.step (.call .stop)).sync =
      custody.sync.cancelLoop number := by
    simp [Custody.step, stops.idle, stops.owned, called, Synchronizer.stop,
      stops.watching, stops.latest]
  refine ⟨custody.sync.loops[number], List.getElem?_eq_getElem inside, ?_⟩
  rw [after]
  simp [Synchronizer.cancelLoop, inside]

end Resting

section Main

variable {V S W : Type} [FlagValue V] [KeyValueStore S W]

end Main

/-- Two flags and a store that keeps a transcript. -/
def overheard : World Ledger (Transcribed ScriptedStore Nat) :=
  { flags := twins.flags, store := { store := twins.store } }

/-- A run up to the pause before a recovery. -/
def interrupted : List (Move Ledger (Transcribed ScriptedStore Nat)) :=
  let opening : List (Move Ledger (Transcribed ScriptedStore Nat)) :=
    [.call .load, .call (.start true), .loop 0 0, .loop 0 0]
  let watching := (fresh { directory := "/c" } overheard).run opening
  let store := watching.world.store.store.push (.error (.compacted 3 9))
  opening ++ [.others { watching.world with store := { store } }, .loop 0 0]

end Custody

end LiveFlags
