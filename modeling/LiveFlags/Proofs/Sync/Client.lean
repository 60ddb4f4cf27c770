import LiveFlags.Proofs.Store.Watch
import LiveFlags.Proofs.Sync.Lifecycle

/-!
# A synchronizer in front of any store

What holds of a synchronizer whatever its store does is read off the transcript
of what it exchanged with the store: the watches it opened, what it took from
them, and what it wrote.  Between its steps others change the store and the
flags as they like.  At any time at most one loop exchanges anything.
-/

namespace LiveFlags

/-- What was asked of a store that may change it, and what the answer was. -/
inductive Exchange (W : Type) where
  | watch (path : String) (options : WatchOptions) (opened : W)
  | next (watch : W) (arrival : Arrival) (left : W)
  | write (command : WriteCommand) (answer : Except StoreError Nat)

namespace Exchange

variable {W : Type}

def event? : Exchange W → Option ChangeEvent
  | next _ arrival _ => arrival.event?
  | _ => none

def command? : Exchange W → Option WriteCommand
  | write command _ => some command
  | _ => none

end Exchange

/-- A store and the transcript of what was exchanged with it.  Reads do not
change a store, so they are not in it. -/
structure Transcribed (S W : Type) where
  store : S
  exchanges : List (Exchange W) := []

namespace Transcribed

variable {S W : Type} [KeyValueStore S W]

instance : KeyValueStore (Transcribed S W) W where
  get transcribed path options :=
    KeyValueStore.get transcribed.store path options
  watch transcribed path options :=
    let (opened, store) := KeyValueStore.watch transcribed.store path options
    (opened, ⟨store, transcribed.exchanges ++ [.watch path options opened]⟩)
  ready transcribed watch := KeyValueStore.ready transcribed.store watch
  supply transcribed watch := KeyValueStore.supply transcribed.store watch
  next transcribed watch :=
    let (arrival, left, store) := KeyValueStore.next transcribed.store watch
    (arrival, left,
      ⟨store, transcribed.exchanges ++ [.next watch arrival left]⟩)
  write transcribed command :=
    let (answer, store) := KeyValueStore.write transcribed.store command
    (answer, ⟨store, transcribed.exchanges ++ [.write command answer]⟩)

end Transcribed

/-- A synchronizer and its world, with any store. -/
structure Client (V S W : Type) where
  sync : Synchronizer W
  world : World V (Transcribed S W)

namespace Client

/-- What happens next in a run. -/
inductive Move (V S : Type) where
  /-- Others change the store. -/
  | store (change : S → S)
  /-- Others register or set flags. -/
  | equip (change : FlagSet V → FlagSet V)
  | pass (milliseconds : Nat)
  | load
  | start (hasRuntime : Bool)
  | stop
  /-- The latest loop is waited for until it is over. -/
  | join
  | loop (number draw : Nat)

/-- What others do to the store in a move. -/
def Move.changed {V S : Type} : Move V S → S → S
  | .store change => change
  | _ => id

def Move.equipped {V S : Type} : Move V S → FlagSet V → FlagSet V
  | .equip change => change
  | _ => id

variable {V S W : Type} [FlagValue V] [KeyValueStore S W]

/-- The client after a move; a move that is not possible changes nothing. -/
def step (client : Client V S W) : Move V S → Client V S W
  | .store change =>
      let store : Transcribed S W :=
        { client.world.store with store := change client.world.store.store }
      { client with world := { client.world with store } }
  | .equip change =>
      { client with world :=
          { client.world with flags := change client.world.flags } }
  | .pass milliseconds =>
      { client with world :=
          { client.world with time := client.world.time + milliseconds } }
  | .load =>
      let (_, sync, world) := client.sync.loadInitially client.world
      ⟨sync, world⟩
  | .start hasRuntime =>
      match client.sync.start hasRuntime with
      | .ok sync => { client with sync }
      | .error _ => client
  | .stop =>
      let (_, sync, world) := client.sync.stop client.world
      ⟨sync, world⟩
  | .join =>
      if client.sync.task.all client.sync.isFinished then
        { client with sync := client.sync.detachTask }
      else client
  | .loop number draw =>
      match client.sync.stepLoop? draw number client.world with
      | some (sync, world) => ⟨sync, world⟩
      | none => client

def run (client : Client V S W) (moves : List (Move V S)) : Client V S W :=
  moves.foldl step client

omit [FlagValue V] [KeyValueStore S W] in
/-- A new synchronizer in a world whose store starts a new transcript. -/
def fresh (config : Config) (world : World V S) : Client V S W :=
  ⟨{ config }, { world with store := { store := world.store } }⟩

omit [FlagValue V] [KeyValueStore S W] in
/-- The directory that a client keeps in step. -/
def directory (client : Client V S W) : String := client.sync.directory

/-- What is exchanged with the store in a move. -/
def heard (client : Client V S W) (move : Move V S) : List (Exchange W) :=
  (client.step move).world.store.exchanges.drop
    client.world.store.exchanges.length

/-- What is observed at each move of a run, in order. -/
def along {α : Type} (observe : Client V S W → Move V S → List α)
    (client : Client V S W) : List (Move V S) → List α
  | [] => []
  | move :: later =>
    observe client move ++ (client.step move).along observe later

/-- The changes that loops took from their watches in a run, each with the
flags as they were then. -/
def handled (start : Client V S W) (moves : List (Move V S)) :
    List (FlagSet V × ChangeEvent) :=
  start.along (fun client move =>
    ((client.heard move).filterMap Exchange.event?).map
      fun event => (client.world.flags, event)) moves

omit [FlagValue V] [KeyValueStore S W] in
/-- The loop that is asked to stop in a move. -/
def stopped? (client : Client V S W) : Move V S → Option Nat
  | .stop => if client.sync.isWatching then client.sync.cancel else none
  | _ => none

def stopped (start : Client V S W) (moves : List (Move V S)) : List Nat :=
  start.along (fun client move => (client.stopped? move).toList) moves

@[simp] theorem run_nil (client : Client V S W) : client.run [] = client := rfl

@[simp] theorem run_cons (client : Client V S W) (move : Move V S)
    (later : List (Move V S)) :
    client.run (move :: later) = (client.step move).run later := rfl

theorem run_append (client : Client V S W) (earlier later : List (Move V S)) :
    client.run (earlier ++ later) = (client.run earlier).run later :=
  List.foldl_append

theorem run_concat (client : Client V S W) (moves : List (Move V S))
    (move : Move V S) :
    client.run (moves ++ [move]) = (client.run moves).step move := by
  rw [run_append, run_cons, run_nil]

section Observing

variable {α : Type} (observe : Client V S W → Move V S → List α)

@[simp] theorem along_nil (client : Client V S W) :
    client.along observe [] = [] := rfl

theorem along_append (client : Client V S W)
    (earlier later : List (Move V S)) :
    client.along observe (earlier ++ later) =
      client.along observe earlier ++
        (client.run earlier).along observe later := by
  induction earlier generalizing client with
  | nil => rfl
  | cons move earlier induction =>
      rw [List.cons_append, along, along, induction, List.append_assoc]
      rfl

theorem along_concat (client : Client V S W) (moves : List (Move V S))
    (move : Move V S) :
    client.along observe (moves ++ [move]) =
      client.along observe moves ++ observe (client.run moves) move := by
  rw [along_append, along, along_nil, List.append_nil]

end Observing

inductive Kind (client : Client V S W) : Move V S → Prop
  | rests {move : Move V S}
      (same : client.sync.SameLoops (client.step move).sync)
      (exchanges : (client.step move).world.store.exchanges =
        client.world.store.exchanges)
      (store : (client.step move).world.store.store =
        move.changed client.world.store.store)
      (flags : (client.step move).world.flags =
        move.equipped client.world.flags) : Kind client move
  | loads (first : client.sync.initialized = false) : Kind client .load
  | turns (number draw : Nat) (loop : WatchLoop W)
      (turn : Turn V (Transcribed S W) W)
      (found : client.sync.loops[number]? = some loop)
      (stepped : loop.step? client.sync.config draw client.sync.isFinished
        client.sync.cursor client.world = some turn) :
      Kind client (.loop number draw)

theorem Kind.of_eq {client : Client V S W} {move : Move V S}
    (same : client.step move = client) (changed : move.changed = id)
    (equipped : move.equipped = id) : client.Kind move := by
  refine .rests ?_ ?_ ?_ ?_
  · rw [same]
    exact .refl client.sync
  · rw [same]
  · rw [same, changed]
    rfl
  · rw [same, equipped]
    rfl

theorem kind (client : Client V S W) (move : Move V S) :
    client.Kind move := by
  cases move with
  | store change => exact .rests (.refl client.sync) rfl rfl rfl
  | equip change => exact .rests (.refl client.sync) rfl rfl rfl
  | pass milliseconds => exact .rests (.refl client.sync) rfl rfl rfl
  | load =>
      cases initialized : client.sync.initialized with
      | false => exact .loads initialized
      | true =>
          refine .of_eq ?_ rfl rfl
          simp [step, Synchronizer.loadInitially, initialized]
  | start hasRuntime =>
      cases started : client.sync.start hasRuntime with
      | ok next =>
          have after : client.step (.start hasRuntime) =
              { client with sync := next } := by
            rw [step, started]
          refine .rests ?_ ?_ ?_ ?_ <;> rw [after]
          · exact .start started
          · rfl
          · rfl
      | error error =>
          refine .of_eq ?_ rfl rfl
          rw [step, started]
  | stop =>
      have same := Synchronizer.SameLoops.stop client.sync client.world
      have after : client.step .stop = ⟨(client.sync.stop client.world).2.1,
        (client.sync.stop client.world).2.2⟩ := rfl
      rcases client.sync.stop_cases client.world with
        ⟨number, stopped⟩ | stopped
      · rw [stopped] at same after
        refine .rests ?_ ?_ ?_ ?_ <;> rw [after]
        · exact same
        · rfl
        · rfl
        · rfl
      · rw [stopped] at same after
        refine .rests ?_ ?_ ?_ ?_ <;> rw [after]
        · exact same
        · rfl
        · rfl
  | join =>
      by_cases complete : client.sync.task.all client.sync.isFinished = true
      · have after : client.step .join =
            { client with sync := client.sync.detachTask } := if_pos complete
        refine .rests ?_ ?_ ?_ ?_ <;> rw [after]
        · exact .join complete
        · rfl
        · rfl
      · exact .of_eq (if_neg complete) rfl rfl
  | loop number draw =>
      cases stepped : client.sync.stepLoop? draw number client.world with
      | none =>
          refine .of_eq ?_ rfl rfl
          rw [step, stepped]
      | some next =>
          obtain ⟨loop, turn, found, turned, _, _⟩ :=
            Synchronizer.stepLoop?_eq_some.mp stepped
          exact .turns number draw loop turn found turned

theorem heard_eq {client : Client V S W} {move : Move V S}
    {heard : List (Exchange W)}
    (added : (client.step move).world.store.exchanges =
      client.world.store.exchanges ++ heard) : client.heard move = heard := by
  rw [Client.heard, added, List.drop_left]

/-- Nothing is exchanged with the store unless a loop takes a turn. -/
theorem heard_eq_nil {client : Client V S W} {move : Move V S}
    (same : (client.step move).world.store.exchanges =
      client.world.store.exchanges) : client.heard move = [] := by
  apply heard_eq
  rw [same, List.append_nil]

section Turns

variable {client : Client V S W} {number draw : Nat} {loop : WatchLoop W}
variable {turn : Turn V (Transcribed S W) W}

theorem step_turn (found : client.sync.loops[number]? = some loop)
    (stepped : loop.step? client.sync.config draw client.sync.isFinished
      client.sync.cursor client.world = some turn) :
    client.step (.loop number draw) =
      ⟨client.sync.turned number loop turn, turn.world⟩ := by
  have answer := Synchronizer.stepLoop?_eq_some.mpr
    ⟨loop, turn, found, stepped, rfl, rfl⟩
  rw [step, answer]

theorem phase?_step (found : client.sync.loops[number]? = some loop)
    (stepped : loop.step? client.sync.config draw client.sync.isFinished
      client.sync.cursor client.world = some turn) :
    (client.step (.loop number draw)).sync.phase? number =
      some turn.phase := by
  rw [step_turn found stepped, Synchronizer.phase?_turned found, if_pos rfl]

theorem phase?_step_other (found : client.sync.loops[number]? = some loop)
    (stepped : loop.step? client.sync.config draw client.sync.isFinished
      client.sync.cursor client.world = some turn) {other : Nat}
    (different : other ≠ number) :
    (client.step (.loop number draw)).sync.phase? other =
      client.sync.phase? other := by
  rw [step_turn found stepped, Synchronizer.phase?_turned found,
    if_neg different]

theorem heard_turn (found : client.sync.loops[number]? = some loop)
    (stepped : loop.step? client.sync.config draw client.sync.isFinished
      client.sync.cursor client.world = some turn)
    {heard : List (Exchange W)}
    (exchanges : turn.world.store.exchanges =
      client.world.store.exchanges ++ heard) :
    client.heard (.loop number draw) = heard := by
  apply heard_eq
  rw [step_turn found stepped]
  exact exchanges

end Turns

theorem step_load (client : Client V S W) :
    (client.step .load).world.store = client.world.store ∧
      ((client.step .load).sync = client.sync ∨
        ∃ index, (client.step .load).sync =
          { client.sync with initialized := true, cursor := index }) :=
  client.sync.loadInitially_cases client.world

theorem orderly_step {client : Client V S W}
    (orderly : client.sync.IsOrderly) (move : Move V S) :
    (client.step move).sync.IsOrderly := by
  cases client.kind move with
  | rests same exchanges => exact same.orderly orderly
  | loads first =>
      rcases client.step_load.2 with same | ⟨index, loaded⟩
      · rwa [same]
      · rw [loaded]
        exact orderly.of_same_phases rfl rfl rfl
  | turns number draw loop turn found stepped =>
      rw [step_turn found stepped]
      exact orderly.turn found stepped

theorem config_step (client : Client V S W) (move : Move V S) :
    (client.step move).sync.config = client.sync.config := by
  cases client.kind move with
  | rests same exchanges => exact same.config
  | loads first =>
      rcases client.step_load.2 with same | ⟨index, loaded⟩
      · rw [same]
      · rw [loaded]
  | turns number draw loop turn found stepped =>
      rw [step_turn found stepped]
      rfl

@[simp] theorem directory_step (client : Client V S W) (move : Move V S) :
    (client.step move).directory = client.directory :=
  congrArg Config.normalized (client.config_step move)

@[simp] theorem directory_run (client : Client V S W)
    (moves : List (Move V S)) :
    (client.run moves).directory = client.directory := by
  induction moves generalizing client with
  | nil => rfl
  | cons move later induction => rw [run_cons, induction, directory_step]

theorem orderly_run (config : Config) (world : World V S)
    (moves : List (Move V S)) :
    ((fresh config world : Client V S W).run moves).sync.IsOrderly := by
  induction moves using List.reverseRecOn with
  | nil => exact .created config
  | append_singleton moves move induction =>
      rw [run_concat]
      exact orderly_step induction move

theorem stopped_concat (start : Client V S W) (moves : List (Move V S))
    (move : Move V S) :
    start.stopped (moves ++ [move]) = start.stopped moves ++
      ((start.run moves).stopped? move).toList :=
  along_concat _ _ _ _

/-- Only being asked to stop cancels a loop. -/
theorem cancelled_step {client : Client V S W} {move : Move V S} {number : Nat}
    (cancelled : (client.step move).sync.IsCancelled number) :
    client.sync.IsCancelled number ∨ client.stopped? move = some number := by
  cases move with
  | store change => exact .inl cancelled
  | equip change => exact .inl cancelled
  | pass milliseconds => exact .inl cancelled
  | load =>
      left
      rcases client.step_load.2 with kept | ⟨index, loaded⟩
      · rwa [kept] at cancelled
      · rwa [loaded] at cancelled
  | start hasRuntime =>
      left
      rw [step] at cancelled
      split at cancelled
      · rename_i started
        exact .of_start started cancelled
      · exact cancelled
  | stop =>
      rcases Synchronizer.IsCancelled.of_stop cancelled with
        before | ⟨watching, latest⟩
      · exact .inl before
      · right
        rw [stopped?, if_pos watching, latest]
  | join =>
      left
      rw [step] at cancelled
      split at cancelled
      · exact cancelled
      · exact cancelled
  | loop turning draw =>
      left
      cases stepped : client.sync.stepLoop? draw turning client.world with
      | none =>
          rw [step, stepped] at cancelled
          exact cancelled
      | some next =>
          obtain ⟨loop, turn, found, turned, _, _⟩ :=
            Synchronizer.stepLoop?_eq_some.mp stepped
          rw [step_turn found turned] at cancelled
          exact .of_turned found cancelled

end Client

end LiveFlags
