import LiveFlags.Proofs.Flag.Setting
import LiveFlags.Proofs.Sync.Patience
import Mathlib.Tactic.FinCases

/-!
# Changes are handled once and in order

In front of a store that keeps a log, the loops of a synchronizer together
handle the changes of the directory in the order of the log, each once, from
the first load on.  A failure that passes leaves a loop with its watch; after
any other failure and after the end of a watch the loop opens one new watch
behind the last change that was handled.  Only being stopped, or the failure
that says so, ends a loop.
-/

namespace LiveFlags

namespace Client

variable {V S W : Type} [FlagValue V] [KeyValueStore S W]

/-- The changes that were handled in a run, by whichever loop. -/
def changes (start : Client V S W) (moves : List (Move V S)) :
    List ChangeEvent :=
  (start.handled moves).map Prod.snd

/-- What is so after a run in front of a store that keeps a log, when the first
load was at `initial`. -/
structure Handles {directory : String} (keeps : KeepsLog S W directory)
    (start : Client V S W) (initial : Nat) (moves : List (Move V S)) :
    Prop where
  /-- The changes were handled in order, none twice and none left out. -/
  ordered : start.changes moves <+:
    (keeps.changes (start.run moves).world.store.store).filter
      fun change => initial < change.index
  cursor : (start.run moves).sync.cursor =
    lastIndex initial (start.changes moves)
  /-- What a loop takes from its watch it hands to the flags. -/
  applied : ∀ move change,
    change ∈ ((start.run moves).heard move).filterMap Exchange.event? →
      ((start.run moves).step move).world.flags =
        (handleEvent directory (start.run moves).world.flags change).flags
  opened : ∀ move path options watch,
    .watch path options watch ∈ (start.run moves).heard move →
      path = directory ∧ options = ⟨(start.run moves).sync.cursor, true⟩
  course : ∀ number, Exchange.IsCourse (start.attended number moves)
  goesOn : ∀ number, number ∉ start.stopped moves →
    ∀ last ∈ (start.attended number moves).getLast?,
      (start.run moves).GoesOn number last
  ended : ∀ number phase,
    (start.run moves).sync.phase? number = some phase →
      phase.isFinished = true → number ∈ start.stopped moves ∨
        ∃ watch left, (start.attended number moves).getLast? =
          some (.next watch (.failure .cancelled) left)

theorem changes_concat (start : Client V S W) (moves : List (Move V S))
    (move : Move V S) :
    start.changes (moves ++ [move]) = start.changes moves ++
      ((start.run moves).heard move).filterMap Exchange.event? := by
  rw [changes, handled, along_concat, List.map_append, List.map_map]
  congr 1
  exact List.map_id _

/-- What others do in a move leaves the log a log, and the flags as safe as they
were. -/
def Move.IsFair {directory : String}
    (keeps : KeepsLog S W directory) (move : Move V S) : Prop :=
  (∀ store, keeps.Grows store (move.changed store)) ∧
    ∀ flags : FlagSet V,
      (flags.Every fun _ flag => FlagValue.Sturdy flag.value) →
        (move.equipped flags).Every fun _ flag => FlagValue.Sturdy flag.value

/-- How a loop stands after a run in front of a store that keeps a log. -/
structure Minds {directory : String} (keeps : KeepsLog S W directory)
    (start : Client V S W) (moves : List (Move V S)) (number : Nat) :
    Prop where
  stands : ∀ phase, (start.run moves).sync.phase? number = some phase →
    phase.Stands (start.attended number moves).getLast?
      (number ∈ start.stopped moves)
  owes : ∀ phase, (start.run moves).sync.phase? number = some phase →
    phase.Owes keeps (start.run moves).world.store.store
      (start.run moves).sync.cursor
  absent : (start.run moves).sync.phase? number = none →
    start.attended number moves = []
  course : Exchange.IsCourse (start.attended number moves)
  cancelled : (start.run moves).sync.IsCancelled number →
    number ∈ start.stopped moves

/-- What holds at every step of a run in front of a store that keeps a log. -/
structure Keeps {config : Config} (keeps : KeepsLog S W config.normalized)
    (start : Client V S W) (initial : Nat) (moves : List (Move V S)) :
    Prop where
  config : (start.run moves).sync.config = config
  orderly : (start.run moves).sync.IsOrderly
  initialized : (start.run moves).sync.initialized = true
  sturdy : (start.run moves).world.flags.Every fun _ flag =>
    FlagValue.Sturdy flag.value
  ordered : start.changes moves <+:
    (keeps.changes (start.run moves).world.store.store).filter
      fun change => initial < change.index
  cursor : (start.run moves).sync.cursor =
    lastIndex initial (start.changes moves)
  minds : ∀ number, Minds keeps start moves number

namespace Minds

variable {directory : String} {keeps : KeepsLog S W directory}
variable {start : Client V S W} {moves : List (Move V S)} {number : Nat}

theorem cancelled_step (minds : Minds keeps start moves number)
    (move : Move V S)
    (cancelled : (start.run (moves ++ [move])).sync.IsCancelled number) :
    number ∈ start.stopped (moves ++ [move]) := by
  rw [run_concat] at cancelled
  rw [stopped_concat, List.mem_append]
  rcases Client.cancelled_step cancelled with before | stopping
  · exact .inl (minds.cancelled before)
  · right
    simp [stopping]

/-- A move in which a loop exchanges nothing leaves it as it is, or queues
it. -/
theorem undisturbed (minds : Minds keeps start moves number) {move : Move V S}
    (silent : start.attended number (moves ++ [move]) =
      start.attended number moves)
    (kept : ∀ phase, (start.run moves).sync.phase? number = some phase →
      ((start.run moves).step move).sync.phase? number = some phase)
    (added : ∀ phase,
      ((start.run moves).step move).sync.phase? number = some phase →
        (start.run moves).sync.phase? number = some phase ∨
          phase.isQueued = true)
    (owes : ∀ phase, (start.run moves).sync.phase? number = some phase →
      phase.Owes keeps ((start.run moves).step move).world.store.store
        ((start.run moves).step move).sync.cursor) :
    Minds keeps start (moves ++ [move]) number := by
  have stopped : number ∈ start.stopped moves →
      number ∈ start.stopped (moves ++ [move]) := by
    intro member
    rw [stopped_concat]
    exact List.mem_append_left _ member
  constructor
  case stands =>
    intro phase found
    rw [run_concat] at found
    rw [silent]
    cases before : (start.run moves).sync.phase? number with
    | some old =>
        obtain rfl : phase = old := by
          simpa [kept old before] using found.symm
        exact (minds.stands phase before).imp stopped
    | none =>
        rw [minds.absent before]
        rcases added phase found with old | queued
        · rw [before] at old
          cases old
        · cases phase with
          | queued predecessor => rfl
          | _ => cases queued
  case owes =>
    intro phase found
    rw [run_concat] at found ⊢
    rcases added phase found with old | queued
    · exact owes phase old
    · apply Phase.Owes.of_isDormant
      simp [Phase.isDormant, queued]
  case absent =>
    intro none
    rw [run_concat] at none
    rw [silent]
    apply minds.absent
    cases before : (start.run moves).sync.phase? number with
    | none => rfl
    | some phase =>
        rw [kept phase before] at none
        cases none
  case course =>
    rw [silent]
    exact minds.course
  case cancelled => exact minds.cancelled_step move

/-- A loop takes a turn. -/
theorem turned (minds : Minds keeps start moves number) {draw : Nat}
    {loop : WatchLoop W} {turn : Turn V (Transcribed S W) W}
    (found : (start.run moves).sync.loops[number]? = some loop)
    (stepped : loop.step? (start.run moves).sync.config draw
      (start.run moves).sync.isFinished (start.run moves).sync.cursor
      (start.run moves).world = some turn) {heard : List (Exchange W)}
    (exchanges : turn.world.store.exchanges =
      (start.run moves).world.store.exchanges ++ heard)
    (stands : turn.phase.Stands
      (start.attended number moves ++
        heard.filter Exchange.isOfWatch).getLast?
      (number ∈ start.stopped moves))
    (owes : turn.phase.Owes keeps turn.world.store.store turn.cursor)
    (course : Exchange.IsCourse
      (start.attended number moves ++ heard.filter Exchange.isOfWatch)) :
    Minds keeps start (moves ++ [.loop number draw]) number := by
  have attended := attended_concat_turn start number draw moves
  rw [heard_turn found stepped exchanges] at attended
  have stopped : start.stopped (moves ++ [.loop number draw]) =
      start.stopped moves := by
    rw [stopped_concat]
    exact List.append_nil _
  have after : (start.run (moves ++ [.loop number draw])).sync.phase? number =
      some turn.phase := by
    rw [run_concat]
    exact phase?_step found stepped
  constructor
  case stands =>
    intro phase here
    obtain rfl : turn.phase = phase := by simpa [after] using here
    rw [attended, stopped]
    exact stands
  case owes =>
    intro phase here
    obtain rfl : turn.phase = phase := by simpa [after] using here
    rw [run_concat, step_turn found stepped]
    exact owes
  case absent =>
    intro none
    rw [after] at none
    cases none
  case course =>
    rw [attended]
    exact course
  case cancelled => exact minds.cancelled_step _

end Minds

section Runs

variable {config : Config} {keeps : KeepsLog S W config.normalized}
variable {start : Client V S W} {initial : Nat} {moves : List (Move V S)}

/-- The log only grows, so that what was handled stays where it is in it. -/
theorem Keeps.ordered_grown (held : Keeps keeps start initial moves) {later : S}
    (grows : keeps.Grows (start.run moves).world.store.store later) :
    start.changes moves <+: (keeps.changes later).filter
      fun change => initial < change.index :=
  held.ordered.trans ((keeps.changes_grown grows).filter _)

/-- A move in which no loop takes a turn. -/
theorem Keeps.rest (held : Keeps keeps start initial moves)
    {move : Move V S} (fair : move.IsFair keeps)
    (same : (start.run moves).sync.SameLoops
      ((start.run moves).step move).sync)
    (exchanges : ((start.run moves).step move).world.store.exchanges =
      (start.run moves).world.store.exchanges)
    (store : ((start.run moves).step move).world.store.store =
      move.changed (start.run moves).world.store.store)
    (flags : ((start.run moves).step move).world.flags =
      move.equipped (start.run moves).world.flags) :
    Keeps keeps start initial (moves ++ [move]) := by
  have silent := heard_eq_nil exchanges
  have changes : start.changes (moves ++ [move]) = start.changes moves := by
    simp [changes_concat, silent]
  have grows : keeps.Grows (start.run moves).world.store.store
      ((start.run moves).step move).world.store.store := by
    rw [store]
    exact fair.1 _
  constructor
  case config =>
    rw [run_concat, same.config]
    exact held.config
  case orderly =>
    rw [run_concat]
    exact same.orderly held.orderly
  case initialized =>
    rw [run_concat, same.initialized]
    exact held.initialized
  case sturdy =>
    rw [run_concat, flags]
    exact fair.2 _ held.sturdy
  case ordered =>
    rw [changes, run_concat]
    exact held.ordered_grown grows
  case cursor =>
    rw [changes, run_concat, same.cursor]
    exact held.cursor
  case minds =>
    intro number
    refine (held.minds number).undisturbed ?_ (same.kept number)
      (same.added number) ?_
    · simp [attended_concat, silent]
    · intro phase found
      rw [same.cursor]
      exact ((held.minds number).owes phase found).grown grows

section Turns

variable {number draw : Nat} {loop : WatchLoop W}
variable {turn : Turn V (Transcribed S W) W}

/-- A move in which a loop takes a turn. -/
theorem Keeps.turned (held : Keeps keeps start initial moves)
    (found : (start.run moves).sync.loops[number]? = some loop)
    (stepped : loop.step? (start.run moves).sync.config draw
      (start.run moves).sync.isFinished (start.run moves).sync.cursor
      (start.run moves).world = some turn) {heard : List (Exchange W)}
    (exchanges : turn.world.store.exchanges =
      (start.run moves).world.store.exchanges ++ heard)
    (sturdy : turn.world.flags.Every fun _ flag =>
      FlagValue.Sturdy flag.value)
    (ordered : start.changes moves ++ heard.filterMap Exchange.event? <+:
      (keeps.changes turn.world.store.store).filter
        fun change => initial < change.index)
    (cursor : turn.cursor = lastIndex initial
      (start.changes moves ++ heard.filterMap Exchange.event?))
    (minds : Minds keeps start (moves ++ [.loop number draw]) number) :
    Keeps keeps start initial (moves ++ [.loop number draw]) := by
  have after := step_turn found stepped
  have changes : start.changes (moves ++ [.loop number draw]) =
      start.changes moves ++ heard.filterMap Exchange.event? := by
    rw [changes_concat, heard_turn found stepped exchanges]
  constructor
  case config =>
    rw [run_concat, config_step]
    exact held.config
  case orderly =>
    rw [run_concat]
    exact orderly_step held.orderly _
  case initialized =>
    rw [run_concat, after]
    exact held.initialized
  case sturdy =>
    rw [run_concat, after]
    exact sturdy
  case ordered =>
    rw [changes, run_concat, after]
    exact ordered
  case cursor =>
    rw [changes, run_concat, after]
    exact cursor
  case minds =>
    intro other
    by_cases here : other = number
    · rw [here]
      exact minds
    · have phases := phase?_step_other found stepped here
      refine (held.minds other).undisturbed
        (attended_concat_other start here draw moves) ?_ ?_ ?_
      · intro phase before
        exact phases.trans before
      · intro phase now
        exact .inl (phases.symm.trans now)
      · -- The other loops are not at work, so that they owe nothing.
        intro phase before
        exact .of_isDormant
          (held.orderly.others_dormant found stepped here before)

/-- A move in which a loop takes a turn and handles no change. -/
theorem Keeps.unchanged (held : Keeps keeps start initial moves)
    (found : (start.run moves).sync.loops[number]? = some loop)
    (stepped : loop.step? (start.run moves).sync.config draw
      (start.run moves).sync.isFinished (start.run moves).sync.cursor
      (start.run moves).world = some turn) {heard : List (Exchange W)}
    (exchanges : turn.world.store.exchanges =
      (start.run moves).world.store.exchanges ++ heard)
    (noChange : heard.filterMap Exchange.event? = [])
    (sameCursor : turn.cursor = (start.run moves).sync.cursor)
    (sameFlags : turn.world.flags = (start.run moves).world.flags)
    (grows : keeps.Grows (start.run moves).world.store.store
      turn.world.store.store)
    (minds : Minds keeps start (moves ++ [.loop number draw]) number) :
    Keeps keeps start initial (moves ++ [.loop number draw]) := by
  refine held.turned found stepped exchanges ?_ ?_ ?_ minds
  · rw [sameFlags]
    exact held.sturdy
  · rw [noChange, List.append_nil]
    exact held.ordered_grown grows
  · rw [noChange, List.append_nil, sameCursor]
    exact held.cursor

theorem Keeps.attends (held : Keeps keeps start initial moves)
    (found : (start.run moves).sync.loops[number]? = some loop)
    (stepped : loop.step? (start.run moves).sync.config draw
      (start.run moves).sync.isFinished (start.run moves).sync.cursor
      (start.run moves).world = some turn) :
    Attends keeps (start.attended number moves).getLast?
      (number ∈ start.stopped moves) (start.run moves).sync.cursor
      (start.run moves).world turn := by
  have here := Synchronizer.phase?_of_loop found
  have minds := held.minds number
  have steps := WatchLoop.steps stepped
  rw [held.config] at steps
  exact
    steps.attends (minds.stands loop.phase here) (minds.owes loop.phase here)
    (fun cancelled => minds.cancelled ⟨loop, found, cancelled⟩) held.sturdy

theorem Keeps.after_turn (held : Keeps keeps start initial moves)
    (found : (start.run moves).sync.loops[number]? = some loop)
    (stepped : loop.step? (start.run moves).sync.config draw
      (start.run moves).sync.isFinished (start.run moves).sync.cursor
      (start.run moves).world = some turn) :
    Keeps keeps start initial (moves ++ [.loop number draw]) := by
  have minds := held.minds number
  cases held.attends found stepped with
  | rests heard exchanges written sameCursor sameFlags grows stands owes =>
      have unattended : heard.filter Exchange.isOfWatch = [] := by
        rw [List.filter_eq_nil_iff]
        intro exchange member
        simp [written exchange member]
      refine held.unchanged found stepped exchanges
        (Exchange.filterMap_event?_of_written written) sameCursor sameFlags
        grows (minds.turned found stepped exchanges ?_ ?_ ?_)
      · rw [unattended, List.append_nil]
        exact stands
      · rw [sameCursor]
        exact owes
      · rw [unattended, List.append_nil]
        exact minds.course
  | opens opened exchanges reopens sameCursor sameFlags grows newPhase owes =>
      refine held.unchanged found stepped exchanges rfl sameCursor sameFlags
        grows (minds.turned found stepped exchanges ?_ ?_ ?_)
      · rw [newPhase]
        exact ⟨_, List.getLast?_concat, rfl⟩
      · rw [newPhase, sameCursor]
        exact owes
      · exact minds.course.concat reopens
  | hears watch arrival left exchanges leaves noChange sameCursor sameFlags
      grows stands owes =>
      refine held.unchanged found stepped exchanges ?_ sameCursor sameFlags
        grows (minds.turned found stepped exchanges ?_ ?_ ?_)
      · simp [Exchange.event?, noChange]
      · rw [← List.getLast?_concat] at stands
        exact stands
      · rw [sameCursor]
        exact owes
      · exact minds.course.concat leaves
  | handles watch change left exchanges leaves next newCursor newFlags grows
      stands owes =>
      -- The cursor is at the last change that was handled, so that the one
      -- that comes next is the next of the log.
      rw [held.cursor] at next
      refine held.turned found stepped exchanges ?_ ?_ ?_
        (minds.turned found stepped exchanges ?_ ?_ ?_)
      · rw [newFlags]
        exact handleEvent_every Load.sturdy_isStable held.sturdy change
      · exact handled_concat (keeps.changes_increasing _)
          (held.ordered_grown grows) next
      · rw [newCursor]
        exact (lastIndex_concat ..).symm
      · rw [← List.getLast?_concat] at stands
        exact stands
      · rw [newCursor]
        exact owes
      · exact minds.course.concat leaves

end Turns

theorem Keeps.step (held : Keeps keeps start initial moves)
    {move : Move V S} (fair : move.IsFair keeps) :
    Keeps keeps start initial (moves ++ [move]) := by
  cases (start.run moves).kind move with
  | rests same exchanges store flags =>
      exact held.rest fair same exchanges store flags
  | loads first =>
      rw [held.initialized] at first
      cases first
  | turns number draw loop turn found stepped =>
      exact held.after_turn found stepped

theorem Keeps.run (held : Keeps keeps start initial [])
    (fair : ∀ move ∈ moves, move.IsFair keeps) :
    Keeps keeps start initial moves := by
  induction moves using List.reverseRecOn with
  | nil => exact held
  | append_singleton moves move induction =>
      exact (induction fun earlier member =>
        fair earlier (List.mem_append_left _ member)).step
          (fair move (by simp))

/-- The first load puts the cursor at the index of the snapshot. -/
theorem Keeps.loaded (keeps : KeepsLog S W config.normalized)
    {world : World V S} {snapshot : Snapshot}
    (read : KeyValueStore.get world.store config.normalized .everything =
      .ok snapshot)
    (sturdy : world.flags.Every fun _ flag => FlagValue.Sturdy flag.value) :
    Keeps keeps ((fresh config world).step .load) snapshot.index [] := by
  let unread : Client V S W := fresh config world
  have reading : KeyValueStore.get unread.world.store unread.sync.directory
      .everything = .ok snapshot := read
  have unchanged : unread.world.flags.Every fun _ flag =>
    FlagValue.Sturdy flag.value := sturdy
  obtain ⟨applied, failures, later, loaded, safe⟩ :=
    World.load_of_read reading unchanged false
  have after : unread.step .load =
      ⟨{ config, initialized := true, cursor := snapshot.index },
        later.tell (.initialized applied unread.sync.directory
          snapshot.index)⟩ := by
    rw [Client.step, Synchronizer.loadInitially,
      if_neg (by simp [unread, fresh]),
      loaded]
    rfl
  change Keeps keeps (unread.step .load) snapshot.index []
  rw [after]
  constructor
  case config => rfl
  case orderly =>
    exact (Synchronizer.IsOrderly.created config).of_same_phases rfl rfl rfl
  case initialized => rfl
  case sturdy => exact safe
  case ordered => exact List.nil_prefix
  case cursor => rfl
  case minds =>
    intro number
    constructor
    case stands =>
      intro phase found
      cases found
    case owes =>
      intro phase found
      cases found
    case absent => exact fun _ => rfl
    case course => exact .nil
    case cancelled =>
      rintro ⟨loop, found, _⟩
      cases found

theorem Keeps.goesOn (held : Keeps keeps start initial moves) {number : Nat}
    (unstopped : number ∉ start.stopped moves) {last : Exchange W}
    (member : last ∈ (start.attended number moves).getLast?) :
    (start.run moves).GoesOn number last := by
  cases here : (start.run moves).sync.phase? number with
  | none =>
      rw [(held.minds number).absent here] at member
      cases member
  | some phase =>
      have stands := (held.minds number).stands phase here
      obtain ⟨loop, found, same⟩ := Option.map_eq_some_iff.mp here
      have running : loop.cancelled = false := by
        by_contra cancelled
        apply unstopped
        exact (held.minds number).cancelled
          ⟨loop, found, by simpa using cancelled⟩
      rw [Option.mem_def.mp member] at stands
      cases phase with
      | queued predecessor => cases stands
      | opening =>
          exact .of_reopens (stands last rfl) (reaches_of_opening here)
      | streaming watch =>
          obtain ⟨_, ⟨⟩, leaves⟩ := stands
          exact .of_leaves leaves (reaches_now here)
      | undoing flag event watch =>
          obtain ⟨_, ⟨⟩, leaves⟩ := stands
          exact .of_leaves leaves (reaches_of_undoing here)
      | pausing state deadline watch =>
          cases state with
          | backoffCluster =>
              obtain ⟨_, ⟨⟩, leaves⟩ := stands
              exact .of_leaves leaves (reaches_of_retrying found same running)
          | backoffGeneric =>
              exact .of_reopens (stands last rfl)
                (reaches_of_restarting found same running)
          | _ => exact stands.elim
      | exited =>
          rcases stands with asked | ⟨watch, left, cancelled⟩
          · exact absurd asked unstopped
          · cases cancelled
            exact ⟨nofun, nofun⟩
      | rereading watch => exact stands.elim
      | crashed detail => exact stands.elim

theorem Keeps.applied (held : Keeps keeps start initial moves)
    {move : Move V S} {change : ChangeEvent}
    (taken : change ∈
      ((start.run moves).heard move).filterMap Exchange.event?) :
    ((start.run moves).step move).world.flags =
      (handleEvent config.normalized (start.run moves).world.flags
        change).flags := by
  cases (start.run moves).kind move with
  | rests same exchanges =>
      rw [heard_eq_nil exchanges] at taken
      cases taken
  | loads first =>
      rw [held.initialized] at first
      cases first
  | turns number draw loop turn found stepped =>
      rw [step_turn found stepped]
      cases held.attends found stepped with
      | rests heard exchanges written =>
          rw [heard_turn found stepped exchanges,
            Exchange.filterMap_event?_of_written written] at taken
          cases taken
      | opens opened exchanges =>
          rw [heard_turn found stepped exchanges] at taken
          cases taken
      | hears watch arrival left exchanges leaves noChange =>
          rw [heard_turn found stepped exchanges] at taken
          simp [Exchange.event?, noChange] at taken
      | handles watch other left exchanges leaves next newCursor newFlags =>
          rw [heard_turn found stepped exchanges] at taken
          obtain rfl : change = other := by
            simpa [Exchange.event?, Arrival.event?] using taken
          exact newFlags

theorem Keeps.opened (held : Keeps keeps start initial moves)
    {move : Move V S} {path : String} {options : WatchOptions} {watch : W}
    (opens : .watch path options watch ∈ (start.run moves).heard move) :
    path = config.normalized ∧
      options = ⟨(start.run moves).sync.cursor, true⟩ := by
  cases (start.run moves).kind move with
  | rests same exchanges =>
      rw [heard_eq_nil exchanges] at opens
      cases opens
  | loads first =>
      rw [held.initialized] at first
      cases first
  | turns number draw loop turn found stepped =>
      cases held.attends found stepped with
      | rests heard exchanges written =>
          rw [heard_turn found stepped exchanges] at opens
          cases written _ opens
      | opens opened exchanges =>
          rw [heard_turn found stepped exchanges, List.mem_singleton] at opens
          cases opens
          exact ⟨rfl, rfl⟩
      | hears asked arrival left exchanges =>
          rw [heard_turn found stepped exchanges, List.mem_singleton] at opens
          cases opens
      | handles asked other left exchanges =>
          rw [heard_turn found stepped exchanges, List.mem_singleton] at opens
          cases opens

theorem Keeps.ended (held : Keeps keeps start initial moves) {number : Nat}
    {phase : Phase W}
    (found : (start.run moves).sync.phase? number = some phase)
    (finished : phase.isFinished = true) :
    number ∈ start.stopped moves ∨
      ∃ watch left, (start.attended number moves).getLast? =
        some (.next watch (.failure .cancelled) left) := by
  have stands := (held.minds number).stands phase found
  cases phase with
  | exited => exact stands
  | crashed detail => exact stands.elim
  | _ => cases finished

/-- After the first load, and as long as others only add to the log and register
no flags that crash, the changes of the directory are handled in the order of
the log, each once, over all loops that are ever started. -/
theorem handles_in_order (keeps : KeepsLog S W config.normalized)
    {world : World V S} {snapshot : Snapshot}
    (read : KeyValueStore.get world.store config.normalized .everything =
      .ok snapshot)
    (sturdy : world.flags.Every fun _ flag => FlagValue.Sturdy flag.value)
    (fair : ∀ move ∈ moves, move.IsFair keeps) :
    Handles keeps ((fresh config world).step .load) snapshot.index moves := by
  have held := (Keeps.loaded keeps read sturdy).run fair
  exact {
    ordered := held.ordered
    cursor := held.cursor
    applied := fun _ _ taken => held.applied taken
    opened := fun _ _ _ _ opens => held.opened opens
    course := fun number => (held.minds number).course
    goesOn := fun _ unstopped _ member => held.goesOn unstopped member
    ended := fun _ _ found finished => held.ended found finished }

theorem Move.IsFair.of_id {directory : String} {keeps : KeepsLog S W directory}
    {move : Move V S} (changed : move.changed = id)
    (equipped : move.equipped = id) : move.IsFair keeps := by
  constructor
  · intro store
    rw [changed]
    exact keeps.refl store
  · intro flags sturdy
    rwa [equipped]

end Runs

/-- Others switch the flag on or off. -/
def toggle (text : String) : Move Setting RehearsedStore :=
  .store fun store => (store.write (.set "/c/a" text none)).2

theorem toggle_isFair (directory text : String) :
    (toggle text).IsFair (RehearsedStore.keepsLog directory) :=
  ⟨fun store => store.write_log _, fun _ sturdy => sturdy⟩

/-- A switch, and a store whose watches are interrupted three times. -/
def rehearsal : World Setting RehearsedStore :=
  { flags := .switch "a"
    store := {
      log := []
      increasing := List.Pairwise.nil
      script := [some (.failure .timeout (by simp)), none,
        some (.failure (.other "reset") (by simp)), none, some .ended] } }

/-- Two changes are handled by a first loop and one by a second. -/
def interrupted : List (Move Setting RehearsedStore) :=
  [.start true, .loop 0 0, .loop 0 0, toggle "true", toggle "false",
    .loop 0 0, .loop 0 0, .loop 0 0, .pass 60000, .loop 0 0, .loop 0 0,
    .loop 0 0, .stop, .loop 0 0, .start true, .loop 1 0, .loop 1 0,
    toggle "true", .loop 1 0, .pass 60000, .loop 1 0, .loop 1 0, .loop 1 0]

theorem interrupted_handles :
    (((fresh { directory := "/c" } rehearsal).step .load).changes
        interrupted).map ChangeEvent.index = [1, 2, 3] ∧
      Handles (RehearsedStore.keepsLog
          (Config.normalized { directory := "/c" }))
        ((fresh { directory := "/c" } rehearsal).step .load) 0 interrupted := by
  have read : KeyValueStore.get rehearsal.store
      (Config.normalized { directory := "/c" }) .everything =
        .ok { index := 0 } := rfl
  have fair : ∀ move ∈ interrupted, move.IsFair
      (RehearsedStore.keepsLog (Config.normalized { directory := "/c" })) := by
    intro move member
    fin_cases member
    all_goals first | exact .of_id rfl rfl | exact toggle_isFair _ _
  refine ⟨by decide +kernel, ?_⟩
  exact handles_in_order (RehearsedStore.keepsLog _) read
    (FlagSet.switch_sturdy "a") fair

end Client

end LiveFlags
