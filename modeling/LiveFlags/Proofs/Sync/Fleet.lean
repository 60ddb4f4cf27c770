import LiveFlags.Proofs.Flag.Setting
import LiveFlags.Proofs.Sync.Undoing
import Mathlib.Data.List.Nodup

/-!
# Undoing among others

Any number of clients and synchronizers share one memory store and act in any
order.  A mutation is undone by a write that is conditioned on its index, and
no two mutations have the same index.  So undoing takes effect only while the
mutation is the latest of its key, brings back what stood there before it, and
takes effect at most once for each mutation.
-/

namespace LiveFlags

/-- Where a loop stands that reads a store with a log, whatever cursor it
shares with other loops. -/
def Phase.Reads (log : List ChangeEvent) : Phase MemoryWatch → Prop
  | streaming watch => watch.IsLost ∨ ∃ cursor, watch.Follows log cursor
  | undoing _ event watch => event ∈ log ∧ ∃ cursor, watch.Follows log cursor
  | pausing state _ _ => state = .recovering
  | _ => True

/-- Synchronizers that share a memory store, each with flags of its own. -/
structure Fleet (V : Type) where
  store : MemoryStore
  members : List (System V) := []

namespace Fleet

variable {V : Type} [FlagValue V]

/-- What is done to a member from outside, without the store. -/
inductive Call (V : Type) where
  /-- Its flags are registered or set by others. -/
  | equip (flags : FlagSet V)
  /-- The wait for its latest loop is given up. -/
  | detach
  | release

/-- What happens next in a fleet. -/
inductive Move (V : Type) where
  /-- A client writes, deletes or compacts. -/
  | act (act : MemoryStore.Act)
  | enlist (config : Config) (flags : FlagSet V)
  | call (member : Nat) (call : Call V)
  | move (member : Nat) (move : System.Move)

omit [FlagValue V] in
/-- A member after something was done to it. -/
def called (system : System V) : Call V → System V
  | .equip flags => { system with world := { system.world with flags } }
  | .detach => { system with sync := system.sync.detachTask }
  | .release =>
      let (sync, world) := system.sync.release system.world
      ⟨sync, world⟩

omit [FlagValue V] in
/-- A member that finds the shared store in its world. -/
def finding (store : MemoryStore) (system : System V) : System V :=
  { system with world := { system.world with store } }

def step (fleet : Fleet V) : Move V → Fleet V
  | .act act => { fleet with store := fleet.store.act act }
  | .enlist config flags =>
      { fleet with members := fleet.members ++
          [.fresh config { flags, store := fleet.store }] }
  | .call member call =>
      { fleet with members :=
          fleet.members.modify member fun system => called system call }
  | .move member move =>
      match fleet.members[member]? with
      | some system =>
          let moved := (finding fleet.store system).step move
          ⟨moved.world.store, fleet.members.set member moved⟩
      | none => fleet

def run (fleet : Fleet V) (moves : List (Move V)) : Fleet V :=
  moves.foldl step fleet

omit [FlagValue V] in
/-- An empty store that nobody has joined. -/
def opened (limit : Nat) : Fleet V := { store := .empty limit }

/-- The mutation that a move makes, if it makes one. -/
def makes (fleet : Fleet V) (move : Move V) : List ChangeEvent :=
  fleet.store.growth (fleet.step move).store

def mutations (fleet : Fleet V) : List (Move V) → List ChangeEvent
  | [] => []
  | move :: later => fleet.makes move ++ (fleet.step move).mutations later

omit [FlagValue V] in
/-- The mutation that a move is to undo. -/
def undoing? (fleet : Fleet V) : Move V → Option ChangeEvent
  | .move member (.loop number _) =>
      fleet.members[member]?.bind fun system =>
        (system.sync.phase? number).bind Phase.undoing?
  | _ => none

omit [FlagValue V] in
/-- The mutation that a move undoes with success. -/
def undone? (fleet : Fleet V) (move : Move V) : Option ChangeEvent :=
  (fleet.undoing? move).filter fun event =>
    (rollback event fleet.store).1 = .restored ∨
      (rollback event fleet.store).1 = .deleted

def rollbacks (fleet : Fleet V) : List (Move V) → List ChangeEvent
  | [] => []
  | move :: later =>
      (fleet.undone? move).toList ++ (fleet.step move).rollbacks later

/-- What a move comes to that is to undo a mutation after a run. -/
structure Undoes (start : Fleet V) (moves : List (Move V)) (move : Move V)
    (event : ChangeEvent) : Prop where
  made : event ∈ start.mutations moves
  failing : (start.run moves).undone? move = none →
    ((start.run moves).step move).store = (start.run moves).store
  latest : (start.run moves).undone? move = some event →
    ∀ other ∈ start.mutations moves, other.key = event.key →
      other.index ≤ event.index
  /-- What the key holds afterwards is what it held when the mutation was
  made. -/
  restored : (start.run moves).undone? move = some event →
    ∃ earlier making later, moves = earlier ++ making :: later ∧
      event ∈ (start.run earlier).makes making ∧
        ((start.run moves).step move).store.value? event.key =
          (start.run earlier).store.value? event.key
  others : ∀ key ≠ event.key,
    ((start.run moves).step move).store.entries.get? key =
      (start.run moves).store.entries.get? key

end Fleet

namespace MemoryStore

theorem get?_run_other (store : MemoryStore) {command : WriteCommand}
    {key : String} (other : key ≠ command.key) :
    (store.run command).2.entries.get? key = store.entries.get? key := by
  rcases store.run_cases command with ⟨error, failed⟩ | ⟨event, answers, done⟩
  · rw [failed]
  · rw [done]
    change (event.apply store.entries).get? key = _
    rw [ChangeEvent.get?_apply, if_neg]
    rw [answers.key]
    exact other

/-- A mutation that an act makes is what a command asked for. -/
theorem answers_of_mem_growth {store : MemoryStore} {act : Act}
    {event : ChangeEvent} (made : event ∈ store.growth (store.act act)) :
    ∃ command, store.Answers command event := by
  cases act with
  | compact =>
      have none : store.growth (store.act .compact) = [] := if_pos rfl
      rw [none] at made
      cases made
  | write command =>
      obtain ⟨more, adds⟩ := store.exists_adds command
      have does : store.Does more (.write command) := adds
      rw [does.growth_eq] at made
      cases adds with
      | failed answer => cases made
      | made answers answer =>
          obtain rfl := List.mem_singleton.mp made
          exact ⟨command, answers⟩

theorem undo_key (event : ChangeEvent) : event.undo.key = event.key := by
  unfold ChangeEvent.undo
  split <;> rfl

theorem undo_condition (event : ChangeEvent) :
    event.undo.condition = some event.index := by
  unfold ChangeEvent.undo
  split <;> rfl

theorem index?_of_undo {store : MemoryStore} {event : ChangeEvent}
    {index : Nat} (done : (store.run event.undo).1 = .ok index) :
    store.index? event.key = some event.index := by
  rcases store.run_cases event.undo with ⟨error, failed⟩ | ⟨echo, answers, made⟩
  · rw [failed] at done
    cases done
  · have held := answers.condition event.index (undo_condition event)
    rwa [undo_key] at held

/-- Undoing succeeds only while the mutation is the latest of its key, and then
leaves the value before it under another index, or nothing. -/
theorem Traces.undo {store : MemoryStore} {log : List ChangeEvent}
    (traces : store.Traces log) {event : ChangeEvent} (member : event ∈ log)
    {index : Nat} (done : (store.run event.undo).1 = .ok index) :
    (∀ other ∈ log, other.key = event.key → other.index ≤ event.index) ∧
      (store.run event.undo).2.value? event.key = event.previous ∧
        (store.run event.undo).2.index? event.key ≠ some event.index := by
  have held := index?_of_undo done
  rcases store.run_cases event.undo with ⟨error, failed⟩ | ⟨echo, answers, made⟩
  · rw [failed] at done
    cases done
  · rw [index?, Option.map_eq_some_iff] at held
    obtain ⟨entry, found, same⟩ := held
    obtain ⟨_, _, _, _, _, last⟩ := traces.entry found
    obtain ⟨key, value⟩ := System.answers_undo answers
    have after : (store.run event.undo).2.entries.get? event.key =
        echo.value.map fun value => ⟨value, echo.index⟩ := by
      rw [made]
      change (echo.apply store.entries).get? event.key = _
      rw [ChangeEvent.get?_apply, if_pos key.symm]
    refine ⟨?_, ?_, ?_⟩
    · intro other otherMember otherKey
      rw [← same]
      exact last other otherMember otherKey
    · rw [value?, after, value]
      cases event.previous <;> rfl
    · have upper := (traces.numbered.bounds member).2
      have total := traces.index
      have fresh := answers.index
      rw [index?, after]
      cases echo.value with
      | none => simp
      | some text =>
          simp
          omega

end MemoryStore

namespace Phase

variable {log more : List ChangeEvent}

theorem Reads.append {phase : Phase MemoryWatch} (reads : phase.Reads log)
    (numbered : NumberedFrom log.length more) : phase.Reads (log ++ more) := by
  cases phase with
  | streaming watch =>
      refine reads.imp_right ?_
      rintro ⟨cursor, follows⟩
      exact ⟨cursor, follows.append numbered⟩
  | undoing flag event watch =>
      obtain ⟨member, cursor, follows⟩ := reads
      exact ⟨List.mem_append_left _ member, cursor, follows.append numbered⟩
  | pausing state deadline watch => exact reads
  | _ => trivial

end Phase

section Turns

variable {V : Type} [FlagValue V] {config : Config} {draw cursor : Nat}
variable {finished : Nat → Bool} {loop : WatchLoop MemoryWatch}
variable {world : World V MemoryStore} {turn : Turn V MemoryStore MemoryWatch}
variable {log : List ChangeEvent}

theorem Turn.take_reads {watch : MemoryWatch} {event : ChangeEvent}
    (member : event ∈ log) (follows : ∃ cursor, watch.Follows log cursor)
    (directory : String) (cursor : Nat) (world : World V MemoryStore) :
    (Turn.take directory cursor world watch event).phase.Reads log := by
  unfold take
  dsimp only
  cases (handleEvent directory world.flags event).verdict with
  | settled => exact .inr follows
  | refused flag => exact ⟨member, follows⟩
  | crashed detail => trivial

theorem Turn.receive_reads {watch : MemoryWatch}
    (traces : world.store.Traces log)
    (reads : (Phase.streaming watch).Reads log) (config : Config)
    (draw cursor : Nat) :
    (Turn.receive config draw cursor world (world.store.next watch).2
      (world.store.next watch).1).phase.Reads log := by
  rcases reads with ⟨_, requested, oldest, backlog⟩ | ⟨passed, follows⟩
  · have lost : (world.store.next watch).1 =
        .failure (.compacted requested oldest) := by
      rw [MemoryStore.next, backlog]
      rfl
    rw [lost]
    exact rfl
  · rcases MemoryStore.next_cases traces follows with
      ⟨event, later, yielded, next, remaining⟩ |
        ⟨requested, oldest, later, yielded⟩ | ⟨later, yielded, _, remaining⟩
    · rw [yielded]
      exact take_reads next.member ⟨_, remaining⟩ _ _ _
    · rw [yielded]
      exact rfl
    · rw [yielded]
      exact .inr ⟨_, remaining⟩

theorem WatchLoop.Steps.reads
    (steps : loop.Steps config draw finished cursor world turn)
    (traces : world.store.Traces log) (reads : loop.phase.Reads log) :
    turn.phase.Reads log := by
  cases steps with
  | begins predecessor queued complete => trivial
  | opens opening watch later opened =>
      cases opened
      exact (world.store.watch_cases traces config.normalized ⟨cursor, true⟩)
        |>.imp_right fun follows => ⟨cursor, follows⟩
  | stops watch attending cancelled => trivial
  | receives watch streaming running ready arrival left store next =>
      cases next
      rw [streaming] at reads
      exact Turn.receive_reads traces reads config draw cursor
  | undoes flag event watch undoing answer later written =>
      rw [undoing] at reads
      exact .inr reads.2
  | resumes state deadline watch pausing running due =>
      rw [pausing] at reads
      cases reads
      trivial
  | rereads watch rereading =>
      unfold Turn.reread
      split <;> trivial

/-- A step of a loop writes to the store only to undo a mutation. -/
theorem WatchLoop.Steps.store_eq
    (steps : loop.Steps config draw finished cursor world turn) :
    turn.world.store = match loop.phase.undoing? with
      | some event => (world.store.run event.undo).2
      | none => world.store := by
  cases steps with
  | begins predecessor queued complete =>
      rw [queued]
      rfl
  | opens opening watch later opened =>
      cases opened
      rw [opening]
      rfl
  | stops watch attending cancelled =>
      rcases attending with streaming | ⟨state, deadline, pausing⟩
      · rw [streaming]
        rfl
      · rw [pausing]
        rfl
  | receives watch streaming running ready arrival left store next =>
      cases next
      rw [streaming]
      exact Turn.receive_store ..
  | undoes flag event watch undoing answer later written =>
      cases written
      rw [undoing]
      rfl
  | resumes state deadline watch pausing running due =>
      rw [pausing]
      rfl
  | rereads watch rereading =>
      rw [rereading]
      exact Turn.reread_store ..

end Turns

namespace System

variable {V : Type} [FlagValue V] {log more : List ChangeEvent}

def Reads (system : System V) (log : List ChangeEvent) : Prop :=
  ∀ number phase, system.sync.phase? number = some phase → phase.Reads log

theorem Reads.step {system : System V} (reads : system.Reads log)
    (traces : system.world.store.Traces log) (move : Move) :
    (system.step move).Reads log := by
  intro number phase found
  cases system.kind move with
  | rests same =>
      rcases same.added number phase found with old | queued
      · exact reads number phase old
      · cases phase with
        | queued predecessor => trivial
        | _ => cases queued
  | acts act made =>
      subst made
      exact reads number phase found
  | loads made first =>
      subst made
      apply reads number phase
      rcases (step_load first).2.2 with loaded | ⟨cut, _⟩
      · rwa [loaded] at found
      · rwa [cut] at found
  | turns turning draw loop turn made inside stepped =>
      subst made
      rw [step_turn inside stepped] at found
      change (system.sync.turned turning loop turn).phase? number = _ at found
      rw [Synchronizer.phase?_turned inside] at found
      split at found
      · cases found
        exact (WatchLoop.steps stepped).reads traces
          (reads turning loop.phase (Synchronizer.phase?_of_loop inside))
      · exact reads number phase found

/-- A move leaves the store as it is, or acts on it once. -/
theorem step_store (system : System V) (move : Move) :
    (system.step move).world.store = system.world.store ∨
      ∃ act, (system.step move).world.store = system.world.store.act act := by
  cases system.kind move with
  | rests same => exact .inl same.store
  | acts act made =>
      subst made
      exact .inr ⟨act, rfl⟩
  | loads made first =>
      subst made
      exact .inl (step_load first).1
  | turns number draw loop turn made found stepped =>
      subst made
      rw [step_turn found stepped]
      have store := (WatchLoop.steps stepped).store_eq
      cases undoing : loop.phase.undoing? with
      | none =>
          rw [undoing] at store
          exact .inl store
      | some event =>
          rw [undoing] at store
          exact .inr ⟨.write event.undo, store⟩

theorem step_store_of_undoing {system : System V} {number draw : Nat}
    {event : ChangeEvent}
    (undoing : (system.sync.phase? number).bind Phase.undoing? = some event) :
    (system.step (.loop number draw)).world.store =
      (system.world.store.run event.undo).2 := by
  cases found : system.sync.loops[number]? with
  | none => simp [Synchronizer.phase?, found] at undoing
  | some loop =>
      rw [Synchronizer.phase?_of_loop found, Option.bind_some] at undoing
      cases stepped : loop.step? system.sync.config draw
          system.sync.isFinished system.sync.cursor system.world with
      | none =>
          cases phase : loop.phase <;>
            simp [WatchLoop.step?, Phase.undoing?, phase] at stepped undoing
      | some turn =>
          rw [step_turn found stepped]
          have store := (WatchLoop.steps stepped).store_eq
          rwa [undoing] at store

end System

namespace Fleet

variable {V : Type} [FlagValue V]

@[simp] theorem run_nil (fleet : Fleet V) : fleet.run [] = fleet := rfl

@[simp] theorem run_cons (fleet : Fleet V) (move : Move V)
    (later : List (Move V)) :
    fleet.run (move :: later) = (fleet.step move).run later := rfl

theorem mem_mutations {fleet : Fleet V} {moves : List (Move V)}
    {event : ChangeEvent} (made : event ∈ fleet.mutations moves) :
    ∃ earlier making later, moves = earlier ++ making :: later ∧
      event ∈ (fleet.run earlier).makes making := by
  induction moves generalizing fleet with
  | nil => cases made
  | cons move later induction =>
      rcases List.mem_append.mp made with here | after
      · exact ⟨[], move, later, rfl, here⟩
      · obtain ⟨earlier, making, rest, rfl, found⟩ := induction after
        exact ⟨move :: earlier, making, rest, rfl, found⟩

omit [FlagValue V] in
@[simp] theorem phase?_called (system : System V) (call : Call V) :
    (called system call).sync.phase? = system.sync.phase? := by
  cases call with
  | equip flags => rfl
  | detach => rfl
  | release =>
      rw [called, Synchronizer.release]
      cases system.sync.cancel with
      | none => rfl
      | some number => exact Synchronizer.phase?_cancelLoop system.sync number

theorem step_store (fleet : Fleet V) (move : Move V) :
    (fleet.step move).store = fleet.store ∨
      ∃ act, (fleet.step move).store = fleet.store.act act := by
  cases move with
  | act act => exact .inr ⟨act, rfl⟩
  | enlist config flags => exact .inl rfl
  | call member call => exact .inl rfl
  | move member move =>
      rw [step]
      cases fleet.members[member]? with
      | none => exact .inl rfl
      | some system => exact (finding fleet.store system).step_store move

/-- A mutation holds what stood under its key right before it was made. -/
theorem previous_of_mem_makes {fleet : Fleet V} {move : Move V}
    {event : ChangeEvent} (made : event ∈ fleet.makes move) :
    event.previous = fleet.store.value? event.key := by
  rw [makes] at made
  rcases fleet.step_store move with same | ⟨act, acted⟩
  · rw [same, MemoryStore.growth_self] at made
    cases made
  · rw [acted] at made
    obtain ⟨command, answers⟩ := MemoryStore.answers_of_mem_growth made
    rw [answers.previous, answers.key]

theorem step_store_of_undoing {fleet : Fleet V} {move : Move V}
    {event : ChangeEvent} (undoing : fleet.undoing? move = some event) :
    (fleet.step move).store = (fleet.store.run event.undo).2 := by
  unfold undoing? at undoing
  split at undoing
  · rename_i member number draw
    obtain ⟨system, found, phase⟩ := Option.bind_eq_some_iff.mp undoing
    have pending : ((finding fleet.store system).sync.phase? number).bind
        Phase.undoing? = some event := phase
    rw [step, found]
    exact System.step_store_of_undoing pending
  · cases undoing

omit [FlagValue V] in
theorem undone?_eq_some {fleet : Fleet V} {move : Move V}
    {event : ChangeEvent} :
    fleet.undone? move = some event ↔
      fleet.undoing? move = some event ∧
        ∃ index, (fleet.store.run event.undo).1 = .ok index := by
  have outcome : (rollback event fleet.store).1 =
      .ofAnswer event (fleet.store.run event.undo).1 := rfl
  rw [undone?, Option.filter_eq_some_iff, outcome, decide_eq_true_eq]
  refine and_congr_right fun _ => ?_
  cases answer : (fleet.store.run event.undo).1 with
  | ok index =>
      cases previous : event.previous <;>
        simp [RollbackOutcome.ofAnswer, previous]
  | error error => cases error <;> simp [RollbackOutcome.ofAnswer]

/-- What holds of a fleet whose store went through the mutations of `log`, of
which those in `reverted` were undone. -/
structure Sound (fleet : Fleet V) (log reverted : List ChangeEvent) : Prop where
  traces : fleet.store.Traces log
  reads : ∀ system ∈ fleet.members, system.Reads log
  distinct : (reverted.map ChangeEvent.index).Nodup
  gone : ∀ event ∈ reverted,
    event ∈ log ∧ fleet.store.index? event.key ≠ some event.index

omit [FlagValue V] in
theorem Sound.opened (limit : Nat) :
    (opened limit : Fleet V).Sound [] [] where
  traces := .empty limit
  reads := by
    intro system member
    cases member
  distinct := List.nodup_nil
  gone := by
    intro event member
    cases member

variable {fleet : Fleet V} {log reverted : List ChangeEvent}

theorem traces_step (traces : fleet.store.Traces log) (move : Move V) :
    (fleet.step move).store.Traces (log ++ fleet.makes move) := by
  rw [makes]
  rcases fleet.step_store move with same | ⟨act, acted⟩
  · rw [same, MemoryStore.growth_self, List.append_nil]
    exact traces
  · rw [acted]
    exact traces.growth act

theorem reads_step (traces : fleet.store.Traces log)
    (reads : ∀ system ∈ fleet.members, system.Reads log) (move : Move V) :
    ∀ system ∈ (fleet.step move).members, system.Reads log := by
  cases move with
  | act act => exact reads
  | enlist config flags =>
      intro system member
      rcases List.mem_append.mp member with old | new
      · exact reads system old
      · obtain rfl := List.mem_singleton.mp new
        intro number phase found
        cases found
  | call called call =>
      intro system member
      obtain ⟨number, found⟩ := List.mem_iff_getElem?.mp member
      rw [step, List.getElem?_modify, Option.map_eq_map,
        Option.map_eq_some_iff] at found
      obtain ⟨before, inside, rfl⟩ := found
      have old := reads before (List.mem_iff_getElem?.mpr ⟨number, inside⟩)
      split
      · unfold System.Reads
        rw [phase?_called]
        exact old
      · exact old
  | move moving move =>
      rw [step]
      cases found : fleet.members[moving]? with
      | none => exact reads
      | some before =>
          intro system member
          rcases List.mem_or_eq_of_mem_set member with old | rfl
          · exact reads system old
          · have old : (finding fleet.store before).Reads log :=
              reads before (List.mem_iff_getElem?.mpr ⟨moving, found⟩)
            exact old.step traces move

theorem index?_step {key : String} {index : Nat}
    (past : index ≤ fleet.store.index)
    (gone : fleet.store.index? key ≠ some index) (move : Move V) :
    (fleet.step move).store.index? key ≠ some index := by
  rcases fleet.step_store move with same | ⟨act, acted⟩
  · rwa [same]
  · rw [acted]
    exact MemoryStore.index?_act_ne past gone act

omit [FlagValue V] in
theorem Sound.mem_of_undoing (sound : fleet.Sound log reverted)
    {move : Move V} {event : ChangeEvent}
    (undoing : fleet.undoing? move = some event) : event ∈ log := by
  unfold undoing? at undoing
  split at undoing
  · obtain ⟨system, found, phase⟩ := Option.bind_eq_some_iff.mp undoing
    obtain ⟨phase, inside, here⟩ := Option.bind_eq_some_iff.mp phase
    have reads := sound.reads system (List.mem_of_getElem? found) _ phase inside
    cases phase with
    | undoing flag other watch =>
        cases here
        exact reads.1
    | _ => cases here
  · cases undoing

omit [FlagValue V] in
theorem Sound.not_undone (sound : fleet.Sound log reverted) {move : Move V}
    {event : ChangeEvent} (undone : fleet.undone? move = some event) :
    event.index ∉ reverted.map ChangeEvent.index := by
  obtain ⟨undoing, index, done⟩ := undone?_eq_some.mp undone
  -- Its key lost this index when it was undone before, and an index does not
  -- come back.
  intro again
  obtain ⟨other, member, same⟩ := List.mem_map.mp again
  obtain ⟨logged, gone⟩ := sound.gone other member
  obtain rfl : other = event := sound.traces.numbered.unique logged
    (sound.mem_of_undoing undoing) same
  exact gone (MemoryStore.index?_of_undo done)

theorem Sound.step (sound : fleet.Sound log reverted) (move : Move V) :
    (fleet.step move).Sound (log ++ fleet.makes move)
      (reverted ++ (fleet.undone? move).toList) where
  traces := traces_step sound.traces move
  reads := by
    have numbered :=
      (NumberedFrom.append.mp (traces_step sound.traces move).numbered).2
    rw [Nat.zero_add] at numbered
    intro system member number phase found
    have reads := reads_step sound.traces sound.reads move system member
    exact (reads number phase found).append numbered
  distinct := by
    cases undone : fleet.undone? move with
    | none => simpa using sound.distinct
    | some event =>
        have fresh := sound.not_undone undone
        rw [Option.toList_some, List.map_append, List.nodup_append]
        refine ⟨sound.distinct, List.nodup_singleton _, ?_⟩
        intro index member last lastMember same
        rw [List.map_singleton, List.mem_singleton] at lastMember
        exact fresh (lastMember ▸ same ▸ member)
  gone := by
    intro event member
    rcases List.mem_append.mp member with old | new
    · obtain ⟨logged, gone⟩ := sound.gone event old
      have within := (sound.traces.numbered.bounds logged).2
      have total := sound.traces.index
      exact ⟨List.mem_append_left _ logged,
        index?_step (by omega) gone move⟩
    · rw [Option.mem_toList] at new
      obtain ⟨undoing, index, done⟩ := undone?_eq_some.mp new
      have logged := sound.mem_of_undoing undoing
      obtain ⟨_, _, gone⟩ := sound.traces.undo logged done
      rw [step_store_of_undoing undoing]
      exact ⟨List.mem_append_left _ logged, gone⟩

theorem Sound.run (sound : fleet.Sound log reverted)
    (moves : List (Move V)) :
    (fleet.run moves).Sound (log ++ fleet.mutations moves)
      (reverted ++ fleet.rollbacks moves) := by
  -- Both the log and the list of what was undone grow with every move.
  induction moves generalizing fleet log reverted with
  | nil => simpa [mutations, rollbacks] using sound
  | cons move later induction =>
      rw [mutations, rollbacks, ← List.append_assoc, ← List.append_assoc]
      exact induction (sound.step move)

/-- In any run of a fleet, undoing a mutation has no effect unless it is still
the latest of its key, and then it brings back exactly what stood there before.
No mutation is undone twice. -/
theorem undoes_only_latest (limit : Nat) (moves : List (Move V)) :
    (((opened limit : Fleet V).rollbacks moves).map
        ChangeEvent.index).Nodup ∧
      ∀ move event, ((opened limit).run moves).undoing? move = some event →
        (opened limit).Undoes moves move event := by
  have sound := (Sound.opened (V := V) limit).run moves
  rw [List.nil_append, List.nil_append] at sound
  refine ⟨sound.distinct, ?_⟩
  intro move event undoing
  have stored := step_store_of_undoing undoing
  have member := sound.mem_of_undoing undoing
  refine ⟨member, ?_, ?_, ?_, ?_⟩
  · intro failing
    rw [stored]
    rcases ((opened limit).run moves).store.run_cases event.undo with
      ⟨error, failed⟩ | ⟨echo, _, done⟩
    · rw [failed]
    · have undone := undone?_eq_some.mpr ⟨undoing, _, congrArg Prod.fst done⟩
      rw [failing] at undone
      cases undone
  · intro undone
    obtain ⟨_, index, done⟩ := undone?_eq_some.mp undone
    exact (sound.traces.undo member done).1
  · intro undone
    obtain ⟨_, index, done⟩ := undone?_eq_some.mp undone
    obtain ⟨_, previous, _⟩ := sound.traces.undo member done
    obtain ⟨earlier, making, later, split, made⟩ := mem_mutations member
    refine ⟨earlier, making, later, split, made, ?_⟩
    rw [stored, previous]
    exact previous_of_mem_makes made
  · intro key other
    rw [stored]
    apply MemoryStore.get?_run_other
    rwa [MemoryStore.undo_key]

/-- Two synchronizers refuse the same value, and the first one undoes it. -/
def dispute : List (Move Setting) :=
  [.enlist { directory := "/c" } (.switch "a"),
    .enlist { directory := "/c" } (.switch "a"),
    .move 0 .load, .move 0 (.start true), .move 0 (.loop 0 0),
    .move 0 (.loop 0 0), .move 1 .load, .move 1 (.start true),
    .move 1 (.loop 0 0), .move 1 (.loop 0 0),
    .act (.write (.set "/c/a" "true" none)),
    .act (.write (.set "/c/a" "on" none)),
    .move 0 (.loop 0 0), .move 0 (.loop 0 0), .move 1 (.loop 0 0),
    .move 1 (.loop 0 0), .move 0 (.loop 0 0)]

/-- The second one has nothing left to undo. -/
theorem dispute_undone_once :
    ((opened 4).rollbacks dispute).map ChangeEvent.index = [2] ∧
      (((opened 4).run dispute).step (.move 1 (.loop 0 0))).store =
        ((opened 4).run dispute).store := by
  obtain ⟨_, undoes⟩ := undoes_only_latest 4 dispute
  have second := undoes (.move 1 (.loop 0 0))
    ⟨.set, "/c/a", some "on", false, 2, some "true"⟩ (by decide +kernel)
  exact ⟨by decide +kernel, second.failing (by decide +kernel)⟩

end Fleet

end LiveFlags
