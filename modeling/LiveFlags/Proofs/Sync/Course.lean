import LiveFlags.Proofs.Store.Watch
import LiveFlags.Proofs.Sync.Applying
import LiveFlags.Proofs.Sync.Lifecycle

/-!
# What a loop does in a turn

Against a memory store a turn is one of four things: it takes the next mutation
of the directory from the watch, it undoes a mutation, it reads everything
again, or it changes nothing but where the loop is.  At every step of a run the
cursor stays within the log and the loop at work holds a watch that owes
exactly what the log holds above the cursor.
-/

namespace LiveFlags

/-- A watch of a directory that yielded everything up to `cursor` and owes the
rest of the log. -/
structure MemoryWatch.Attends (watch : MemoryWatch) (directory : String)
    (log : List ChangeEvent) (cursor : Nat) : Prop where
  path : watch.path = directory
  recursive : watch.recursive = true
  follows : watch.Follows log cursor

namespace MemoryWatch

theorem Attends.append {watch : MemoryWatch} {directory : String}
    {log more : List ChangeEvent} {cursor : Nat}
    (attends : watch.Attends directory log cursor)
    (numbered : NumberedFrom log.length more) :
    watch.Attends directory (log ++ more) cursor :=
  ⟨attends.path, attends.recursive, attends.follows.append numbered⟩

/-- A watch of a directory covers the key of every flag. -/
theorem Attends.covers {watch : MemoryWatch} {directory : String}
    {log : List ChangeEvent} {cursor : Nat}
    (attends : watch.Attends directory log cursor)
    (isDirectory : Key.IsDirectory directory) (name : String) :
    watch.covers (directory ++ name) = true := by
  have below : Key.isBelow directory (directory ++ name) = true :=
    Key.isBelow_iff.mpr ⟨name, rfl⟩
  simp [MemoryWatch.covers, Key.isWatched, attends.path, attends.recursive,
    isDirectory, below]

end MemoryWatch

namespace Phase

/-- What holds of where a loop is when the cursor stands within a log. -/
def IsSound (directory : String) (log : List ChangeEvent) (cursor : Nat) :
    Phase MemoryWatch → Prop
  | streaming watch => watch.IsLost ∨ watch.Attends directory log cursor
  | undoing name event watch =>
      watch.Attends directory log cursor ∧ event ∈ log ∧
        event.index ≤ cursor ∧ event.key = directory ++ name
  | pausing state _ _ => state = .recovering
  | _ => True

/-- Whether the loop is about to undo a mutation. -/
def isUndoing {W : Type} : Phase W → Bool
  | undoing .. => true
  | _ => false

/-- Where a loop goes on after a mutation that it took. -/
def afterVerdict (event : ChangeEvent) (watch : MemoryWatch) :
    Verdict → Phase MemoryWatch
  | .settled => .streaming watch
  | .refused name => .undoing name event watch
  | .crashed detail => .crashed detail

theorem afterVerdict_eq_undoing {event undone : ChangeEvent}
    {watch later : MemoryWatch} {verdict : Verdict} {name : String}
    (undoing : afterVerdict event watch verdict = .undoing name undone later) :
    verdict = .refused name ∧ undone = event := by
  cases verdict with
  | settled => cases undoing
  | refused refusing =>
      cases undoing
      exact ⟨rfl, rfl⟩
  | crashed detail => cases undoing

variable {directory : String} {log : List ChangeEvent} {cursor : Nat}

theorem IsSound.of_isDormant {phase : Phase MemoryWatch}
    (dormant : phase.isDormant = true) :
    phase.IsSound directory log cursor := by
  cases phase with
  | streaming watch => cases dormant
  | undoing name event watch => cases dormant
  | pausing state deadline watch => cases dormant
  | _ => trivial

theorem IsSound.append {phase : Phase MemoryWatch} {more : List ChangeEvent}
    (sound : phase.IsSound directory log cursor)
    (numbered : NumberedFrom log.length more) :
    phase.IsSound directory (log ++ more) cursor := by
  cases phase with
  | streaming watch =>
      exact sound.imp_right fun attends => attends.append numbered
  | undoing name event watch =>
      obtain ⟨attends, member, taken, key⟩ := sound
      exact ⟨attends.append numbered, List.mem_append_left _ member, taken, key⟩
  | _ => exact sound

end Phase

variable {V : Type} [FlagValue V]

/-- What a turn of a loop does. -/
inductive Progress (directory : String) (log : List ChangeEvent)
    (phase : Phase MemoryWatch) (cursor : Nat) (world : World V MemoryStore)
    (turn : Turn V MemoryStore MemoryWatch) : Prop
  /-- Only where the loop is changes. -/
  | moves (sameCursor : turn.cursor = cursor)
      (sameStore : turn.world.store = world.store)
      (sameFlags : turn.world.flags = world.flags)
      (notBefore : phase.isUndoing = false)
      (notAfter : turn.phase.isUndoing = false)
      (sound : turn.phase.IsSound directory log cursor)
  /-- The next mutation of the directory is taken. -/
  | takes (watch later : MemoryWatch) (event : ChangeEvent)
      (streaming : phase = .streaming watch)
      (yielded : world.store.next watch = (.event event, later))
      (next : watch.IsNext log cursor event)
      (attends : watch.Attends directory log cursor)
      (goesOn : later.Attends directory log event.index)
      (newCursor : turn.cursor = event.index)
      (sameStore : turn.world.store = world.store)
      (newFlags : turn.world.flags =
        (handleEvent directory world.flags event).flags)
      (newPhase : turn.phase = .afterVerdict event later
        (handleEvent directory world.flags event).verdict)
  /-- A mutation is undone. -/
  | undoes (name : String) (event : ChangeEvent) (watch : MemoryWatch)
      (undoing : phase = .undoing name event watch)
      (sameCursor : turn.cursor = cursor)
      (newStore : turn.world.store = (world.store.run event.undo).2)
      (sameFlags : turn.world.flags = world.flags)
      (newPhase : turn.phase = .streaming watch)
  /-- Everything is read again. -/
  | rereads (watch : MemoryWatch) (rereading : phase = .rereading watch)
      (sameStore : turn.world.store = world.store)
      (newFlags : turn.world.flags = (world.loading directory true).flags)
      (outcome : turn.cursor = world.store.index ∧ turn.phase = .opening ∨
        turn.cursor = cursor ∧ (∃ detail, turn.phase = .crashed detail) ∧
          (world.loading directory true).crash.isSome = true)

namespace Turn

/-- Taking a mutation from a memory store. -/
theorem take_eq (directory : String) {cursor : Nat}
    (world : World V MemoryStore) (watch : MemoryWatch) {event : ChangeEvent}
    (fresh : cursor < event.index) :
    (take directory cursor world watch event).cursor = event.index ∧
      (take directory cursor world watch event).world.store = world.store ∧
        (take directory cursor world watch event).world.flags =
          (handleEvent directory world.flags event).flags ∧
            (take directory cursor world watch event).phase =
              .afterVerdict event watch
                (handleEvent directory world.flags event).verdict := by
  have greater : max cursor event.index = event.index :=
    Nat.max_eq_right (Nat.le_of_lt fresh)
  unfold take
  rw [greater]
  dsimp only
  cases (handleEvent directory world.flags event).verdict <;>
    cases (handleEvent directory world.flags event).notice <;>
      exact ⟨rfl, rfl, rfl, rfl⟩

/-- What a loop does with what its watch yields. -/
theorem receive_progress {cursor : Nat} {world : World V MemoryStore}
    {log : List ChangeEvent} {watch : MemoryWatch} {config : Config}
    (traces : world.store.Traces log)
    (sound : (Phase.streaming watch).IsSound config.normalized log cursor)
    (draw : Nat) :
    Progress config.normalized log (.streaming watch) cursor world
      (receive config draw cursor
        { world with store := world.store } (world.store.next watch).2
        (world.store.next watch).1) := by
  have path := MemoryStore.next_path world.store watch
  have recursive := MemoryStore.next_recursive world.store watch
  rcases sound with ⟨_, requested, oldest, backlog⟩ | attends
  · have lost : (world.store.next watch).1 =
        .failure (.compacted requested oldest) := by
      rw [MemoryStore.next, backlog]
      rfl
    rw [lost]
    exact .moves rfl rfl rfl rfl rfl rfl
  · rcases MemoryStore.next_cases traces attends.follows with
      ⟨event, later, yielded, next, follows⟩ |
        ⟨requested, oldest, later, yielded⟩ |
          ⟨later, yielded, nothing, follows⟩
    · rw [yielded] at path recursive ⊢
      obtain ⟨newCursor, sameStore, newFlags, newPhase⟩ :=
        take_eq config.normalized world later next.fresh
      exact .takes watch later event rfl yielded next attends
        ⟨path.trans attends.path, recursive.trans attends.recursive, follows⟩
        newCursor sameStore newFlags newPhase
    · rw [yielded]
      exact .moves rfl rfl rfl rfl rfl rfl
    · rw [yielded] at path recursive ⊢
      exact .moves rfl rfl rfl rfl rfl (.inr
        ⟨path.trans attends.path, recursive.trans attends.recursive, follows⟩)

/-- What reading everything again does. -/
theorem reread_progress {log : List ChangeEvent} (directory : String)
    (cursor : Nat) (world : World V MemoryStore) (watch : MemoryWatch) :
    Progress directory log (.rereading watch) cursor world
      (reread directory cursor world) := by
  have flags := world.load_flags directory true
  have store := world.load_store directory true
  have result := world.load_result directory true
  unfold reread
  split
  · rename_i index applied failures later answer
    rw [answer] at flags store result
    rcases result with ⟨_, _, same⟩ | ⟨_, crashed, _⟩
    · cases same
      exact .rereads watch rfl store flags (.inl ⟨rfl, rfl⟩)
    · cases crashed
  · rename_i error later answer
    rw [answer] at result
    rcases result with ⟨_, _, loaded⟩ | ⟨_, crashed, _⟩
    · cases loaded
    · cases crashed
  · rename_i detail later answer
    rw [answer] at flags store result
    rcases result with ⟨_, _, loaded⟩ | ⟨_, _, cut⟩
    · cases loaded
    · refine .rereads watch rfl store flags (.inr ⟨rfl, ⟨detail, rfl⟩, ?_⟩)
      rw [cut]
      rfl

end Turn

/-- Against a memory store, every turn of a loop is one of the four. -/
theorem WatchLoop.progress {config : Config} {draw cursor : Nat}
    {finished : Nat → Bool} {loop : WatchLoop MemoryWatch}
    {world : World V MemoryStore} {turn : Turn V MemoryStore MemoryWatch}
    {log : List ChangeEvent} (traces : world.store.Traces log)
    (sound : loop.phase.IsSound config.normalized log cursor)
    (stepped : loop.step? config draw finished cursor world = some turn) :
    Progress config.normalized log loop.phase cursor world turn := by
  cases steps stepped with
  | begins predecessor queued =>
      rw [queued]
      exact .moves rfl rfl rfl rfl rfl trivial
  | opens opening watch later opened =>
      cases opened
      rw [opening]
      refine .moves rfl rfl rfl rfl rfl ?_
      rcases world.store.watch_cases traces config.normalized
        ⟨cursor, true⟩ with
        lost | follows
      · exact .inl lost
      · exact .inr ⟨MemoryStore.watch_path _ _ _,
          MemoryStore.watch_recursive _ _ _, follows⟩
  | stops watch attending =>
      rcases attending with streaming | ⟨state, deadline, pausing⟩
      · rw [streaming]
        exact .moves rfl rfl rfl rfl rfl trivial
      · rw [pausing]
        exact .moves rfl rfl rfl rfl rfl trivial
  | receives watch streaming running ready arrival left store next =>
      cases next
      rw [streaming] at sound ⊢
      exact Turn.receive_progress traces sound draw
  | undoes name event watch undoing answer later written =>
      cases written
      exact .undoes name event watch undoing rfl rfl rfl rfl
  | resumes state deadline watch pausing =>
      rw [pausing] at sound ⊢
      cases sound
      exact .moves rfl rfl rfl rfl rfl trivial
  | rereads watch rereading =>
      rw [rereading]
      exact Turn.reread_progress config.normalized cursor world watch

namespace System

/-- The directory that a system keeps in step. -/
def directory (system : System V) : String := system.sync.directory

section Courses

omit [FlagValue V]

/-- Nothing changes that a loop works with, and loops are only added. -/
structure SameCourse (earlier later : System V) : Prop where
  store : later.world.store = earlier.world.store
  flags : later.world.flags = earlier.world.flags
  config : later.sync.config = earlier.sync.config
  cursor : later.sync.cursor = earlier.sync.cursor
  initialized : later.sync.initialized = earlier.sync.initialized
  orderly : earlier.sync.IsOrderly → later.sync.IsOrderly
  empty : earlier.sync.initialized = false → earlier.sync.loops = [] →
    later.sync.loops = []
  kept : ∀ number phase, earlier.sync.phase? number = some phase →
    later.sync.phase? number = some phase
  added : ∀ number phase, later.sync.phase? number = some phase →
    earlier.sync.phase? number = some phase ∨ phase.isQueued = true

theorem SameCourse.of_sameLoops {earlier later : System V}
    (same : earlier.sync.SameLoops later.sync)
    (store : later.world.store = earlier.world.store)
    (flags : later.world.flags = earlier.world.flags) :
    SameCourse earlier later where
  store := store
  flags := flags
  config := same.config
  cursor := same.cursor
  initialized := same.initialized
  orderly := same.orderly
  empty := same.empty
  kept := same.kept
  added := same.added

theorem SameCourse.refl (system : System V) : SameCourse system system :=
  .of_sameLoops (.refl system.sync) rfl rfl

theorem SameCourse.stop (system : System V) :
    SameCourse system ⟨(system.sync.stop system.world).2.1,
      (system.sync.stop system.world).2.2⟩ := by
  have same := Synchronizer.SameLoops.stop system.sync system.world
  rcases system.sync.stop_cases system.world with ⟨number, stopped⟩ | stopped
  · rw [stopped] at same ⊢
    exact .of_sameLoops same rfl rfl
  · rw [stopped] at same ⊢
    exact .of_sameLoops same rfl rfl

/-- What a move asks of the store. -/
def command? (system : System V) : Move → Option WriteCommand
  | .act (.write command) => some command
  | .loop number _ =>
      match system.sync.phase? number with
      | some (.undoing _ event _) => some event.undo
      | _ => none
  | _ => none

/-- What a move adds to the log. -/
def Adds (system : System V) (move : Move) (more : List ChangeEvent) : Prop :=
  match system.command? move with
  | some command => system.world.store.Adds command more
  | none => more = []

theorem adds_nil {system : System V} {move : Move}
    (asks : system.command? move = none) : system.Adds move [] := by
  rw [Adds, asks]

theorem command?_loop_eq_none {system : System V} {number draw : Nat}
    {phase : Phase MemoryWatch}
    (found : system.sync.phase? number = some phase)
    (notUndoing : phase.isUndoing = false) :
    system.command? (.loop number draw) = none := by
  rw [command?, found]
  cases phase with
  | undoing name event watch => cases notUndoing
  | _ => rfl

theorem command?_loop_undoing {system : System V} {number draw : Nat}
    {name : String} {event : ChangeEvent} {watch : MemoryWatch}
    (found : system.sync.phase? number = some (.undoing name event watch)) :
    system.command? (.loop number draw) = some event.undo := by
  rw [command?, found]

end Courses

/-- What a move amounts to. -/
inductive Kind (system : System V) (move : Move) : Prop
  | rests (same : SameCourse system (system.step move))
      (asks : system.command? move = none)
  | acts (act : MemoryStore.Act) (made : move = .act act)
  | loads (made : move = .load)
      (first : system.sync.initialized = false)
  | turns (number draw : Nat) (loop : WatchLoop MemoryWatch)
      (turn : Turn V MemoryStore MemoryWatch) (made : move = .loop number draw)
      (found : system.sync.loops[number]? = some loop)
      (stepped : loop.step? system.sync.config draw system.sync.isFinished
        system.sync.cursor system.world = some turn)

/-- A loop that cannot take a turn asks nothing of the store. -/
theorem command?_of_stepLoop?_eq_none {system : System V} {number draw : Nat}
    (stepped : system.sync.stepLoop? draw number system.world = none) :
    system.command? (.loop number draw) = none := by
  cases found : system.sync.loops[number]? with
  | none => simp [command?, Synchronizer.phase?, found]
  | some loop =>
      have here : system.sync.phase? number = some loop.phase :=
        Synchronizer.phase?_of_loop found
      refine command?_loop_eq_none here ?_
      cases phase : loop.phase with
      | undoing name event watch =>
          simp [Synchronizer.stepLoop?, found, WatchLoop.step?, phase]
            at stepped
      | _ => rfl

/-- Every move is of one of the four kinds. -/
theorem kind (system : System V) (move : Move) : system.Kind move := by
  cases move with
  | act act => exact .acts act rfl
  | pass milliseconds =>
      exact .rests (.of_sameLoops (.refl system.sync) rfl rfl) rfl
  | load =>
      cases initialized : system.sync.initialized with
      | false => exact .loads rfl initialized
      | true =>
          have same : system.step .load = system := by
            simp [step, Synchronizer.loadInitially, initialized]
          refine .rests ?_ rfl
          rw [same]
          exact .refl system
  | start hasRuntime =>
      refine .rests ?_ rfl
      cases started : system.sync.start hasRuntime with
      | ok next =>
          rw [step, started]
          exact .of_sameLoops (.start started) rfl rfl
      | error error =>
          rw [step, started]
          exact .refl system
  | stop => exact .rests (.stop system) rfl
  | join =>
      refine .rests ?_ rfl
      rw [step]
      split
      · rename_i complete
        exact .of_sameLoops (.join complete) rfl rfl
      · exact .refl system
  | loop number draw =>
      cases stepped : system.sync.stepLoop? draw number system.world with
      | none =>
          refine .rests ?_ (command?_of_stepLoop?_eq_none stepped)
          rw [step, stepped]
          exact .refl system
      | some next =>
          obtain ⟨loop, turn, found, turned, _, _⟩ :=
            Synchronizer.stepLoop?_eq_some.mp stepped
          exact .turns number draw loop turn rfl found turned

theorem step_turn {system : System V} {number draw : Nat}
    {loop : WatchLoop MemoryWatch} {turn : Turn V MemoryStore MemoryWatch}
    (found : system.sync.loops[number]? = some loop)
    (stepped : loop.step? system.sync.config draw system.sync.isFinished
      system.sync.cursor system.world = some turn) :
    system.step (.loop number draw) =
      ⟨system.sync.turned number loop turn, turn.world⟩ := by
  have answer := Synchronizer.stepLoop?_eq_some.mpr
    ⟨loop, turn, found, stepped, rfl, rfl⟩
  rw [step, answer]

/-- The first load is cut short and leaves the synchronizer as it was, or moves
the cursor to the index of the store. -/
theorem step_load {system : System V}
    (first : system.sync.initialized = false) :
    (system.step .load).world.store = system.world.store ∧
      (system.step .load).world.flags =
        (system.world.loading system.directory false).flags ∧
      ((system.step .load).sync = { system.sync with
          initialized := true
          cursor := system.world.store.index } ∨
        (system.step .load).sync = system.sync ∧
          (system.world.loading system.directory false).crash.isSome =
            true) := by
  have flags := system.world.load_flags system.directory false
  have store := system.world.load_store system.directory false
  have result := system.world.load_result system.directory false
  rw [step, Synchronizer.loadInitially, if_neg (by simp [first])]
  change (system.world.load system.sync.directory false).2.flags = _ at flags
  change (system.world.load system.sync.directory false).2.store = _ at store
  change (∃ _ _, (system.world.load system.sync.directory false).1 = _) ∨
    ∃ _, (system.world.load system.sync.directory false).1 = _ ∧ _ at result
  generalize system.world.load system.sync.directory false = answer at *
  obtain ⟨outcome, later⟩ := answer
  rcases result with ⟨applied, failures, loaded⟩ | ⟨detail, crashed, cut⟩
  · dsimp only at loaded
    subst loaded
    exact ⟨store, flags, .inl rfl⟩
  · dsimp only at crashed
    subst crashed
    refine ⟨store, flags, .inr ⟨rfl, ?_⟩⟩
    rw [cut]
    rfl

@[simp] theorem step_directory (system : System V) (move : Move) :
    (system.step move).directory = system.directory := by
  refine congrArg Config.normalized ?_
  cases system.kind move with
  | rests same => exact same.config
  | acts act made => rw [made]; rfl
  | loads made first =>
      rw [made]
      rcases (step_load first).2.2 with loaded | ⟨cut, _⟩
      · rw [loaded]
      · rw [cut]
  | turns number draw loop turn made found stepped =>
      rw [made, step_turn found stepped]
      rfl

@[simp] theorem run_directory (system : System V) (moves : List Move) :
    (system.run moves).directory = system.directory := by
  induction moves generalizing system with
  | nil => rfl
  | cons move later induction => rw [run_cons, induction, step_directory]

end System

end LiveFlags
