import LiveFlags.Proofs.Sync.Course

/-!
# The cursor of a run

In every run the store traces one growing log, the cursor stays within it, and
whatever loop is at work is sound with respect to both.  So when a loop waits
and its watch has nothing to yield, the cursor has passed every mutation of the
directory.
-/

namespace LiveFlags.System

variable {V : Type} [FlagValue V]

omit [FlagValue V] in
theorem isDirectory_directory (system : System V) :
    Key.IsDirectory system.directory :=
  Key.isDirectory_asDirectory _

/-- What holds at every step of a run. -/
structure Sound (system : System V) (log : List ChangeEvent) : Prop where
  traces : system.world.store.Traces log
  orderly : system.sync.IsOrderly
  empty : system.sync.initialized = false → system.sync.loops = []
  within : system.sync.cursor ≤ log.length
  phases : ∀ number phase, system.sync.phase? number = some phase →
    phase.IsSound system.directory log system.sync.cursor

/-- Whether a loop waits for its watch, which has nothing to yield. -/
def waits (system : System V) (number : Nat) : Bool :=
  match system.sync.phase? number with
  | some (.streaming watch) =>
      decide ((system.world.store.next watch).1 = .pending)
  | _ => false

def IsIdle (system : System V) : Prop :=
  ∃ number, system.waits number = true

omit [FlagValue V] in
theorem waits_iff {system : System V} {number : Nat} :
    system.waits number = true ↔
      ∃ watch, system.sync.phase? number = some (.streaming watch) ∧
        (system.world.store.next watch).1 = .pending := by
  unfold waits
  split
  · rename_i watch found
    simp [found]
  · rename_i other
    simp only [Bool.false_eq_true, false_iff]
    rintro ⟨watch, found, _⟩
    exact other watch found

omit [FlagValue V] in
theorem Sound.fresh {world : World V MemoryStore} {log : List ChangeEvent}
    (traces : world.store.Traces log) (config : Config) :
    (System.fresh config world).Sound log where
  traces := traces
  orderly := .created config
  empty := fun _ => rfl
  within := Nat.zero_le _
  phases := by
    intro number phase found
    cases found

omit [FlagValue V] in
theorem Sound.same {earlier later : System V} {log : List ChangeEvent}
    (sound : earlier.Sound log) (same : SameCourse earlier later) :
    later.Sound log where
  traces := by
    rw [same.store]
    exact sound.traces
  orderly := same.orderly sound.orderly
  empty := by
    intro first
    rw [same.initialized] at first
    exact same.empty first (sound.empty first)
  within := by
    rw [same.cursor]
    exact sound.within
  phases := by
    intro number phase found
    have directory : later.directory = earlier.directory :=
      congrArg Config.normalized same.config
    rw [same.cursor, directory]
    rcases same.added number phase found with old | queued
    · exact sound.phases number phase old
    · refine .of_isDormant ?_
      rw [Phase.isDormant, queued]
      rfl

omit [FlagValue V] in
/-- Other loops are not at work while one is. -/
theorem Sound.dormant {system : System V} {log : List ChangeEvent}
    (sound : system.Sound log) {number : Nat} {phase : Phase MemoryWatch}
    (found : system.sync.phase? number = some phase)
    (busy : phase.isDormant = false) {other : Nat}
    {otherPhase : Phase MemoryWatch}
    (otherFound : system.sync.phase? other = some otherPhase)
    (different : other ≠ number) : otherPhase.isDormant = true :=
  sound.orderly.dormant found busy otherFound different

omit [FlagValue V] in
/-- What is left to show after the turn of a loop. -/
theorem Sound.turned {system : System V} {log : List ChangeEvent}
    (sound : system.Sound log) {more : List ChangeEvent} {number : Nat}
    {loop : WatchLoop MemoryWatch} {turn : Turn V MemoryStore MemoryWatch}
    (found : system.sync.loops[number]? = some loop)
    (traces : turn.world.store.Traces (log ++ more))
    (orderly : (system.sync.turned number loop turn).IsOrderly)
    (cursor : turn.cursor = system.sync.cursor ∨
      loop.phase.isDormant = false ∧ turn.cursor ≤ log.length)
    (phase : turn.phase.IsSound system.directory (log ++ more) turn.cursor) :
    System.Sound ⟨system.sync.turned number loop turn, turn.world⟩
      (log ++ more) where
  traces := traces
  orderly := orderly
  empty := by
    intro first
    rw [sound.empty first] at found
    cases found
  within := by
    have within := sound.within
    change turn.cursor ≤ _
    rw [List.length_append]
    rcases cursor with same | ⟨_, bound⟩ <;> omega
  phases := by
    have here : system.sync.phase? number = some loop.phase :=
      Synchronizer.phase?_of_loop found
    have numbered := (NumberedFrom.append.mp traces.numbered).2
    rw [Nat.zero_add] at numbered
    intro other otherPhase otherFound
    rw [Synchronizer.phase?_turned found] at otherFound
    change otherPhase.IsSound system.directory (log ++ more) turn.cursor
    split at otherFound
    · cases otherFound
      exact phase
    · rename_i different
      rcases cursor with same | ⟨busy, _⟩
      · rw [same]
        exact (sound.phases other otherPhase otherFound).append numbered
      · exact .of_isDormant (sound.dormant here busy otherFound different)

omit [FlagValue V] in
theorem Sound.phase_isSound {system : System V} {log : List ChangeEvent}
    (sound : system.Sound log) {number : Nat} {loop : WatchLoop MemoryWatch}
    (found : system.sync.loops[number]? = some loop) :
    loop.phase.IsSound system.directory log system.sync.cursor :=
  sound.phases number loop.phase (Synchronizer.phase?_of_loop found)

/-- The turn of a loop, as what it does and what it leaves. -/
theorem Sound.progress {system : System V} {log : List ChangeEvent}
    (sound : system.Sound log) {number draw : Nat}
    {loop : WatchLoop MemoryWatch} {turn : Turn V MemoryStore MemoryWatch}
    (found : system.sync.loops[number]? = some loop)
    (stepped : loop.step? system.sync.config draw system.sync.isFinished
      system.sync.cursor system.world = some turn) :
    Progress system.directory log loop.phase system.sync.cursor system.world
      turn :=
  WatchLoop.progress sound.traces (sound.phase_isSound found) stepped

theorem afterVerdict_isSound {directory : String} {log : List ChangeEvent}
    {flags : FlagSet V} {event : ChangeEvent} {watch : MemoryWatch}
    (attends : watch.Attends directory log event.index) (member : event ∈ log) :
    (Phase.afterVerdict event watch
      (handleEvent directory flags event).verdict).IsSound directory log
        event.index := by
  cases verdict : (handleEvent directory flags event).verdict with
  | settled => exact .inr attends
  | refused name =>
      obtain ⟨_, _, concerns, _⟩ := handleEvent_refused.mp verdict
      obtain ⟨_, key, _⟩ := flagName_eq_ok_iff.mp concerns.named
      exact ⟨attends, member, Nat.le_refl _, key⟩
  | crashed detail => trivial

omit [FlagValue V] in
/-- Only the log may grow when nothing happens to the synchronizer. -/
theorem Sound.grown {earlier later : System V} {log more : List ChangeEvent}
    (sound : earlier.Sound log) (same : later.sync = earlier.sync)
    (traces : later.world.store.Traces (log ++ more)) :
    later.Sound (log ++ more) where
  traces := traces
  orderly := by
    rw [same]
    exact sound.orderly
  empty := by
    rw [same]
    exact sound.empty
  within := by
    rw [same, List.length_append]
    exact Nat.le_add_right_of_le sound.within
  phases := by
    have numbered := (NumberedFrom.append.mp traces.numbered).2
    rw [Nat.zero_add] at numbered
    rw [directory, same]
    intro number phase found
    exact (sound.phases number phase found).append numbered

/-- No loop was started yet, so nothing depends on where the cursor is. -/
theorem Sound.load {system : System V} {log : List ChangeEvent}
    (sound : system.Sound log) (first : system.sync.initialized = false) :
    (system.step .load).Sound (log ++ []) := by
  obtain ⟨store, _, outcome⟩ := step_load first
  have none := sound.empty first
  have traces : (system.step .load).world.store.Traces (log ++ []) := by
    rw [store, List.append_nil]
    exact sound.traces
  rcases outcome with loaded | ⟨cut, _⟩
  · refine ⟨traces, ?_, ?_, ?_, ?_⟩
    · rw [loaded]
      exact sound.orderly.of_same_phases rfl rfl rfl
    · rw [loaded]
      exact fun _ => none
    · rw [loaded, sound.traces.index, List.append_nil]
    · intro number phase found
      rw [Synchronizer.phase?, loaded, none] at found
      cases found
  · exact sound.grown cut traces

theorem Sound.turn {system : System V} {log : List ChangeEvent}
    (sound : system.Sound log) {number draw : Nat}
    {loop : WatchLoop MemoryWatch} {turn : Turn V MemoryStore MemoryWatch}
    (found : system.sync.loops[number]? = some loop)
    (stepped : loop.step? system.sync.config draw system.sync.isFinished
      system.sync.cursor system.world = some turn) :
    ∃ more, system.Adds (.loop number draw) more ∧
      (system.step (.loop number draw)).Sound (log ++ more) := by
  have here : system.sync.phase? number = some loop.phase :=
    Synchronizer.phase?_of_loop found
  rw [step_turn found stepped]
  have orderly := sound.orderly.turn found stepped
  cases sound.progress found stepped with
  | moves sameCursor sameStore _ notBefore _ phase =>
      refine ⟨[], adds_nil ?_,
        sound.turned found ?_ orderly (.inl sameCursor) ?_⟩
      · exact command?_loop_eq_none here notBefore
      · rw [sameStore, List.append_nil]
        exact sound.traces
      · rw [sameCursor, List.append_nil]
        exact phase
  | takes watch later event streaming _ next _ goesOn newCursor sameStore _
      newPhase =>
      have upper := (sound.traces.numbered.bounds next.member).2
      rw [streaming] at here
      refine ⟨[], adds_nil ?_,
        sound.turned found ?_ orderly (.inr ⟨?_, ?_⟩) ?_⟩
      · exact command?_loop_eq_none here rfl
      · rw [sameStore, List.append_nil]
        exact sound.traces
      · rw [streaming]
        rfl
      · omega
      · rw [List.append_nil, newCursor, newPhase]
        exact afterVerdict_isSound goesOn next.member
  | undoes name event watch undoing sameCursor newStore _ newPhase =>
      have phase := sound.phase_isSound found
      rw [undoing] at phase here
      obtain ⟨attends, _⟩ := phase
      -- The watch goes on to owe the write that undoes the mutation.
      obtain ⟨more, adds⟩ := system.world.store.exists_adds event.undo
      have traces := sound.traces.run adds
      have numbered := (NumberedFrom.append.mp traces.numbered).2
      rw [Nat.zero_add] at numbered
      refine ⟨more, ?_, sound.turned found ?_ orderly (.inl sameCursor) ?_⟩
      · rw [Adds, command?_loop_undoing here]
        exact adds
      · rw [newStore]
        exact traces
      · rw [newPhase, sameCursor]
        exact .inr (attends.append numbered)
  | rereads watch rereading sameStore _ outcome =>
      rw [rereading] at here
      refine ⟨[], adds_nil ?_, sound.turned found ?_ orderly ?_ ?_⟩
      · exact command?_loop_eq_none here rfl
      · rw [sameStore, List.append_nil]
        exact sound.traces
      · rcases outcome with ⟨newCursor, _⟩ | ⟨sameCursor, _⟩
        · right
          rw [rereading, newCursor, sound.traces.index]
          exact ⟨rfl, Nat.le_refl _⟩
        · exact .inl sameCursor
      · rcases outcome with ⟨_, newPhase⟩ | ⟨_, ⟨detail, newPhase⟩, _⟩
        · rw [newPhase]
          trivial
        · rw [newPhase]
          trivial

/-- Every move keeps a system sound and adds to the log just what it asks of
the store. -/
theorem Sound.step {system : System V} {log : List ChangeEvent}
    (sound : system.Sound log) (move : Move) :
    ∃ more, system.Adds move more ∧ (system.step move).Sound (log ++ more) := by
  cases system.kind move with
  | rests same asks =>
      refine ⟨[], adds_nil asks, ?_⟩
      rw [List.append_nil]
      exact sound.same same
  | acts act made =>
      subst made
      obtain ⟨more, adds, traces⟩ := sound.traces.act act
      refine ⟨more, ?_, sound.grown rfl traces⟩
      cases act with
      | write command => exact adds
      | compact => exact adds
  | loads made first =>
      subst made
      exact ⟨[], adds_nil rfl, sound.load first⟩
  | turns number draw loop turn made found stepped =>
      subst made
      exact sound.turn found stepped

/-- Every run keeps a system sound, while the log may grow. -/
theorem Sound.run {system : System V} {log : List ChangeEvent}
    (sound : system.Sound log) (moves : List Move) :
    ∃ more, (system.run moves).Sound (log ++ more) := by
  induction moves generalizing system log with
  | nil => exact ⟨[], by rwa [List.append_nil]⟩
  | cons move later induction =>
      obtain ⟨more, _, next⟩ := sound.step move
      obtain ⟨evenMore, last⟩ := induction next
      rw [List.append_assoc] at last
      exact ⟨more ++ evenMore, last⟩

/-- The cursor never moves back. -/
theorem Sound.cursor_le {system : System V} {log : List ChangeEvent}
    (sound : system.Sound log) (move : Move) :
    system.sync.cursor ≤ (system.step move).sync.cursor := by
  have within := sound.within
  have total := sound.traces.index
  cases system.kind move with
  | rests same _ => exact Nat.le_of_eq same.cursor.symm
  | acts act made =>
      subst made
      exact Nat.le_refl _
  | loads made first =>
      subst made
      rcases (step_load first).2.2 with loaded | ⟨cut, _⟩
      · rw [loaded]
        dsimp only
        omega
      · rw [cut]
  | turns number draw loop turn made found stepped =>
      subst made
      rw [step_turn found stepped]
      change system.sync.cursor ≤ turn.cursor
      cases sound.progress found stepped with
      | moves sameCursor => exact Nat.le_of_eq sameCursor.symm
      | takes _ _ _ _ _ next _ _ newCursor =>
          have fresh := next.fresh
          omega
      | undoes _ _ _ _ sameCursor => exact Nat.le_of_eq sameCursor.symm
      | rereads _ _ _ _ outcome =>
          rcases outcome with ⟨newCursor, _⟩ | ⟨sameCursor, _⟩ <;> omega

/-- The move that initializes a synchronizer puts the cursor at the end of the
log. -/
theorem Sound.cursor_of_initialized {system : System V}
    {log : List ChangeEvent} (sound : system.Sound log) {move : Move}
    (before : system.sync.initialized = false)
    (after : (system.step move).sync.initialized = true) :
    (system.step move).sync.cursor = log.length := by
  have total := sound.traces.index
  cases system.kind move with
  | rests same _ =>
      rw [same.initialized, before] at after
      cases after
  | acts act made =>
      subst made
      change system.sync.initialized = true at after
      rw [before] at after
      cases after
  | loads made first =>
      subst made
      rcases (step_load first).2.2 with loaded | ⟨cut, _⟩
      · rw [loaded]
        exact total
      · rw [cut, before] at after
        cases after
  | turns number draw loop turn made found stepped =>
      rw [sound.empty before] at found
      cases found

/-- What setting flags does not break holds of all flags after a move. -/
theorem Sound.every_step {system : System V} {log : List ChangeEvent}
    (sound : system.Sound log) {holds : String → Flag V → Prop}
    (stable : Flag.IsStable holds) (every : system.world.flags.Every holds)
    (move : Move) : (system.step move).world.flags.Every holds := by
  cases system.kind move with
  | rests same =>
      rw [same.flags]
      exact every
  | acts act made =>
      subst made
      exact every
  | loads made first =>
      subst made
      rw [(step_load first).2.1]
      exact World.loading_every stable every _ _
  | turns number draw loop turn made found stepped =>
      subst made
      rw [step_turn found stepped]
      change turn.world.flags.Every holds
      cases sound.progress found stepped with
      | moves _ _ sameFlags =>
          rw [sameFlags]
          exact every
      | takes _ _ event _ _ _ _ _ _ _ newFlags =>
          rw [newFlags]
          exact handleEvent_every stable every event
      | undoes _ _ _ _ _ _ sameFlags =>
          rw [sameFlags]
          exact every
      | rereads _ _ _ newFlags =>
          rw [newFlags]
          exact World.loading_every stable every _ _

theorem Sound.every_run {system : System V} {log : List ChangeEvent}
    (sound : system.Sound log) {holds : String → Flag V → Prop}
    (stable : Flag.IsStable holds) (every : system.world.flags.Every holds)
    (moves : List Move) : (system.run moves).world.flags.Every holds := by
  induction moves generalizing system log with
  | nil => exact every
  | cons move later induction =>
      obtain ⟨more, _, next⟩ := sound.step move
      exact induction next (sound.every_step stable every move)

theorem steady_isStable : Flag.IsStable fun _ (flag : Flag V) =>
    FlagValue.Steady flag.value :=
  fun _ _ input steady => steady.set input

/-- In a run a steady flag goes on refusing what it refused. -/
theorem Sound.refuses_run {system : System V} {log : List ChangeEvent}
    (sound : system.Sound log)
    (steady : system.world.flags.Every fun _ flag =>
      FlagValue.Steady flag.value) (moves : List Move) {name : String}
    {before after : Flag V}
    (found : system.world.flags.lookup? name = some before)
    (foundLater : (system.run moves).world.flags.lookup? name = some after)
    (input : String) :
    FlagValue.Refuses after.value input ↔
      FlagValue.Refuses before.value input := by
  have stable : Flag.IsStable fun name (flag : Flag V) =>
      FlagValue.Steady flag.value ∧ ∃ first,
        system.world.flags.lookup? name = some first ∧
          (FlagValue.Refuses flag.value input ↔
            FlagValue.Refuses first.value input) := by
    rintro name flag given ⟨flagSteady, first, foundFirst, same⟩
    exact ⟨flagSteady.set given, first, foundFirst,
      (flagSteady.refuses_set given input).trans same⟩
  have every := sound.every_run stable (fun name flag found =>
    ⟨steady name flag found, flag, found, Iff.rfl⟩) moves
  obtain ⟨_, first, foundFirst, same⟩ := every name after foundLater
  rw [found] at foundFirst
  cases foundFirst
  exact same

omit [FlagValue V] in
/-- When a loop waits, the cursor has passed everything that the store holds
for flags, and no loop is about to undo anything. -/
theorem Sound.idle {system : System V} {log : List ChangeEvent}
    (sound : system.Sound log) (idle : system.IsIdle) :
    system.sync.initialized = true ∧
      (∀ name entry, system.world.store.entries.get?
        (system.directory ++ name) = some entry →
          entry.index ≤ system.sync.cursor) ∧
        ∀ number name event watch, system.sync.phase? number ≠
          some (.undoing name event watch) := by
  obtain ⟨number, waiting⟩ := idle
  obtain ⟨watch, found, waits⟩ := waits_iff.mp waiting
  refine ⟨?_, ?_, ?_⟩
  · by_contra first
    have none := sound.empty (by simpa using first)
    rw [Synchronizer.phase?, none] at found
    cases found
  · intro name entry held
    rcases sound.phases number _ found with ⟨_, requested, oldest, backlog⟩ |
      attends
    · rw [MemoryStore.next, backlog] at waits
      cases waits
    · obtain ⟨event, member, key, _, index, _⟩ := sound.traces.entry held
      have covered := attends.covers system.isDirectory_directory name
      rw [← key] at covered
      rcases MemoryStore.next_cases sound.traces attends.follows with
        ⟨_, _, yielded, _⟩ | ⟨_, _, _, yielded⟩ | ⟨_, _, nothing, _⟩
      · rw [yielded] at waits
        cases waits
      · rw [yielded] at waits
        cases waits
      · have passed := nothing event member covered
        omega
  · intro other name event otherWatch otherFound
    by_cases same : other = number
    · rw [same, found] at otherFound
      cases otherFound
    · have dormant := sound.dormant found rfl otherFound same
      cases dormant

end LiveFlags.System
