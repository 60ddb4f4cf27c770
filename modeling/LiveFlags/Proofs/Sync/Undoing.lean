import LiveFlags.Proofs.Sync.Cursor

/-!
# What a loop undoes

A loop undoes a mutation right after it took it, and only if the flag refused
the value.  Undoing it makes a mutation that brings the value before it back,
and a loop takes this one like any other.
-/

namespace LiveFlags.System

variable {V : Type} [FlagValue V]

section Moves

omit [FlagValue V]

/-- The mutation that a move undoes with success. -/
def undone? (system : System V) : Move → Option ChangeEvent
  | .loop number _ =>
      match system.sync.phase? number with
      | some (.undoing _ event _) =>
          match (system.world.store.run event.undo).1 with
          | .ok _ => some event
          | .error _ => none
      | _ => none
  | _ => none

/-- The mutation that a loop can take next. -/
def offered? (system : System V) (number : Nat) : Option ChangeEvent :=
  match system.sync.loops[number]? with
  | some ⟨.streaming watch, false⟩ =>
      if system.world.store.ready watch then
        (system.world.store.next watch).1.event?
      else none
  | _ => none

theorem undone?_eq_some {system : System V} {move : Move}
    {event : ChangeEvent} (undone : system.undone? move = some event) :
    ∃ number draw name watch index, move = .loop number draw ∧
      system.sync.phase? number = some (.undoing name event watch) ∧
        (system.world.store.run event.undo).1 = .ok index := by
  unfold undone? at undone
  split at undone
  · rename_i number draw
    split at undone
    · rename_i name other watch found
      split at undone
      · rename_i index answer
        cases undone
        exact ⟨number, draw, name, watch, index, rfl, found, answer⟩
      · cases undone
    · cases undone
  · cases undone

theorem undone?_eq_none {system : System V} {move : Move}
    (asks : system.command? move = none) : system.undone? move = none := by
  cases undone : system.undone? move with
  | none => rfl
  | some event =>
      obtain ⟨number, draw, name, watch, index, rfl, found, _⟩ :=
        undone?_eq_some undone
      rw [command?_loop_undoing found] at asks
      cases asks

/-- What is undone was taken before. -/
theorem Sound.index_le_of_undone {system : System V} {log : List ChangeEvent}
    (sound : system.Sound log) {move : Move} {event : ChangeEvent}
    (undone : system.undone? move = some event) :
    event.index ≤ system.sync.cursor := by
  obtain ⟨number, _, name, watch, _, _, found, _⟩ := undone?_eq_some undone
  obtain ⟨_, _, taken, _⟩ := sound.phases number _ found
  exact taken

/-- Undoing a mutation writes to its key what stood there before. -/
theorem answers_undo {store : MemoryStore} {event echo : ChangeEvent}
    (answers : store.Answers event.undo echo) :
    echo.key = event.key ∧ echo.value = event.previous := by
  rw [answers.key, answers.value, ChangeEvent.undo]
  cases event.previous <;> exact ⟨rfl, rfl⟩

end Moves

/-- A move that undoes a mutation adds to the log one that brings the value
before it back. -/
theorem Sound.step_undone {system : System V} {log : List ChangeEvent}
    (sound : system.Sound log) {move : Move} {event : ChangeEvent}
    (undone : system.undone? move = some event) :
    ∃ echo, system.world.store.Answers event.undo echo ∧
      (system.step move).Sound (log ++ [echo]) := by
  obtain ⟨number, draw, name, watch, index, rfl, found, done⟩ :=
    undone?_eq_some undone
  obtain ⟨more, adds, next⟩ := sound.step (.loop number draw)
  rw [Adds, command?_loop_undoing found] at adds
  cases adds with
  | failed answer =>
      rw [answer] at done
      cases done
  | made answers answer => exact ⟨_, answers, next⟩

/-- What a loop does with the mutation that it can take next. -/
theorem Sound.step_offered {system : System V} {log : List ChangeEvent}
    (sound : system.Sound log) {number : Nat} {event : ChangeEvent}
    (offered : system.offered? number = some event) (draw : Nat) :
    event ∈ log ∧ ∃ later,
      (system.step (.loop number draw)).sync.phase? number =
        some (.afterVerdict event later
          (handleEvent system.directory system.world.flags event).verdict) := by
  unfold offered? at offered
  split at offered
  · rename_i watch found
    split at offered
    · rename_i ready
      have phase := sound.phase_isSound found
      rcases phase with ⟨_, requested, oldest, backlog⟩ | attends
      · rw [MemoryStore.next, backlog] at offered
        cases offered
      · rcases MemoryStore.next_cases sound.traces attends.follows with
          ⟨first, later, yielded, next, _⟩ | ⟨_, _, _, yielded⟩ |
            ⟨_, yielded, _⟩
        · rw [yielded] at offered
          cases offered
          have stepped : WatchLoop.step? system.sync.config draw
              system.sync.isFinished ⟨.streaming watch, false⟩
              system.sync.cursor system.world =
                some (.take system.directory system.sync.cursor system.world
                  later event) := by
            unfold WatchLoop.step?
            dsimp only [KeyValueStore.ready, KeyValueStore.next]
            rw [if_neg Bool.false_ne_true, if_pos ready, yielded]
            rfl
          obtain ⟨_, _, _, taken⟩ :=
            Turn.take_eq system.directory system.world later next.fresh
          refine ⟨next.member, later, ?_⟩
          rw [step_turn found stepped]
          change (system.sync.turned number _ _).phase? number = _
          rw [Synchronizer.phase?_turned found, if_pos rfl, taken]
        · rw [yielded] at offered
          cases offered
        · rw [yielded] at offered
          cases offered
    · cases offered
  · cases offered

/-- A loop that takes a mutation of a dynamic flag is about to undo it just if
the value is not empty and the flag refuses it. -/
theorem Sound.undoing_iff {system : System V} {log : List ChangeEvent}
    (sound : system.Sound log) {number : Nat} {event : ChangeEvent}
    (offered : system.offered? number = some event) (draw : Nat)
    {name text : String} {flag : Flag V}
    (named : flagName system.directory event.key event.isDirectory = .ok name)
    (brings : event.value = some text)
    (found : system.world.flags.lookup? name = some flag)
    (dynamic : flag.dynamic = true) :
    (∃ watch, (system.step (.loop number draw)).sync.phase? number =
        some (.undoing name event watch)) ↔
      text ≠ "" ∧ FlagValue.Refuses flag.value text := by
  obtain ⟨_, later, after⟩ := sound.step_offered offered draw
  rw [after]
  constructor
  · rintro ⟨watch, undoing⟩
    obtain ⟨refused, _⟩ :=
      Phase.afterVerdict_eq_undoing (Option.some.inj undoing)
    obtain ⟨other, otherFlag, concerns, refuses⟩ :=
      handleEvent_refused.mp refused
    have sameText := concerns.brings
    have sameFlag := concerns.reaches.found
    rw [brings] at sameText
    rw [found] at sameFlag
    cases sameText
    cases sameFlag
    exact ⟨concerns.reaches.filled, refuses⟩
  · rintro ⟨filled, refuses⟩
    have refused : (handleEvent system.directory system.world.flags
        event).verdict = .refused name :=
      handleEvent_refused.mpr ⟨text, flag,
        ⟨named, brings, found, fun _ => dynamic, filled⟩, refuses⟩
    rw [refused]
    exact ⟨later, rfl⟩

/-- The mutation right after an undoing is the one that brings the value before
back. -/
theorem Sound.echo {system : System V} {log : List ChangeEvent}
    (sound : system.Sound log) {move : Move} {event echo : ChangeEvent}
    (undone : system.undone? move = some event) {between : List Move}
    {number : Nat}
    (offered : ((system.step move).run between).offered? number = some echo)
    (index : echo.index = system.world.store.index + 1) :
    (∃ later, ((system.step move).run between).Sound later) ∧
      echo.key = event.key ∧ echo.value = event.previous ∧
        echo.isDirectory = false := by
  obtain ⟨written, answers, next⟩ := sound.step_undone undone
  obtain ⟨more, later⟩ := next.run between
  obtain ⟨member, _⟩ := later.step_offered offered 0
  have inside : written ∈ log ++ [written] ++ more := by simp
  have same : echo = written :=
    later.traces.numbered.unique member inside (index.trans answers.index.symm)
  subst same
  obtain ⟨key, value⟩ := answers_undo answers
  exact ⟨⟨_, later⟩, key, value, answers.leaf⟩

/-- What a loop is about to undo it was about to undo before, or it has just
taken it and the flag refused. -/
theorem Sound.undoing_step {system : System V} {log : List ChangeEvent}
    (sound : system.Sound log) {move : Move} {number : Nat} {name : String}
    {event : ChangeEvent} {watch : MemoryWatch}
    (undoing : (system.step move).sync.phase? number =
      some (.undoing name event watch)) :
    system.undone? move = none ∧
      (system.sync.phase? number = some (.undoing name event watch) ∨
        system.sync.initialized = true ∧ event ∈ log ∧
          system.sync.cursor < event.index ∧ ∃ text flag,
            event.Concerns system.directory system.world.flags name text flag ∧
              FlagValue.Refuses flag.value text) := by
  cases system.kind move with
  | rests same asks =>
      refine ⟨undone?_eq_none asks, .inl ?_⟩
      rcases same.added number _ undoing with old | queued
      · exact old
      · cases queued
  | acts act made =>
      subst made
      exact ⟨rfl, .inl undoing⟩
  | loads made first =>
      subst made
      have none := sound.empty first
      rcases (step_load first).2.2 with loaded | ⟨cut, _⟩
      · rw [loaded, Synchronizer.phase?, none] at undoing
        cases undoing
      · rw [cut, Synchronizer.phase?, none] at undoing
        cases undoing
  | turns turning draw loop turn made found stepped =>
      subst made
      have here : system.sync.phase? turning = some loop.phase :=
        Synchronizer.phase?_of_loop found
      rw [step_turn found stepped] at undoing
      change (system.sync.turned turning loop turn).phase? number = _ at undoing
      rw [Synchronizer.phase?_turned found] at undoing
      cases sound.progress found stepped with
      | moves _ _ _ notBefore notAfter _ =>
          refine ⟨undone?_eq_none (command?_loop_eq_none here notBefore), ?_⟩
          split at undoing
          · rw [Option.some.inj undoing] at notAfter
            cases notAfter
          · exact .inl undoing
      | takes taking later taken streaming _ next _ _ _ _ _ newPhase =>
          rw [streaming] at here
          refine ⟨undone?_eq_none (command?_loop_eq_none here rfl), ?_⟩
          split at undoing
          · right
            have initialized : system.sync.initialized = true := by
              by_contra first
              rw [sound.empty (by simpa using first)] at found
              cases found
            rw [newPhase] at undoing
            obtain ⟨refused, rfl⟩ :=
              Phase.afterVerdict_eq_undoing (Option.some.inj undoing)
            exact ⟨initialized, next.member, next.fresh,
              handleEvent_refused.mp refused⟩
          · exact .inl undoing
      | undoes undone other otherWatch phase _ _ _ newPhase =>
          rw [phase] at here
          split at undoing
          · rw [newPhase] at undoing
            cases undoing
          · rename_i different
            exact absurd (sound.orderly.unique undoing rfl here rfl) different
      | rereads reading rereading _ _ outcome =>
          rw [rereading] at here
          refine ⟨undone?_eq_none (command?_loop_eq_none here rfl), ?_⟩
          split at undoing
          · rcases outcome with ⟨_, newPhase⟩ | ⟨_, ⟨detail, newPhase⟩, _⟩
            · rw [newPhase] at undoing
              cases undoing
            · rw [newPhase] at undoing
              cases undoing
          · exact .inl undoing

end LiveFlags.System
