import LiveFlags.Proofs.Sync.Cursor

/-!
# What becomes of a value that the cursor has passed

Once the cursor has passed the mutation that wrote a value under the key of a
dynamic flag, and as long as this value stands, the flag has taken it, or it
was refused when a load read it, or a loop is about to undo it.  When a loop
waits with nothing to yield, the last of these cannot be.
-/

namespace LiveFlags

namespace MemoryStore

/-- Undoing a mutation succeeds as long as what it wrote stands. -/
theorem run_undo {store : MemoryStore} {event : ChangeEvent} {entry : Entry}
    (storable : Key.isStorable event.key = true)
    (held : store.entries.get? event.key = some entry)
    (same : entry.index = event.index) :
    ∃ undo, undo.index = store.index + 1 ∧ undo.key = event.key ∧
      store.run event.undo = (.ok undo.index, store.commit undo) := by
  have key : event.undo.key = event.key := by
    unfold ChangeEvent.undo
    split <;> rfl
  rcases store.run_cases event.undo with ⟨error, failed⟩ | ⟨undo, answers, done⟩
  · exfalso
    cases previous : event.previous with
    | none =>
        simp [ChangeEvent.undo, previous, run, delete, checkKey, storable,
          checkCondition, held, same, value?] at failed
    | some text =>
        simp [ChangeEvent.undo, previous, run, set, checkKey, storable,
          checkCondition, held, same] at failed
  · exact ⟨undo, answers.index, answers.key.trans key, done⟩

end MemoryStore

namespace System

variable {V : Type} [FlagValue V]

/-- A move reads the whole directory. -/
def Loads (system : System V) : Move → Prop
  | .load => system.sync.initialized = false
  | .loop number _ =>
      ∃ watch, system.sync.phase? number = some (.rereading watch)
  | _ => False

/-- A dynamic flag refuses the entry that the store holds under its key. -/
def RefusesHeld (system : System V) (name : String) (entry : Entry) : Prop :=
  system.world.store.entries.get? (system.directory ++ name) = some entry ∧
    ∃ flag, system.world.flags.lookup? name = some flag ∧
      flag.dynamic = true ∧ FlagValue.Refuses flag.value entry.value

/-- A load of a run read an entry that the flag of its key refused. -/
def RefusedInLoad (start : System V) (moves : List Move) (name : String)
    (entry : Entry) : Prop :=
  ∃ earlier move later, moves = earlier ++ move :: later ∧
    (start.run earlier).Loads move ∧ (start.run earlier).RefusesHeld name entry

/-- What becomes of the values that the cursor has passed, where `taken` tells
that a flag has taken a text. -/
def IsSettled (system : System V) (taken : Flag V → String → Prop)
    (refused : String → Entry → Prop) : Prop :=
  system.sync.initialized = true →
    ∀ name flag entry, system.world.flags.lookup? name = some flag →
      flag.dynamic = true →
        system.world.store.entries.get? (system.directory ++ name) =
          some entry → entry.value ≠ "" →
            entry.index ≤ system.sync.cursor →
              taken flag entry.value ∨ refused name entry ∨
                ∃ number event watch, system.sync.phase? number =
                  some (.undoing name event watch) ∧ event.index = entry.index

/-- A flag has taken a text once it was set from it. -/
def Takes (holds : String → Flag V → Prop)
    (taken : Flag V → String → Prop) : Prop :=
  ∀ name flag text, holds name flag → (flag.set text).1 = .done →
    taken (flag.set text).2 text

section Settling

variable {taken : Flag V → String → Prop} {refused : String → Entry → Prop}
variable {holds : String → Flag V → Prop}

/-- Setting a sturdy flag ends in one of two ways. -/
theorem taken_or_refuses (takes : Takes holds taken) {name : String}
    {flag : Flag V} (held : holds name flag)
    (sturdy : FlagValue.Sturdy flag.value) (text : String) :
    taken (flag.set text).2 text ∨ FlagValue.Refuses flag.value text := by
  cases outcome : (flag.set text).1 with
  | done => exact .inl (takes name flag text held outcome)
  | failed error => exact .inr ⟨error, outcome⟩
  | crashed detail => exact absurd outcome (sturdy.not_crashed text detail)

/-- After a load each dynamic flag has taken what the store holds for it,
unless it refused. -/
theorem loading_settles {system : System V} {log : List ChangeEvent}
    (sound : system.Sound log)
    (valid : system.world.flags.Every fun name _ => Key.isFlagName name = true)
    (sturdy : system.world.flags.Every fun _ flag =>
      FlagValue.Sturdy flag.value)
    (every : system.world.flags.Every holds) (takes : Takes holds taken)
    {onlyDynamic : Bool} {name : String} {flag : Flag V} {entry : Entry}
    (found : (system.world.loading system.directory onlyDynamic).flags.lookup?
      name = some flag) (dynamic : flag.dynamic = true)
    (held : system.world.store.entries.get? (system.directory ++ name) =
      some entry) (filled : entry.value ≠ "") :
    taken flag entry.value ∨ system.RefusesHeld name entry := by
  have validName : Key.isFlagName name = true :=
    World.loading_every (fun _ _ _ valid => valid) valid system.directory
      onlyDynamic name flag found
  rw [World.lookup?_loading sound.traces system.isDirectory_directory sturdy
    validName, held] at found
  obtain ⟨before, foundBefore, rfl⟩ := Option.map_eq_some_iff.mp found
  dsimp only at dynamic ⊢
  have wasDynamic : before.dynamic = true := by
    unfold Flag.absorb at dynamic
    split at dynamic <;> exact dynamic
  rw [Flag.absorb, if_pos ⟨filled, fun _ => wasDynamic⟩]
  rcases taken_or_refuses takes (every name before foundBefore)
    (sturdy name before foundBefore) entry.value with done | refuses
  · exact .inl done
  · exact .inr ⟨held, before, foundBefore, wasDynamic, refuses⟩

omit [FlagValue V] in
theorem IsSettled.mono {system : System V} {more : String → Entry → Prop}
    (settled : system.IsSettled taken refused)
    (weaker : ∀ name entry, refused name entry → more name entry) :
    system.IsSettled taken more := by
  intro initialized name flag entry found dynamic held filled passed
  rcases settled initialized name flag entry found dynamic held filled passed
    with done | wasRefused | undoing
  · exact .inl done
  · exact .inr (.inl (weaker name entry wasRefused))
  · exact .inr (.inr undoing)

omit [FlagValue V] in
theorem IsSettled.same {earlier later : System V}
    (settled : earlier.IsSettled taken refused)
    (same : SameCourse earlier later) : later.IsSettled taken refused := by
  have directory : later.directory = earlier.directory :=
    congrArg Config.normalized same.config
  intro initialized name flag entry found dynamic held filled passed
  rw [same.initialized] at initialized
  rw [same.flags] at found
  rw [same.store, directory] at held
  rw [same.cursor] at passed
  rcases settled initialized name flag entry found dynamic held filled passed
    with done | wasRefused | ⟨number, event, watch, undoing, index⟩
  · exact .inl done
  · exact .inr (.inl wasRefused)
  · exact .inr (.inr ⟨number, event, watch,
      same.kept number _ undoing, index⟩)

/-- What a loop takes is settled. -/
private theorem take_settles {system : System V} {log : List ChangeEvent}
    (settled : system.IsSettled taken refused) (sound : system.Sound log)
    (initialized : system.sync.initialized = true)
    (valid : system.world.flags.Every fun name _ => Key.isFlagName name = true)
    (sturdy : system.world.flags.Every fun _ flag =>
      FlagValue.Sturdy flag.value)
    (every : system.world.flags.Every holds) (takes : Takes holds taken)
    {number : Nat} {watch : MemoryWatch} {event : ChangeEvent}
    (streaming : system.sync.phase? number = some (.streaming watch))
    (later : MemoryWatch) (next : watch.IsNext log system.sync.cursor event)
    (attends : watch.Attends system.directory log system.sync.cursor)
    {name : String} {flag : Flag V} {entry : Entry}
    (found : (handleEvent system.directory system.world.flags
      event).flags.lookup? name = some flag)
    (dynamic : flag.dynamic = true)
    (held : system.world.store.entries.get? (system.directory ++ name) =
      some entry) (filled : entry.value ≠ "")
    (passed : entry.index ≤ event.index) :
    taken flag entry.value ∨ refused name entry ∨
      Phase.afterVerdict event later (handleEvent system.directory
        system.world.flags event).verdict = .undoing name event later ∧
          event.index = entry.index := by
  obtain ⟨written, member, key, value, index, latest⟩ := sound.traces.entry held
  obtain ⟨before, foundBefore, sameDynamic⟩ := lookup?_handleEvent found
  have wasDynamic : before.dynamic = true := sameDynamic.trans dynamic
  by_cases old : entry.index ≤ system.sync.cursor
  -- The entry stands since before the event, so the event is of another key.
  · have missed : event.key ≠ system.directory ++ name := by
      intro same
      have notLater := latest event next.member same
      have fresh := next.fresh
      omega
    rw [lookup?_handleEvent_other missed] at found
    rcases settled initialized name flag entry found dynamic held filled
      old with
      done | wasRefused | ⟨other, otherEvent, otherWatch, undoing, _⟩
    · exact .inl done
    · exact .inr (.inl wasRefused)
    · have dormant :
          (Phase.undoing name otherEvent otherWatch).isDormant = true := by
        apply sound.dormant streaming rfl undoing
        rintro rfl
        rw [streaming] at undoing
        cases undoing
      cases dormant
  -- The entry is above the cursor and within the event, so it is the event.
  · have covered := attends.covers system.isDirectory_directory name
    rw [← key] at covered
    have notEarlier := next.first written member covered (by omega)
    obtain rfl := sound.traces.numbered.unique member next.member (by omega)
    have concerns : written.Concerns system.directory system.world.flags name
        entry.value before := by
      refine ⟨?_, value, foundBefore, fun _ => wasDynamic, filled⟩
      rw [key, sound.traces.leaf written member]
      exact flagName_of_isFlagName system.directory
        (valid name before foundBefore)
    obtain ⟨verdict, flags⟩ := handleEvent_of_concerns concerns
    rw [flags, FlagSet.lookup?_replace, if_pos rfl] at found
    cases found
    rcases taken_or_refuses takes (every name before foundBefore)
      (sturdy name before foundBefore) entry.value with done | refuses
    · exact .inl done
    · right
      right
      have refused : (handleEvent system.directory system.world.flags
          written).verdict = .refused name :=
        handleEvent_refused.mpr ⟨entry.value, before, concerns, refuses⟩
      rw [refused]
      exact ⟨rfl, index⟩

omit [FlagValue V] in
/-- What a loop undoes does not stand afterwards. -/
private theorem undo_settles {system : System V} {log : List ChangeEvent}
    (sound : system.Sound log) {number : Nat} {undone : String}
    {event : ChangeEvent} {watch : MemoryWatch}
    (undoing : system.sync.phase? number = some (.undoing undone event watch))
    {name : String} {entry : Entry}
    (held : (system.world.store.run event.undo).2.entries.get?
      (system.directory ++ name) = some entry)
    (passed : entry.index ≤ system.sync.cursor) :
    event.index ≠ entry.index := by
  intro same
  have within := sound.within
  have total := sound.traces.index
  have heldBefore := MemoryStore.get?_run_old held (by omega)
  obtain ⟨_, member, _, _⟩ := sound.phases number _ undoing
  obtain ⟨written, writtenMember, key, _, index, _⟩ :=
    sound.traces.entry heldBefore
  obtain rfl := sound.traces.numbered.unique writtenMember member (by omega)
  rw [← key] at heldBefore
  obtain ⟨undo, undoIndex, undoKey, done⟩ := MemoryStore.run_undo
    (sound.traces.storable written member) heldBefore same.symm
  rw [done] at held
  have different := (MemoryStore.get?_commit_old undoIndex held (by omega)).1
  exact different (key.symm.trans undoKey.symm)

private theorem turn_settles {system : System V} {log : List ChangeEvent}
    (sound : system.Sound log)
    (valid : system.world.flags.Every fun name _ => Key.isFlagName name = true)
    (sturdy : system.world.flags.Every fun _ flag =>
      FlagValue.Sturdy flag.value)
    (every : system.world.flags.Every holds) (takes : Takes holds taken)
    {number draw : Nat} {loop : WatchLoop MemoryWatch}
    {turn : Turn V MemoryStore MemoryWatch}
    (found : system.sync.loops[number]? = some loop)
    (stepped : loop.step? system.sync.config draw system.sync.isFinished
      system.sync.cursor system.world = some turn)
    (settled : system.IsSettled taken fun name entry => refused name entry ∨
      system.Loads (.loop number draw) ∧ system.RefusesHeld name entry) :
    (system.step (.loop number draw)).IsSettled taken fun name entry =>
      refused name entry ∨
        system.Loads (.loop number draw) ∧ system.RefusesHeld name entry := by
  have within := sound.within
  have total := sound.traces.index
  have here : system.sync.phase? number = some loop.phase :=
    Synchronizer.phase?_of_loop found
  have phases := Synchronizer.phase?_turned found turn
  rw [step_turn found stepped]
  intro initialized name flag entry foundFlag dynamic held filled passed
  change turn.world.flags.lookup? name = some flag at foundFlag
  change turn.world.store.entries.get? (system.directory ++ name) =
    some entry at held
  change entry.index ≤ turn.cursor at passed
  change _ ∨ _ ∨ ∃ other event watch,
    (system.sync.turned number loop turn).phase? other =
      some (.undoing name event watch) ∧ event.index = entry.index
  cases sound.progress found stepped with
  | moves sameCursor sameStore sameFlags notBefore _ _ =>
      rw [sameFlags] at foundFlag
      rw [sameStore] at held
      rw [sameCursor] at passed
      rcases settled initialized name flag entry foundFlag dynamic held filled
        passed with done | wasRefused | ⟨other, event, watch, undoing, index⟩
      · exact .inl done
      · exact .inr (.inl wasRefused)
      · refine .inr (.inr ⟨other, event, watch, ?_, index⟩)
        rw [phases, if_neg]
        · exact undoing
        · rintro rfl
          rw [here] at undoing
          rw [Option.some.inj undoing] at notBefore
          cases notBefore
  | takes watch later event streaming _ next attends _ newCursor sameStore
      newFlags newPhase =>
      rw [newFlags] at foundFlag
      rw [sameStore] at held
      rw [newCursor] at passed
      rw [streaming] at here
      rcases take_settles settled sound initialized valid sturdy every takes
        here later next attends foundFlag dynamic held filled passed with
        done | wasRefused | ⟨undoing, index⟩
      · exact .inl done
      · exact .inr (.inl wasRefused)
      · refine .inr (.inr ⟨number, event, later, ?_, index⟩)
        rw [phases, if_pos rfl, newPhase, undoing]
  | undoes undone event watch undoing sameCursor newStore sameFlags _ =>
      rw [sameFlags] at foundFlag
      rw [newStore] at held
      rw [sameCursor] at passed
      rw [undoing] at here
      have heldBefore := MemoryStore.get?_run_old held (by omega)
      rcases settled initialized name flag entry foundFlag dynamic heldBefore
        filled passed with
          done | wasRefused |
            ⟨other, otherEvent, otherWatch, otherUndoing, index⟩
      · exact .inl done
      · exact .inr (.inl wasRefused)
      -- What was owed an undoing is undone in this move and cannot stand.
      · exfalso
        have same : other = number :=
          sound.orderly.unique otherUndoing rfl here rfl
        rw [same, here] at otherUndoing
        cases otherUndoing
        exact undo_settles sound here held passed index
  | rereads watch rereading sameStore newFlags outcome =>
      rw [newFlags] at foundFlag
      rw [sameStore] at held
      rw [rereading] at here
      rcases loading_settles sound valid sturdy every takes foundFlag
        dynamic held filled with done | refuses
      · exact .inl done
      · exact .inr (.inl (.inr ⟨⟨watch, here⟩, refuses⟩))

theorem IsSettled.step {system : System V} {log : List ChangeEvent}
    (settled : system.IsSettled taken refused) (sound : system.Sound log)
    (valid : system.world.flags.Every fun name _ => Key.isFlagName name = true)
    (sturdy : system.world.flags.Every fun _ flag =>
      FlagValue.Sturdy flag.value)
    (every : system.world.flags.Every holds) (takes : Takes holds taken)
    (move : Move) :
    (system.step move).IsSettled taken fun name entry =>
      refused name entry ∨
        system.Loads move ∧ system.RefusesHeld name entry := by
  have kept : system.IsSettled taken fun name entry =>
      refused name entry ∨ system.Loads move ∧ system.RefusesHeld name entry :=
    settled.mono fun _ _ wasRefused => .inl wasRefused
  have within := sound.within
  have total := sound.traces.index
  cases system.kind move with
  | rests same _ => exact kept.same same
  | acts act made =>
      subst made
      -- Others write above the cursor only, so what it has passed is unchanged.
      intro initialized name flag entry found dynamic held filled passed
      have passedBefore : entry.index ≤ system.sync.cursor := passed
      have heldBefore := MemoryStore.get?_act_old held (by omega)
      exact kept initialized name flag entry found dynamic heldBefore filled
        passedBefore
  | loads made first =>
      subst made
      intro initialized name flag entry found dynamic held filled passed
      obtain ⟨store, flags, _⟩ := step_load first
      rw [flags] at found
      rw [store, step_directory] at held
      rcases loading_settles sound valid sturdy every takes found dynamic held
        filled with done | refuses
      · exact .inl done
      · exact .inr (.inl (.inr ⟨first, refuses⟩))
  | turns number draw loop turn made found stepped =>
      subst made
      exact turn_settles sound valid sturdy every takes found stepped kept

/-- In every run the values that the cursor has passed are settled. -/
theorem settled_run (config : Config) {world : World V MemoryStore}
    (valid : world.flags.Every fun name _ => Key.isFlagName name = true)
    (sturdy : world.flags.Every fun _ flag => FlagValue.Sturdy flag.value)
    (stable : Flag.IsStable holds) (every : world.flags.Every holds)
    (takes : Takes holds taken) (reachable : world.store.Reachable)
    (moves : List Move) :
    ((fresh config world).run moves).IsSettled taken
      (RefusedInLoad (fresh config world) moves) := by
  obtain ⟨log, traces⟩ := reachable.traces
  have start := Sound.fresh traces config
  induction moves using List.reverseRecOn with
  | nil =>
      intro initialized
      cases initialized
  | append_singleton earlier move induction =>
      obtain ⟨more, sound⟩ := start.run earlier
      rw [run_append]
      have step := induction.step sound
        (start.every_run (fun _ _ _ valid => valid) valid earlier)
        (start.every_run Load.sturdy_isStable sturdy earlier)
        (start.every_run stable every earlier) takes move
      apply step.mono
      rintro name entry (⟨before, reading, after, parted, loads, refuses⟩ |
        ⟨loads, refuses⟩)
      · refine ⟨before, reading, after ++ [move], ?_, loads, refuses⟩
        rw [parted]
        simp
      · exact ⟨earlier, move, [], rfl, loads, refuses⟩

end Settling

end System

end LiveFlags
