import LiveFlags.Proofs.Flag.Setting
import LiveFlags.Proofs.Sync.Settled

/-!
# Refused values that stay in the store

A value that a mutation brings and a flag refuses is undone before the loop
waits again.  A value that a flag refuses when a recovery reads it is not: the
load only reports it, and no mutation above the cursor brings it up again.  So
when a loop waits with nothing to take, the values written since the first load
that their flags refuse are exactly those that a recovery met and refused.
-/

namespace LiveFlags.System

variable {V : Type} [FlagValue V]

/-- An entry is younger than every snapshot that the first load of a run
read. -/
def WrittenSinceLoad (start : System V) (moves : List Move) (entry : Entry) :
    Prop :=
  ∀ earlier later, moves = earlier ++ .load :: later →
    (start.run earlier).sync.initialized = false →
      (start.run earlier).world.store.index < entry.index

/-- A loop of a run read everything again and the flag of a key refused the
entry that stood there. -/
def RefusedInRecovery (start : System V) (moves : List Move) (name : String)
    (entry : Entry) : Prop :=
  ∃ earlier number draw later, moves = earlier ++ .loop number draw :: later ∧
    (start.run earlier).Loads (.loop number draw) ∧
      (start.run earlier).RefusesHeld name entry

/-- Of the loads of a run only a recovery can have read a younger entry. -/
theorem RefusedInLoad.inRecovery {config : Config}
    {world : World V MemoryStore} (reachable : world.store.Reachable)
    {moves : List Move} {name : String} {entry : Entry}
    (refused : RefusedInLoad (fresh config world) moves name entry)
    (written : WrittenSinceLoad (fresh config world) moves entry) :
    RefusedInRecovery (fresh config world) moves name entry := by
  obtain ⟨earlier, move, later, parted, loads, refuses⟩ := refused
  cases move with
  | load =>
      obtain ⟨log, traces⟩ := reachable.traces
      obtain ⟨more, sound⟩ := (Sound.fresh traces config).run earlier
      have younger := written earlier later parted loads
      obtain ⟨event, member, _, _, index, _⟩ := sound.traces.entry refuses.1
      have upper := (sound.traces.numbered.bounds member).2
      have total := sound.traces.index
      omega
  | loop number draw =>
      exact ⟨earlier, number, draw, later, parted, loads, refuses⟩
  | act act => cases loads
  | pass milliseconds => cases loads
  | start hasRuntime => cases loads
  | stop => cases loads
  | join => cases loads

/-- Whenever a loop waits with nothing to take, a dynamic flag refuses what the
store holds for it since the first load just if a recovery met this entry and
left it there. -/
theorem refuses_iff_refusedInRecovery {config : Config}
    {world : World V MemoryStore} (reachable : world.store.Reachable)
    (valid : world.flags.Every fun name _ => Key.isFlagName name = true)
    (sturdy : world.flags.Every fun _ flag => FlagValue.Sturdy flag.value)
    (steady : world.flags.Every fun _ flag => FlagValue.Steady flag.value)
    (moves : List Move) (idle : ((fresh config world).run moves).IsIdle)
    {name : String} {flag : Flag V} {entry : Entry}
    (found : ((fresh config world).run moves).world.flags.lookup? name =
      some flag) (dynamic : flag.dynamic = true)
    (held : ((fresh config world).run moves).world.store.entries.get?
      ((fresh config world).directory ++ name) = some entry)
    (filled : entry.value ≠ "")
    (written : WrittenSinceLoad (fresh config world) moves entry) :
    FlagValue.Refuses flag.value entry.value ↔
      RefusedInRecovery (fresh config world) moves name entry := by
  obtain ⟨log, traces⟩ := reachable.traces
  have start := Sound.fresh traces config
  constructor
  · intro refuses
    have takes : Takes (fun _ (flag : Flag V) => FlagValue.Steady flag.value)
        fun flag text => ¬ FlagValue.Refuses flag.value text := by
      intro name flag text flagSteady done refuses
      obtain ⟨error, failed⟩ := (flagSteady.refuses_set text text).mp refuses
      have outcome : (flag.set text).1 = .failed error := failed
      rw [done] at outcome
      cases outcome
    have settled := settled_run config valid sturdy steady_isStable steady
      takes reachable moves
    obtain ⟨more, sound⟩ := start.run moves
    obtain ⟨initialized, passed, nothingUndone⟩ := sound.idle idle
    rw [← run_directory _ moves] at held
    rcases settled initialized name flag entry found dynamic held filled
      (passed name entry held) with
        taken | refused | ⟨number, event, watch, undoing, _⟩
    · exact absurd refuses taken
    · exact refused.inRecovery reachable written
    · exact absurd undoing (nothingUndone number name event watch)
  · rintro ⟨earlier, number, draw, later, rfl, _, _, before, foundBefore, _,
      refused⟩
    obtain ⟨more, sound⟩ := start.run earlier
    rw [run_append] at found
    exact (sound.refuses_run (start.every_run steady_isStable steady earlier)
      _ foundBefore found entry.value).mpr refused

/-- A course in which a value that the switch refuses falls behind what the
store holds for open watches, so that the loop meets it in a recovery. -/
def poisoning : List Move :=
  [.load, .start true, .loop 0 0, .loop 0 0,
    .act (.write (.set "/c/a" "on" none)), .act (.write (.set "/d" "x" none)),
    .loop 0 0, .pass 200, .loop 0 0, .loop 0 0, .loop 0 0]

theorem poisoning_written :
    WrittenSinceLoad (fresh { directory := "/c" } (World.switch 1)) poisoning
      ⟨"on", 1⟩ := by
  intro earlier later parted first
  cases earlier with
  | nil => decide
  | cons move rest =>
      have tail : poisoning.tail = rest ++ .load :: later := by
        rw [parted]
        rfl
      have member : Move.load ∈ poisoning.tail := by
        rw [tail]
        exact List.mem_append_right _ List.mem_cons_self
      exact absurd member (by decide)

theorem poisoning_flag :
    (((fresh { directory := "/c" } (World.switch 1)).run
      poisoning).world.flags.lookup? "a").any (fun flag =>
        flag.dynamic && decide (FlagValue.Refuses flag.value "on")) = true := by
  decide +kernel

theorem poisoning_held :
    ((fresh { directory := "/c" } (World.switch 1)).run
      poisoning).world.store.entries.get? "/c/a" = some ⟨"on", 1⟩ := by
  decide +kernel

/-- The refused value is still there when the loop waits again. -/
theorem poisoning_poisons :
    ((fresh { directory := "/c" } (World.switch 1)).run poisoning).IsIdle ∧
      (((fresh { directory := "/c" } (World.switch 1)).run
        poisoning).world.flags.lookup? "a").any (fun flag =>
          flag.dynamic && decide (FlagValue.Refuses flag.value "on")) = true ∧
      ((fresh { directory := "/c" } (World.switch 1)).run
        poisoning).world.store.entries.get? "/c/a" = some ⟨"on", 1⟩ ∧
      WrittenSinceLoad (fresh { directory := "/c" } (World.switch 1)) poisoning
        ⟨"on", 1⟩ :=
  ⟨⟨0, by decide +kernel⟩, poisoning_flag, poisoning_held, poisoning_written⟩

theorem poisoning_refused :
    RefusedInRecovery (fresh { directory := "/c" } (World.switch 1)) poisoning
      "a" ⟨"on", 1⟩ := by
  obtain ⟨flag, found, both⟩ := (Option.any_eq_true _ _).mp poisoning_flag
  simp only [Bool.and_eq_true, decide_eq_true_eq] at both
  obtain ⟨dynamic, refuses⟩ := both
  exact (refuses_iff_refusedInRecovery (.empty 1)
    (FlagSet.switch_valid (by decide)) (FlagSet.switch_sturdy "a")
    (FlagSet.switch_steady "a") poisoning ⟨0, by decide +kernel⟩ found dynamic
    poisoning_held (by decide)
    poisoning_written).mp refuses

end LiveFlags.System
