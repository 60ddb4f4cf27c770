import LiveFlags.Proofs.Flag.Setting
import LiveFlags.Proofs.Sync.Settled
import LiveFlags.Proofs.Sync.Values

/-!
# Flags converge to the store

Whatever others do and however the loops are interleaved with it, whenever a
loop waits with nothing to take, every dynamic flag was last set from exactly
what the store holds under its key, or refused just that when a load read it.
To tell what a flag was last set from, its value is made to remember it.
-/

namespace LiveFlags

variable {V : Type} [FlagValue V]

/-- A value that remembers the inputs it was set from, the latest first. -/
structure Recorded (V : Type) where
  value : V
  taken : List String := []

namespace Recorded

instance : FlagValue (Recorded V) where
  set recorded input :=
    match FlagValue.set recorded.value input with
    | (.done, value) => (.done, ⟨value, input :: recorded.taken⟩)
    | (outcome, value) => (outcome, ⟨value, recorded.taken⟩)
  current recorded := FlagValue.current recorded.value
  typeName recorded := FlagValue.typeName recorded.value

theorem respects : FlagValue.Respects (value : Recorded V → V) := by
  intro recorded input
  simp only [FlagValue.set]
  cases FlagValue.set recorded.value input with
  | mk outcome value => cases outcome <;> rfl

theorem taken_set {recorded : Recorded V} {input : String}
    (done : (FlagValue.set recorded input).1 = .done) :
    (FlagValue.set recorded input).2.taken = input :: recorded.taken := by
  simp only [FlagValue.set] at done ⊢
  cases answer : FlagValue.set recorded.value input with
  | mk outcome value =>
      rw [answer] at done
      cases outcome with
      | done => rfl
      | failed error => cases done
      | crashed detail => cases done

end Recorded

namespace FlagValue

variable {U : Type} [FlagValue U] {f : U → V}

theorem Respects.refuses_iff (respects : Respects f) (value : U)
    (input : String) : Refuses (f value) input ↔ Refuses value input := by
  rw [Refuses, respects]
  rfl

theorem Respects.afterInputs (respects : Respects f) (value : U)
    (inputs : List String) :
    FlagValue.afterInputs (f value) inputs =
      f (FlagValue.afterInputs value inputs) := by
  induction inputs generalizing value with
  | nil => rfl
  | cons input later induction =>
      change FlagValue.afterInputs (set (f value) input).2 later =
        f (FlagValue.afterInputs (set value input).2 later)
      rw [respects, induction]

theorem Respects.sturdy (respects : Respects f) {value : U}
    (sturdy : Sturdy (f value)) : Sturdy value := by
  intro inputs input detail crashed
  apply sturdy inputs input detail
  rw [respects.afterInputs, respects]
  exact crashed

end FlagValue

/-- A world whose flags begin to remember what they are set from. -/
def World.recording {S : Type} (world : World V S) : World (Recorded V) S :=
  world.map fun value => { value }

omit [FlagValue V] in
theorem World.recording_every {S : Type} {world : World V S}
    {holds : String → Flag V → Prop}
    {recordedHolds : String → Flag (Recorded V) → Prop}
    (every : world.flags.Every holds)
    (implies : ∀ name flag, holds name (Flag.map Recorded.value flag) →
      recordedHolds name flag) : world.recording.flags.Every recordedHolds := by
  intro name flag found
  change (FlagSet.map _ world.flags).lookup? name = some flag at found
  rw [FlagSet.lookup?_map] at found
  obtain ⟨original, foundOriginal, rfl⟩ := Option.map_eq_some_iff.mp found
  exact implies name _ (every name original foundOriginal)

omit [FlagValue V] in
theorem World.map_recording {S : Type} (world : World V S) :
    world.recording.map Recorded.value = world := by
  obtain ⟨⟨flags⟩, store, time, journal⟩ := world
  have same : (flags.mapValues (Flag.map fun value =>
      ({ value } : Recorded V))).mapValues (Flag.map Recorded.value) =
        flags := by
    apply SortedMap.ext_get?
    intro name
    rw [SortedMap.get?_mapValues, SortedMap.get?_mapValues, Option.map_map]
    exact Option.map_id_apply
  simp only [recording, map, FlagSet.map, same]

namespace System

omit [FlagValue V] in
/-- What a flag was last set from, if it was set at all. -/
def lastTaken? (system : System (Recorded V)) (name : String) : Option String :=
  (system.world.flags.lookup? name).bind fun flag => flag.value.taken.head?

/-- Remembering does not change a run. -/
theorem run_recording (config : Config) (world : World V MemoryStore)
    (moves : List Move) :
    ((fresh config world.recording).run moves).map Recorded.value =
      (fresh config world).run moves := by
  rw [← run_map Recorded.respects]
  change (fresh config (world.recording.map Recorded.value)).run moves = _
  rw [world.map_recording]

theorem RefusedInLoad.of_recording {config : Config}
    {world : World V MemoryStore} {moves : List Move} {name : String}
    {entry : Entry}
    (refused : RefusedInLoad (fresh config world.recording) moves name entry) :
    RefusedInLoad (fresh config world) moves name entry := by
  obtain ⟨earlier, move, later, parted, loads, held, flag, found, dynamic,
    refuses⟩ := refused
  refine ⟨earlier, move, later, parted, ?_, ?_⟩
  · rw [← run_recording]
    cases move <;> exact loads
  · rw [← run_recording]
    refine ⟨held, flag.map Recorded.value, ?_, dynamic, ?_⟩
    · change (FlagSet.map Recorded.value _).lookup? name = _
      rw [FlagSet.lookup?_map, found]
      rfl
    · exact (Recorded.respects.refuses_iff flag.value entry.value).mpr refuses

/-- Whenever a loop waits with nothing to take, what a dynamic flag was last
set from is what the store holds for it, unless the flag refused this very
entry when a load read it. -/
theorem lastTaken?_of_isIdle {config : Config} {world : World V MemoryStore}
    (reachable : world.store.Reachable)
    (valid : world.flags.Every fun name _ => Key.isFlagName name = true)
    (sturdy : world.flags.Every fun _ flag => FlagValue.Sturdy flag.value)
    (moves : List Move) (idle : ((fresh config world).run moves).IsIdle)
    {name : String} {flag : Flag V} {entry : Entry}
    (found : ((fresh config world).run moves).world.flags.lookup? name =
      some flag) (dynamic : flag.dynamic = true)
    (held : ((fresh config world).run moves).world.store.entries.get?
      ((fresh config world).directory ++ name) = some entry)
    (filled : entry.value ≠ "") :
    ((fresh config world.recording).run moves).lastTaken? name =
        some entry.value ∨
      RefusedInLoad (fresh config world) moves name entry := by
  have takes : Takes (fun _ _ => True) fun (flag : Flag (Recorded V)) text =>
      flag.value.taken.head? = some text := by
    intro _ flag text _ done
    exact congrArg List.head? (Recorded.taken_set done)
  have settled := settled_run config
    (World.recording_every valid fun _ _ valid => valid)
    (World.recording_every sturdy fun _ _ => Recorded.respects.sturdy)
    (fun _ _ _ _ => trivial) (fun _ _ _ => trivial) takes reachable moves
  obtain ⟨log, traces⟩ := reachable.traces
  have recordingTraces : world.recording.store.Traces log := traces
  obtain ⟨more, sound⟩ := (Sound.fresh recordingTraces config).run moves
  have directory := run_directory (fresh config world.recording) moves
  rw [← run_recording] at idle found held
  obtain ⟨initialized, passed, nothingUndone⟩ := sound.idle idle
  change (FlagSet.map Recorded.value _).lookup? name = _ at found
  rw [FlagSet.lookup?_map] at found
  obtain ⟨recorded, foundRecorded, rfl⟩ := Option.map_eq_some_iff.mp found
  have heldRecorded : ((fresh config world.recording).run
      moves).world.store.entries.get? (((fresh config world.recording).run
        moves).directory ++ name) = some entry := by
    rw [directory]
    exact held
  rcases settled initialized name recorded entry foundRecorded dynamic
    heldRecorded filled (passed name entry heldRecorded) with
      taken | refused | ⟨number, event, watch, undoing, _⟩
  · left
    rw [lastTaken?, foundRecorded]
    exact taken
  · exact .inr refused.of_recording
  · exact absurd undoing (nothingUndone number name event watch)

/-- A course in which others turn a switch on and a loop takes the change. -/
def turningOn : List Move :=
  [.load, .start true, .loop 0 0, .loop 0 0,
    .act (.write (.set "/c/a" "true" none)), .loop 0 0]

theorem lastTaken?_of_turningOn :
    ((fresh { directory := "/c" } (World.switch 4).recording).run
        turningOn).lastTaken? "a" = some "true" ∨
      RefusedInLoad (fresh { directory := "/c" } (World.switch 4)) turningOn
        "a" ⟨"true", 1⟩ := by
  have known : (((fresh { directory := "/c" } (World.switch 4)).run
      turningOn).world.flags.lookup? "a").any Flag.dynamic = true := by
    decide +kernel
  obtain ⟨flag, found, dynamic⟩ := (Option.any_eq_true _ _).mp known
  have held : ((fresh { directory := "/c" } (World.switch 4)).run
      turningOn).world.store.entries.get? "/c/a" = some ⟨"true", 1⟩ := by
    decide +kernel
  exact lastTaken?_of_isIdle (.empty 4) (FlagSet.switch_valid (by decide))
    (FlagSet.switch_sturdy "a") turningOn ⟨0, by decide +kernel⟩ found dynamic
    held (by decide)

end System

end LiveFlags
