import LiveFlags.Proofs.Sync.Custody
import LiveFlags.Proofs.Sync.StartupOnly
import Mathlib.Data.List.Infix

/-!
# Flags for start-up only are left alone afterwards

Once the initial load is over, a flag that is not dynamic is handed nothing by
any loop, and nothing is written under its key.  No loop is about to undo a
change under this key either, which is what the steps of the loops preserve.
-/

namespace LiveFlags

/-! ### The writes in a journal -/

namespace World

variable {V S W : Type}

def written (world : World V S) : List WriteCommand :=
  world.journal.filterMap fun entry => match entry.2 with
    | .write command _ => some command
    | _ => none

@[simp] theorem written_tell (world : World V S) (notice : Notice) :
    (world.tell notice).written = world.written := by
  simp [written, tell, enter]

@[simp] theorem written_tellAll (world : World V S) (notices : List Notice) :
    (world.tellAll notices).written = world.written := by
  induction notices generalizing world with
  | nil => rfl
  | cons notice later induction =>
      exact (induction (world.tell notice)).trans (world.written_tell notice)

/-- What happened to a world between two times: a flag was not set and nothing
was written under its key. -/
structure Spares (directory name : String) (before after : World V S) :
    Prop where
  flag : after.flags.lookup? name = before.flags.lookup? name
  writes : ∃ commands, after.written = before.written ++ commands ∧
    ∀ command ∈ commands, command.key ≠ directory ++ name

namespace Spares

variable {directory name : String} {before after : World V S}

theorem of_same (flag : after.flags.lookup? name = before.flags.lookup? name)
    (written : after.written = before.written) :
    Spares directory name before after :=
  ⟨flag, [], by rw [written, List.append_nil], nofun⟩

theorem refl (world : World V S) : Spares directory name world world :=
  .of_same rfl rfl

theorem tellAll (spares : Spares directory name before after)
    (notices : List Notice) :
    Spares directory name before (after.tellAll notices) := by
  constructor
  · rw [tellAll_flags]
    exact spares.flag
  · rw [written_tellAll]
    exact spares.writes

theorem tell (spares : Spares directory name before after) (notice : Notice) :
    Spares directory name before (after.tell notice) :=
  spares.tellAll [notice]

end Spares

variable [KeyValueStore S W] {directory name : String} {world : World V S}

theorem spares_openWatch (path : String) (options : WatchOptions) :
    Spares directory name world (world.openWatch path options).2 :=
  .of_same rfl (by simp [written, openWatch, enter])

theorem spares_write {command : WriteCommand}
    (other : command.key ≠ directory ++ name) :
    Spares directory name world (world.write command).2 := by
  refine ⟨rfl, [command], by simp [written, write, enter], ?_⟩
  intro among member
  rwa [List.mem_singleton.mp member]

theorem spares_load [FlagValue V] (fixed : world.flags.IsFixed name) :
    Spares directory name world (world.load directory true).2 := by
  cases read : KeyValueStore.get world.store directory .everything with
  | error error =>
      rw [load, World.read, read]
      exact .of_same rfl (by simp [written, enter])
  | ok snapshot =>
      have kept : (Load.ofNodes directory true world.flags
          snapshot.nodes).flags.lookup? name = world.flags.lookup? name :=
        Load.lookup?_foldl_visit_of_isFixed fixed snapshot.nodes
      rw [load_of_get read]
      refine .of_same ?_ ?_
      · rw [tellAll_flags]
        exact kept
      · rw [written_tellAll]
        simp [written, enter]

end World

/-- Whether a loop is about to read everything again. -/
def Phase.isRereading {W : Type} : Phase W → Bool
  | .rereading _ => true
  | _ => false

/-- What a recovery tells after its load. -/
def LoadResult.closing (cursor : Nat) : LoadResult → List Notice
  | .loaded index applied _ => [.reread applied index]
  | .unreadable error => [.rereadFailed (.store error) cursor]
  | .crashed _ => []

theorem Turn.reread_world {V S W : Type} [FlagValue V] [KeyValueStore S W]
    (directory : String) (cursor : Nat) (world : World V S) :
    (Turn.reread (W := W) directory cursor world).world =
      (world.load directory true).2.tellAll
        ((world.load directory true).1.closing cursor) := by
  unfold reread
  split
  all_goals
    rename_i loaded
    rw [loaded]
    rfl

namespace Turn

variable {V S W : Type} {directory name : String} {world : World V S}

theorem spares_enter (timing : WatchTiming) (draw cursor : Nat) (watch : W)
    (state : WatchState) {before : World V S}
    (spares : before.Spares directory name world) :
    before.Spares directory name
      (Turn.enter timing draw cursor world watch state).world := by
  cases state with
  | stopped => exact spares.tell _
  | _ => exact spares

variable [FlagValue V]

theorem spares_take (cursor : Nat) (watch : W) (event : ChangeEvent)
    (fixed : world.flags.IsFixed name) :
    world.Spares directory name
      (Turn.take directory cursor world watch event).world := by
  have handled : world.Spares directory name
      { world with flags := (handleEvent directory world.flags event).flags } :=
    .of_same (lookup?_handleEvent_of_isFixed fixed event) rfl
  unfold take
  dsimp only
  cases (handleEvent directory world.flags event).notice with
  | none =>
      cases (handleEvent directory world.flags event).verdict <;> exact handled
  | some notice =>
      cases (handleEvent directory world.flags event).verdict <;>
        exact handled.tell notice

theorem spares_receive (config : Config) (draw cursor : Nat)
    (world : World V S) (watch : W) (arrival : Arrival)
    (fixed : world.flags.IsFixed name) :
    world.Spares config.normalized name
      (Turn.receive config draw cursor world watch arrival).world := by
  cases arrival with
  | event event => exact spares_take cursor watch event fixed
  | failure error => exact spares_enter _ _ _ _ _ ((World.Spares.refl _).tell _)
  | pending => exact .refl world
  | ended => exact spares_enter _ _ _ _ _ ((World.Spares.refl _).tell _)

theorem spares_reread [KeyValueStore S W] (cursor : Nat)
    (fixed : world.flags.IsFixed name) :
    world.Spares directory name
      (Turn.reread (W := W) directory cursor world).world := by
  rw [reread_world]
  exact (World.spares_load fixed).tellAll _

end Turn

/-- A loop is not about to write under the key of a flag. -/
def Phase.Shuns {W : Type} (directory name : String) (phase : Phase W) : Prop :=
  ∀ event, phase.undoing? = some event → event.key ≠ directory ++ name

theorem Phase.Shuns.of_idle {W : Type} {directory name : String}
    {phase : Phase W} (idle : phase.undoing? = none) :
    phase.Shuns directory name := by
  intro event undoing
  rw [idle] at undoing
  cases undoing

theorem Turn.shuns_receive {V S W : Type} [FlagValue V] {name : String}
    (config : Config) (draw cursor : Nat) (world : World V S) (watch : W)
    (arrival : Arrival) (fixed : world.flags.IsFixed name) :
    (Turn.receive config draw cursor world watch arrival).phase.Shuns
      config.normalized name := by
  cases arrival with
  | event event =>
      rw [receive, take]
      cases verdict :
          (handleEvent config.normalized world.flags event).verdict with
      | settled => exact .of_idle rfl
      | refused refusing =>
          rintro other same
          cases same
          exact key_ne_of_refused fixed verdict
      | crashed detail => exact .of_idle rfl
  | failure error =>
      rw [receive]
      cases WatchState.afterError error <;> exact .of_idle rfl
  | pending => exact .of_idle rfl
  | ended => exact .of_idle rfl

theorem ChangeEvent.key_undo (event : ChangeEvent) :
    event.undo.key = event.key := by
  unfold undo
  cases event.previous <;> rfl

namespace WatchLoop

variable {V S W : Type} [FlagValue V] [KeyValueStore S W]
variable {config : Config} {draw cursor : Nat} {finished : Nat → Bool}
  {loop : WatchLoop W} {world : World V S} {turn : Turn V S W} {name : String}

theorem Steps.spares
    (steps : loop.Steps config draw finished cursor world turn)
    (fixed : world.flags.IsFixed name)
    (shuns : loop.phase.Shuns config.normalized name) :
    world.Spares config.normalized name turn.world ∧
      turn.phase.Shuns config.normalized name := by
  cases steps with
  | begins predecessor queued complete =>
      exact ⟨(World.Spares.refl world).tell _, .of_idle rfl⟩
  | opens opening watch later opened =>
      cases opened
      exact ⟨World.spares_openWatch _ _, .of_idle rfl⟩
  | stops watch attending cancelled =>
      exact ⟨(World.Spares.refl world).tell _, .of_idle rfl⟩
  | receives watch streaming running ready arrival left store next =>
      have received := Turn.spares_receive config draw cursor
        { world with store } left arrival fixed
      exact ⟨⟨received.flag, received.writes⟩,
        Turn.shuns_receive config draw cursor _ left arrival fixed⟩
  | undoes flag event watch undoing answer later written =>
      cases written
      have other : event.key ≠ config.normalized ++ name := by
        apply shuns
        rw [undoing]
        rfl
      refine ⟨(World.spares_write ?_).tell _, .of_idle rfl⟩
      rwa [event.key_undo]
  | resumes state deadline watch pausing running due =>
      refine ⟨.refl world, ?_⟩
      cases state <;> exact .of_idle rfl
  | rereads watch rereading =>
      refine ⟨Turn.spares_reread cursor fixed, ?_⟩
      unfold Turn.reread
      split <;> exact .of_idle rfl

end WatchLoop

namespace Custody

variable {V S W : Type} [FlagValue V] [KeyValueStore S W]

omit [FlagValue V] [KeyValueStore S W] in
/-- No loop is about to write under the key of a flag. -/
def Shuns (custody : Custody V S W) (directory name : String) : Prop :=
  ∀ number phase, custody.sync.phase? number = some phase →
    phase.Shuns directory name

variable {custody : Custody V S W} {name : String}

theorem spares_loop (shuns : custody.Shuns custody.sync.directory name)
    (fixed : custody.world.flags.IsFixed name) (number draw : Nat) :
    custody.world.Spares custody.sync.directory name
        (custody.step (.loop number draw)).world ∧
      (custody.step (.loop number draw)).Shuns custody.sync.directory
        name := by
  rw [step]
  split
  · rename_i sync world stepped
    obtain ⟨loop, turn, found, turned, rfl, rfl⟩ :=
      Synchronizer.stepLoop?_eq_some.mp stepped
    have before := shuns number loop.phase (Synchronizer.phase?_of_loop found)
    obtain ⟨spares, after⟩ := (WatchLoop.steps turned).spares fixed before
    refine ⟨spares, ?_⟩
    intro other phase there
    rw [Synchronizer.phase?_turned found] at there
    split at there
    · cases there
      exact after
    · exact shuns other phase there
  · exact ⟨.refl _, shuns⟩

/-- A call leaves the settings as they are and moves no loop, though it may add
one that waits in the queue. -/
theorem sync_called (custody : Custody V S W) (call : Call) :
    (custody.called call).sync.config = custody.sync.config ∧
      ∀ number phase, (custody.called call).sync.phase? number = some phase →
        custody.sync.phase? number = some phase ∨ phase.isQueued = true := by
  cases call with
  | load =>
      have settings := (custody.sync.loadInitially_cases custody.world).2
      change (custody.sync.loadInitially custody.world).2.1.config = _ ∧
        ∀ number phase, (custody.sync.loadInitially
          custody.world).2.1.phase? number = some phase → _
      rcases settings with same | ⟨index, loaded⟩
      · rw [same]
        exact ⟨rfl, fun _ _ => .inl⟩
      · rw [loaded]
        exact ⟨rfl, fun _ _ => .inl⟩
  | start hasRuntime =>
      rw [called]
      split
      · rename_i next started
        have same := Synchronizer.SameLoops.start started
        exact ⟨same.config, same.added⟩
      · exact ⟨rfl, fun _ _ => .inl⟩
  | stop =>
      have same := Synchronizer.SameLoops.stop custody.sync custody.world
      exact ⟨same.config, same.added⟩
  | wait => exact ⟨rfl, fun _ _ => .inl⟩
  | release =>
      simp only [called, Synchronizer.release]
      split
      · rename_i number _
        refine ⟨rfl, fun other phase found => .inl ?_⟩
        rwa [custody.sync.phase?_cancelLoop number] at found
      · exact ⟨rfl, fun _ _ => .inl⟩

theorem Shuns.called {directory : String} (shuns : custody.Shuns directory name)
    (call : Call) : (custody.called call).Shuns directory name := by
  intro number phase found
  rcases (custody.sync_called call).2 number phase found with old | queued
  · exact shuns number phase old
  · cases phase with
    | queued predecessor => exact .of_idle rfl
    | _ => cases queued

theorem directory_step (custody : Custody V S W) (move : Move V S) :
    (custody.step move).sync.directory = custody.sync.directory := by
  apply congrArg Config.normalized
  cases move with
  | call call =>
      rw [step]
      split
      · exact (custody.sync_called call).1
      · rfl
  | finish =>
      rw [step]
      split <;> rfl
  | abandon =>
      rw [step]
      split <;> rfl
  | loop number draw =>
      rw [step]
      split
      · rename_i sync world stepped
        obtain ⟨loop, turn, _, _, rfl, _⟩ :=
          Synchronizer.stepLoop?_eq_some.mp stepped
        rfl
      · rfl
  | others world => rfl

theorem directory_run (custody : Custody V S W) (moves : List (Move V S)) :
    (custody.run moves).sync.directory = custody.sync.directory := by
  induction moves generalizing custody with
  | nil => rfl
  | cons move later induction =>
      exact (induction (custody.step move)).trans (custody.directory_step move)

/-- Calls on an initialized synchronizer tell something at most. -/
theorem spares_called (initialized : custody.sync.initialized = true)
    (call : Call) :
    custody.world.Spares custody.sync.directory name
      (custody.called call).world := by
  cases call with
  | load =>
      have same : custody.sync.loadInitially custody.world =
          (.failed .alreadyInitialized, custody.sync, custody.world) :=
        if_pos initialized
      rw [called, same]
      exact .refl _
  | start hasRuntime =>
      rw [called]
      split <;> exact .refl _
  | stop =>
      simp only [called, Synchronizer.stop]
      split
      · exact (World.Spares.refl _).tell _
      · exact .refl _
  | wait => exact .refl _
  | release =>
      simp only [called, Synchronizer.release]
      split
      · exact (World.Spares.refl _).tell _
      · exact .refl _

theorem spares_step (initialized : custody.sync.initialized = true)
    (fixed : custody.world.flags.IsFixed name)
    (shuns : custody.Shuns custody.sync.directory name)
    {move : Move V S} (own : ∀ world, move ≠ .others world) :
    custody.world.Spares custody.sync.directory name
      (custody.step move).world := by
  cases move with
  | call call =>
      rw [step]
      split
      · exact spares_called initialized call
      · exact .refl _
  | finish =>
      rw [step]
      split <;> exact .refl _
  | abandon =>
      rw [step]
      split <;> exact .refl _
  | loop number draw => exact (spares_loop shuns fixed number draw).1
  | others world => exact absurd rfl (own world)

theorem Shuns.step (sound : custody.Sound)
    (shuns : custody.Shuns custody.sync.directory name)
    (fixed : custody.sync.initialized = true →
      custody.world.flags.IsFixed name) (move : Move V S) :
    (custody.step move).Shuns custody.sync.directory name := by
  cases move with
  | call call =>
      rw [Custody.step]
      split
      · exact shuns.called call
      · exact shuns
  | finish =>
      rw [Custody.step]
      split <;> exact shuns
  | abandon =>
      rw [Custody.step]
      split <;> exact shuns
  | loop number draw =>
      cases initialized : custody.sync.initialized with
      | true => exact (spares_loop shuns (fixed initialized) number draw).2
      | false =>
          -- Before the initial load there is no loop that could take a turn.
          have none : custody.sync.loops = [] := by
            by_contra any
            rw [sound.ready any] at initialized
            cases initialized
          rw [Custody.step, Synchronizer.stepLoop?, none]
          exact shuns
  | others world => exact shuns

/-- The next step of a loop that is about to read everything again. -/
theorem world_reread {number : Nat}
    (rereading : (custody.sync.phase? number).any Phase.isRereading = true)
    (draw : Nat) :
    (custody.step (.loop number draw)).world =
      (custody.world.load custody.sync.directory true).2.tellAll
        ((custody.world.load custody.sync.directory true).1.closing
          custody.sync.cursor) := by
  obtain ⟨phase, here, about⟩ := (Option.any_eq_true _ _).mp rereading
  obtain ⟨loop, found, same⟩ := Option.map_eq_some_iff.mp here
  have stepped : loop.step? custody.sync.config draw custody.sync.isFinished
      custody.sync.cursor custody.world =
        some (Turn.reread custody.sync.directory custody.sync.cursor
          custody.world) := by
    rw [WatchLoop.step?, same]
    cases phase with
    | rereading watch => rfl
    | _ => cases about
  rw [step, Synchronizer.stepLoop?_eq_some.mpr
    ⟨loop, _, found, stepped, rfl, rfl⟩]
  exact Turn.reread_world _ _ _

theorem shuns_run (config : Config) (world : World V S)
    (moves : List (Move V S))
    (fixed : ∀ earlier, earlier <+: moves →
      let custody := (fresh config world : Custody V S W).run earlier
      custody.sync.initialized = true → custody.world.flags.IsFixed name) :
    ((fresh config world : Custody V S W).run moves).Shuns config.normalized
      name := by
  induction moves using List.reverseRecOn with
  | nil => exact nofun
  | append_singleton moves move induction =>
      have before := induction fun earlier isPrefix =>
        fixed earlier (isPrefix.trans (List.prefix_append _ _))
      have sound := (Sound.fresh (W := W) config world).run moves
      have directory :
          ((fresh config world : Custody V S W).run moves).sync.directory =
            config.normalized := directory_run _ _
      rw [← directory] at before ⊢
      rw [run, List.foldl_concat]
      exact before.step sound (fixed moves (List.prefix_append _ _)) move

/-- Once the initial load is over, no step of a synchronizer sets a flag that
is not dynamic or writes under its key, whatever the store yields and answers.
A recovery that gets its snapshot does to the flags, tells and reports what a
full load does with the entries of the others.  All this holds for any type of
values, so also for one that keeps count of all that a flag is handed. -/
theorem startup_only_frozen (config : Config) (world : World V S)
    (moves : List (Move V S)) (name : String)
    (fixed : ∀ earlier, earlier <+: moves →
      let custody := (fresh config world : Custody V S W).run earlier
      custody.sync.initialized = true → custody.world.flags.IsFixed name)
    (initialized : ((fresh config world : Custody V S W).run
      moves).sync.initialized = true) :
    let custody : Custody V S W := (fresh config world).run moves
    (∀ move, (∀ later, move ≠ .others later) →
      custody.world.Spares config.normalized name (custody.step move).world) ∧
    ∀ number draw snapshot,
      (custody.sync.phase? number).any Phase.isRereading = true →
      KeyValueStore.get custody.world.store config.normalized .everything =
        .ok snapshot →
      let others := snapshot.nodes.filter fun node =>
        !node.isFrozen config.normalized custody.world.flags
      let full := (World.offering custody.world.flags
        { snapshot with nodes := others }).load config.normalized false
      let later := (custody.step (.loop number draw)).world
      later.flags = full.2.flags ∧
        later.told = custody.world.told ++ full.2.told ++
          full.1.closing custody.sync.cursor ∧
        (custody.world.load config.normalized true).1 = full.1 := by
  intro custody
  have directory : custody.sync.directory = config.normalized :=
    directory_run (fresh config world) moves
  have shuns := shuns_run config world moves fixed
  have now := fixed moves List.prefix_rfl initialized
  constructor
  · intro move own
    rw [← directory] at shuns ⊢
    exact spares_step initialized now shuns own
  · intro number draw snapshot rereading read others full later
    obtain ⟨result, flags, told⟩ := World.load_onlyDynamic read
    have world : later = _ := world_reread rereading draw
    rw [directory, result] at world
    rw [world]
    refine ⟨?_, ?_, result⟩
    · rw [World.tellAll_flags]
      exact flags
    · rw [World.told_tellAll, told]

/-- A value that refuses one text and keeps all that it is handed. -/
structure Ledger where
  handed : List String := []
deriving DecidableEq

instance : FlagValue Ledger where
  set ledger input :=
    (if input = "y" then .failed (.parse "no") else .done,
      ⟨ledger.handed ++ [input]⟩)
  current _ := ""
  typeName _ := "ledger"

/-- Two flags, of which only the second is dynamic, and a store with a value
for each. -/
def twins : World Ledger ScriptedStore :=
  { flags := (FlagSet.empty.replace "a" { value := {} }).replace "b"
      { value := {}, dynamic := true }
    store :=
      { snapshot :=
          ⟨1, [⟨"/c/a", "x", false, 1⟩, ⟨"/c/b", "x", false, 1⟩]⟩ } }

/-- Settings with no pause before a recovery. -/
def hasty : Config := { directory := "/c", watch := { recoveryDelay := 0 } }

/-- A run up to the recovery from a lost history, before which a change for each
flag arrives. -/
def overtaken : List (Move Ledger ScriptedStore) :=
  let opening : List (Move Ledger ScriptedStore) :=
    [.call .load, .call (.start true), .loop 0 0, .loop 0 0]
  let watching := (fresh hasty twins).run opening
  let store := watching.world.store
    |>.push (.ok (.set "/c/a" "y" 2 (some "x")))
    |>.push (.ok (.set "/c/b" "y" 3 (some "x")))
    |>.push (.error (.compacted 3 9))
  opening ++
    [.others { watching.world with store }, .loop 0 0, .loop 0 0, .loop 0 0,
      .loop 0 0, .loop 0 0]

/-- The change for the flag that is not dynamic is not handed to it and not
undone, and the recovery passes over its entry. -/
theorem overtaken_frozen :
    let custody : Custody Ledger ScriptedStore Nat :=
      (fresh hasty twins).run overtaken
    let later := (custody.step (.loop 0 0)).world
    (later.flags.lookup? "a").map (·.value.handed) = some ["x"] ∧
      later.written = [.set "/c/b" "x" (some 3)] ∧
      (later.flags.lookup? "b").map (·.value.handed) =
        some ["x", "y", "x"] := by
  intro custody later
  have within : ∀ earlier ∈ overtaken.inits,
      let custody : Custody Ledger ScriptedStore Nat :=
        (fresh hasty twins).run earlier
      custody.sync.initialized = true → custody.world.flags.IsFixed "a" := by
    decide +kernel
  have fixed : ∀ earlier, earlier <+: overtaken →
      let custody : Custody Ledger ScriptedStore Nat :=
        (fresh hasty twins).run earlier
      custody.sync.initialized = true → custody.world.flags.IsFixed "a" :=
    fun earlier isPrefix => within earlier ((List.mem_inits _ _).mpr isPrefix)
  obtain ⟨spares, recovers⟩ := startup_only_frozen hasty twins overtaken "a"
    fixed (by decide +kernel)
  obtain ⟨flag, _⟩ := spares (.loop 0 0) nofun
  have before : (custody.world.flags.lookup? "a").map (·.value.handed) =
    some ["x"] := by decide +kernel
  refine ⟨?_, by decide +kernel, ?_⟩
  · rw [flag]
    exact before
  · obtain ⟨same, _⟩ := recovers 0 0 custody.world.store.snapshot
      (by decide +kernel) (by decide +kernel)
    rw [same]
    decide +kernel

end Custody

end LiveFlags
