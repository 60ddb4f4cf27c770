import LiveFlags.Proofs.SortedMap
import LiveFlags.Proofs.Sync.Lifecycle

/-!
# A system does not look into the values of its flags

All that a synchronizer does with a value is to set it and to look at the
outcome.  So a map between types of values that respects setting respects whole
runs: mapping first and running afterwards is the same as running first and
mapping afterwards.
-/

namespace LiveFlags

theorem SortedMap.get?_mapValues {α β : Type} (f : α → β) (map : SortedMap α)
    (key : String) : (map.mapValues f).get? key = (map.get? key).map f := by
  obtain ⟨entries, sorted⟩ := map
  simp only [mapValues, get?]
  clear sorted
  induction entries with
  | nil => rfl
  | cons entry later induction =>
      rw [List.map_cons, lookup_cons_eq, lookup_cons_eq]
      by_cases same : key = entry.1
      · rw [if_pos same, if_pos same]
        rfl
      · rw [if_neg same, if_neg same]
        exact induction

variable {U V : Type} [FlagValue U] [FlagValue V]

/-- A map between values that respects setting. -/
def FlagValue.Respects (f : U → V) : Prop :=
  ∀ value input,
    FlagValue.set (f value) input =
      ((FlagValue.set value input).1, f (FlagValue.set value input).2)

section Maps

omit [FlagValue U] [FlagValue V]

def Flag.map (f : U → V) (flag : Flag U) : Flag V :=
  { value := f flag.value, usage := flag.usage, dynamic := flag.dynamic }

def FlagSet.map (f : U → V) (registry : FlagSet U) : FlagSet V :=
  ⟨registry.flags.mapValues (Flag.map f)⟩

def Load.map (f : U → V) (load : Load U) : Load V :=
  { flags := load.flags.map f
    applied := load.applied
    failures := load.failures
    notices := load.notices
    crash := load.crash }

def Handling.map (f : U → V) (handling : Handling U) : Handling V :=
  ⟨handling.verdict, handling.flags.map f, handling.notice⟩

def World.map {S : Type} (f : U → V) (world : World U S) : World V S :=
  { flags := world.flags.map f
    store := world.store
    time := world.time
    journal := world.journal }

def Turn.map {S W : Type} (f : U → V) (turn : Turn U S W) : Turn V S W :=
  ⟨turn.phase, turn.cursor, turn.world.map f⟩

def System.map (f : U → V) (system : System U) : System V :=
  ⟨system.sync, system.world.map f⟩

@[simp] theorem FlagSet.lookup?_map (f : U → V) (registry : FlagSet U)
    (name : String) :
    (registry.map f).lookup? name = (registry.lookup? name).map (Flag.map f) :=
  SortedMap.get?_mapValues _ _ _

theorem FlagSet.map_replace (f : U → V) (registry : FlagSet U)
    (name : String) (flag : Flag U) :
    (registry.replace name flag).map f =
      (registry.map f).replace name (flag.map f) := by
  have same : ((registry.replace name flag).map f).flags =
      ((registry.map f).replace name (flag.map f)).flags := by
    apply SortedMap.ext_get?
    intro sought
    have left := (registry.replace name flag).lookup?_map f sought
    have right := (registry.map f).lookup?_replace name (flag.map f) sought
    rw [lookup?_replace] at left
    rw [lookup?_map] at right
    refine left.trans (Eq.trans ?_ right.symm)
    split <;> rfl
  exact congrArg FlagSet.mk same

@[simp] theorem World.tellAll_map {S : Type} (f : U → V) (world : World U S)
    (notices : List Notice) :
    (world.map f).tellAll notices = (world.tellAll notices).map f := by
  induction notices generalizing world with
  | nil => rfl
  | cons notice later induction => exact induction (world.tell notice)

theorem Turn.enter_map {S W : Type} (timing : WatchTiming) (draw cursor : Nat)
    (world : World U S) (watch : W) (state : WatchState) :
    Turn.enter timing draw cursor (world.map f) watch state =
      (Turn.enter timing draw cursor world watch state).map f := by
  cases state <;> rfl

end Maps

section Respecting

variable {f : U → V} (respects : FlagValue.Respects f)

include respects

theorem Flag.set_map (flag : Flag U) (input : String) :
    (flag.map f).set input =
      ((flag.set input).1, (flag.set input).2.map f) := by
  unfold Flag.set
  dsimp only [Flag.map]
  rw [respects]

theorem FlagSet.apply_map (registry : FlagSet U) (name : String)
    (value : Option String) (onlyDynamic : Bool) :
    (registry.map f).apply name value onlyDynamic =
      ((registry.apply name value onlyDynamic).1,
        (registry.apply name value onlyDynamic).2.map f) := by
  unfold FlagSet.apply
  cases value.filter fun text => text ≠ "" with
  | none => rfl
  | some text =>
      dsimp only
      rw [lookup?_map]
      cases registry.lookup? name with
      | none => rfl
      | some flag =>
          rw [Option.map_some]
          dsimp only
          rw [Flag.set_map respects,
            show (flag.map f).dynamic = flag.dynamic from rfl]
          cases onlyDynamic && !flag.dynamic with
          | true => rfl
          | false => simp only [Bool.false_eq_true, if_false, map_replace]

theorem handleEvent_map (directory : String) (flags : FlagSet U)
    (event : ChangeEvent) :
    handleEvent directory (flags.map f) event =
      (handleEvent directory flags event).map f := by
  unfold handleEvent
  cases flagName directory event.key event.isDirectory with
  | error reason => rfl
  | ok name =>
      dsimp only
      rw [FlagSet.apply_map respects]
      generalize flags.apply name event.value true = answer
      obtain ⟨outcome, later⟩ := answer
      cases outcome with
      | done => rfl
      | crashed detail => rfl
      | failed error => cases error <;> rfl

theorem Load.visit_map (directory : String) (onlyDynamic : Bool)
    (load : Load U) (node : Node) :
    (load.map f).visit directory onlyDynamic node =
      (load.visit directory onlyDynamic node).map f := by
  unfold Load.visit
  rw [show (load.map f).crash = load.crash from rfl]
  cases load.crash.isSome with
  | true => rfl
  | false =>
      simp only [Bool.false_eq_true, if_false]
      cases flagName directory node.key node.isDirectory with
      | error reason => rfl
      | ok name =>
          dsimp only
          unfold Load.applyNode
          rw [show (load.map f).flags = load.flags.map f from rfl,
            FlagSet.apply_map respects]
          generalize
            load.flags.apply name (some node.value) onlyDynamic = answer
          obtain ⟨outcome, later⟩ := answer
          cases outcome with
          | done => rfl
          | crashed detail => rfl
          | failed error =>
              cases error <;> first | rfl | (cases onlyDynamic <;> rfl)

theorem Load.ofNodes_map (directory : String) (onlyDynamic : Bool)
    (flags : FlagSet U) (nodes : List Node) :
    Load.ofNodes directory onlyDynamic (flags.map f) nodes =
      (Load.ofNodes directory onlyDynamic flags nodes).map f := by
  have general : ∀ load : Load U,
      nodes.foldl (Load.visit directory onlyDynamic) (load.map f) =
        (nodes.foldl (Load.visit directory onlyDynamic) load).map f := by
    induction nodes with
    | nil => exact fun _ => rfl
    | cons node later induction =>
        intro load
        rw [List.foldl_cons, List.foldl_cons, Load.visit_map respects]
        exact induction _
  exact general { flags }

theorem World.load_map {S W : Type} [KeyValueStore S W] (world : World U S)
    (directory : String) (onlyDynamic : Bool) :
    (world.map f).load directory onlyDynamic =
      ((world.load directory onlyDynamic).1,
        (world.load directory onlyDynamic).2.map f) := by
  unfold World.load World.read
  rw [show (world.map f).store = world.store from rfl]
  cases KeyValueStore.get world.store directory .everything with
  | error error => rfl
  | ok snapshot =>
      dsimp only
      have mapped := Load.ofNodes_map respects directory onlyDynamic world.flags
        snapshot.nodes
      rw [show ((world.map f).enter (.read directory .everything)).flags =
        world.flags.map f from rfl, mapped]
      rw [show (world.enter (.read directory .everything)).flags = world.flags
        from rfl]
      generalize Load.ofNodes directory onlyDynamic world.flags snapshot.nodes =
        load
      have told := World.tellAll_map f
        { world.enter (.read directory .everything) with flags := load.flags }
        load.notices
      rw [show (load.map f).crash = load.crash from rfl]
      cases load.crash with
      | none => exact congrArg (Prod.mk _) told
      | some detail => exact congrArg (Prod.mk _) told

theorem Turn.receive_map {S W : Type} (config : Config) (draw cursor : Nat)
    (world : World U S) (watch : W) (arrival : Arrival) :
    Turn.receive config draw cursor (world.map f) watch arrival =
      (Turn.receive config draw cursor world watch arrival).map f := by
  cases arrival with
  | event event =>
      unfold Turn.receive Turn.take
      dsimp only
      rw [show (world.map f).flags = world.flags.map f from rfl,
        handleEvent_map respects]
      generalize handleEvent config.normalized world.flags event = handling
      obtain ⟨verdict, flags, notice⟩ := handling
      cases notice <;> cases verdict <;> rfl
  | failure error =>
      exact Turn.enter_map config.watch draw cursor
        (world.tell (error.notice cursor)) watch (.afterError error)
  | pending => rfl
  | ended => rfl

theorem Turn.reread_map {S W : Type} [KeyValueStore S W] (directory : String)
    (cursor : Nat) (world : World U S) :
    Turn.reread directory cursor (world.map f) =
      (Turn.reread directory cursor world).map f := by
  unfold Turn.reread
  rw [World.load_map respects]
  generalize world.load directory true = answer
  obtain ⟨result, later⟩ := answer
  cases result <;> rfl

theorem WatchLoop.step?_map {S W : Type} [KeyValueStore S W] (config : Config)
    (draw : Nat) (finished : Nat → Bool) (loop : WatchLoop W) (cursor : Nat)
    (world : World U S) :
    loop.step? config draw finished cursor (world.map f) =
      (loop.step? config draw finished cursor world).map (Turn.map f) := by
  unfold WatchLoop.step?
  cases loop.phase with
  | queued predecessor =>
      dsimp only
      split <;> rfl
  | streaming watch =>
      dsimp only
      split
      · rfl
      · rw [show (world.map f).store = world.store from rfl]
        split
        · exact congrArg some (Turn.receive_map respects config draw cursor
            { world with store := (KeyValueStore.next world.store watch).2.2 }
            _ _)
        · rfl
  | pausing state deadline watch =>
      rw [show (world.map f).time = world.time from rfl]
      dsimp only
      split
      · rfl
      · split
        · cases state <;> rfl
        · rfl
  | rereading watch => exact congrArg some (Turn.reread_map respects _ _ _)
  | opening => rfl
  | undoing name event watch => rfl
  | exited => rfl
  | crashed detail => rfl

theorem Synchronizer.loadInitially_map {S W : Type} [KeyValueStore S W]
    (sync : Synchronizer W) (world : World U S) :
    sync.loadInitially (world.map f) =
      ((sync.loadInitially world).1, (sync.loadInitially world).2.1,
        (sync.loadInitially world).2.2.map f) := by
  unfold Synchronizer.loadInitially
  split
  · rfl
  · rw [World.load_map respects]
    generalize world.load sync.directory false = answer
    obtain ⟨result, later⟩ := answer
    cases result <;> rfl

theorem System.step_map (system : System U) (move : Move) :
    (system.map f).step move = (system.step move).map f := by
  cases move with
  | act act => rfl
  | pass milliseconds => rfl
  | load =>
      unfold System.step
      dsimp only [System.map]
      rw [Synchronizer.loadInitially_map respects]
  | start hasRuntime =>
      unfold System.step
      dsimp only [System.map]
      cases system.sync.start hasRuntime <;> rfl
  | stop =>
      unfold System.step
      dsimp only [System.map]
      unfold Synchronizer.stop
      split <;> rfl
  | join =>
      by_cases complete : system.sync.task.all system.sync.isFinished = true
      · have mappedOver : (system.map f).sync.task.all
            (system.map f).sync.isFinished = true := complete
        rw [System.step_join, System.step_join, if_pos complete,
          if_pos mappedOver]
        rfl
      · have mappedOver : ¬ (system.map f).sync.task.all
            (system.map f).sync.isFinished = true := complete
        rw [System.step_join, System.step_join, if_neg complete,
          if_neg mappedOver]
  | loop number draw =>
      unfold System.step Synchronizer.stepLoop?
      dsimp only [System.map]
      cases system.sync.loops[number]? with
      | none => rfl
      | some loop =>
          simp only [Option.bind_eq_bind, Option.bind_some]
          rw [WatchLoop.step?_map respects]
          cases loop.step? system.sync.config draw system.sync.isFinished
            system.sync.cursor system.world <;> rfl

/-- Mapping the values of the flags does not change a run. -/
theorem System.run_map (system : System U) (moves : List Move) :
    (system.map f).run moves = (system.run moves).map f := by
  induction moves generalizing system with
  | nil => rfl
  | cons move later induction =>
      rw [run_cons, run_cons, System.step_map respects]
      exact induction _

end Respecting

end LiveFlags
