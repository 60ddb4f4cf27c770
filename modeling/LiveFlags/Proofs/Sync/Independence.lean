import LiveFlags.Proofs.Sync.Frozen
import LiveFlags.Proofs.Sync.Upkeep
import LiveFlags.Proofs.Sync.Writes

/-!
# Flags do not get in each other's way

A synchronizer takes in the snapshots that it loads and the changes that its
loops hear of, and does nothing to flags and writes nothing but what keeping
flags up to date with them comes to.  So what becomes of a flag, what is
reported about it and what is written to its key depend on nothing but its own
leaves and changes.
-/

namespace LiveFlags

variable {V : Type} [FlagValue V]

section Turns

variable {S W : Type} [KeyValueStore S W]

/-- What a world offers to a load. -/
def World.offered (world : World V S) (directory : String)
    (onlyDynamic : Bool) : List Intake :=
  match KeyValueStore.get world.store directory .everything with
  | .ok snapshot => [.snapshot onlyDynamic snapshot.nodes]
  | .error _ => []

theorem World.flags_load (world : World V S) (directory : String)
    (onlyDynamic : Bool) {upkeep : Upkeep V}
    (current : upkeep.flags = world.flags) :
    (upkeep.run directory (world.offered directory onlyDynamic)).flags =
        (world.load directory onlyDynamic).2.flags ∧
      (upkeep.run directory (world.offered directory onlyDynamic)).writes =
        upkeep.writes := by
  rw [World.offered]
  cases read : KeyValueStore.get world.store directory .everything with
  | error error =>
      rw [World.load, World.read, read]
      exact ⟨current, rfl⟩
  | ok snapshot =>
      rw [load_of_get read, tellAll_flags]
      refine ⟨?_, rfl⟩
      change (Load.ofNodes directory onlyDynamic upkeep.flags _).flags = _
      rw [current]

omit [FlagValue V] [KeyValueStore S W] in
theorem Turn.enter_flags (timing : WatchTiming) (draw cursor : Nat)
    (world : World V S) (watch : W) (state : WatchState) :
    (Turn.enter timing draw cursor world watch state).world.flags =
      world.flags := by
  cases state <;> rfl

omit [KeyValueStore S W] in
/-- A turn that receives something handles the change that arrived, if one
did. -/
theorem Turn.receive_flags (config : Config) (draw cursor : Nat)
    (world : World V S) (watch : W) (arrival : Arrival) {upkeep : Upkeep V}
    (current : upkeep.flags = world.flags) :
    (upkeep.run config.normalized
        (arrival.event?.toList.map Intake.change)).flags =
      (Turn.receive config draw cursor world watch arrival).world.flags := by
  cases arrival with
  | event event =>
      rw [receive, take]
      change (handleEvent config.normalized upkeep.flags event).flags = _
      rw [current]
      cases (handleEvent config.normalized world.flags event).verdict <;>
        cases (handleEvent config.normalized world.flags event).notice <;> rfl
  | failure error =>
      rw [receive, enter_flags]
      exact current
  | pending => exact current
  | ended =>
      rw [receive, enter_flags]
      exact current

theorem Turn.reread_flags (directory : String) (cursor : Nat)
    (world : World V S) :
    (Turn.reread directory cursor world).world.flags =
      (world.load directory true).2.flags := by
  rw [reread_world, World.tellAll_flags]

theorem Synchronizer.loadInitially_flags {sync : Synchronizer W}
    (fresh : sync.initialized = false) (world : World V S) :
    (sync.loadInitially world).2.2.flags =
      (world.load sync.directory false).2.flags := by
  rw [loadInitially, if_neg (by simp [fresh])]
  split
  · rename_i unreadable
    rw [unreadable]
  · rename_i crashed
    rw [crashed]
  · rename_i loaded
    rw [loaded]
    rfl

/-- The write that undoes a change is what the change calls for. -/
theorem ChangeEvent.answer?_toList (directory : String) (flags : FlagSet V)
    (event : ChangeEvent) :
    (event.answer? directory flags).toList =
      event.undoing (handleEvent directory flags event).verdict := by
  cases verdict : (handleEvent directory flags event).verdict with
  | refused name => rw [answer?_of_refused verdict]; rfl
  | settled => rw [answer?_of_not_refused (by simp [verdict])]; rfl
  | crashed detail => rw [answer?_of_not_refused (by simp [verdict])]; rfl

/-- A change that is handled adds the write that it calls for. -/
theorem Upkeep.writes_change {directory : String} {flags : FlagSet V}
    {upkeep : Upkeep V} (current : upkeep.flags = flags)
    (arrived : Option ChangeEvent) :
    (upkeep.run directory (arrived.toList.map Intake.change)).writes =
      upkeep.writes ++
        arrived.toList.filterMap (ChangeEvent.answer? directory flags) := by
  cases arrived with
  | none => exact (List.append_nil _).symm
  | some event =>
      have called := event.answer?_toList directory flags
      subst current
      change upkeep.writes ++ event.undoing _ = _
      rw [← called, Option.toList_some, List.filterMap_cons, List.filterMap_nil]
      cases event.answer? directory upkeep.flags <;> rfl

/-- What a turn of a loop takes in, given what it exchanges with the store. -/
def Phase.intake (phase : Phase W) (world : World V S) (directory : String)
    (heard : List (Exchange W)) : List Intake :=
  match phase with
  | .rereading _ => world.offered directory true
  | _ => (heard.filterMap Exchange.event?).map .change

omit [FlagValue V] in
theorem Phase.intake_of_ne {phase : Phase W} {directory : String}
    {world : World V S} {heard : List (Exchange W)}
    (other : ∀ watch, phase ≠ .rereading watch) :
    phase.intake world directory heard =
      (heard.filterMap Exchange.event?).map .change := by
  unfold intake
  split
  · exact absurd rfl (other _)
  · rfl

/-- What a turn takes in is all that it changes flags by and all that calls for
writes. -/
theorem WatchLoop.Steps.takes {config : Config} {draw cursor : Nat}
    {finished : Nat → Bool} {loop : WatchLoop W}
    {world : World V (Transcribed S W)} {turn : Turn V (Transcribed S W) W}
    (steps : loop.Steps config draw finished cursor world turn)
    {upkeep : Upkeep V} (current : upkeep.flags = world.flags) :
    ∃ heard, turn.world.store.exchanges = world.store.exchanges ++ heard ∧
      (upkeep.run config.normalized
          (loop.phase.intake world config.normalized heard)).flags =
        turn.world.flags ∧
      (upkeep.run config.normalized
          (loop.phase.intake world config.normalized heard)).writes =
        upkeep.writes ++ (heard.filterMap Exchange.event?).filterMap
          (ChangeEvent.answer? config.normalized world.flags) := by
  cases steps with
  | begins predecessor queued complete =>
      refine ⟨[], (List.append_nil _).symm, ?_⟩
      rw [queued]
      exact ⟨current, (List.append_nil _).symm⟩
  | opens opening watch later opened =>
      cases opened
      refine ⟨[.watch _ _ _], rfl, ?_⟩
      rw [opening]
      exact ⟨current, (List.append_nil _).symm⟩
  | stops watch attending cancelled =>
      refine ⟨[], (List.append_nil _).symm, ?_⟩
      rw [Phase.intake_of_ne]
      · exact ⟨current, (List.append_nil _).symm⟩
      · rcases attending with streaming | ⟨state, deadline, pausing⟩
        · simp [streaming]
        · simp [pausing]
  | receives watch streaming running ready arrival left store next =>
      cases next
      refine ⟨[.next watch _ _],
        congrArg Transcribed.exchanges (Turn.receive_store ..), ?_⟩
      have hears : ∀ arrival left,
          [Exchange.next watch arrival left].filterMap Exchange.event? =
            arrival.event?.toList := by
        intro arrival left
        cases arrival <;> rfl
      rw [streaming, Phase.intake_of_ne (by simp), hears]
      exact ⟨Turn.receive_flags config draw cursor _ _ _ current,
        Upkeep.writes_change current _⟩
  | undoes flag event watch undoing answer later written =>
      cases written
      refine ⟨[.write _ _], rfl, ?_⟩
      rw [undoing]
      exact ⟨current, (List.append_nil _).symm⟩
  | resumes state deadline watch pausing running due =>
      refine ⟨[], (List.append_nil _).symm, ?_⟩
      rw [pausing]
      exact ⟨current, (List.append_nil _).symm⟩
  | rereads watch rereading =>
      refine ⟨[], ?_, ?_⟩
      · rw [List.append_nil, Turn.reread_store]
      · rw [rereading, Turn.reread_flags, List.filterMap_nil,
          List.filterMap_nil, List.append_nil]
        exact world.flags_load config.normalized true current

end Turns

namespace Client

variable {S W : Type} [KeyValueStore S W]

/-- What a client takes in at a move: the snapshot that it loads, or the changes
that it hears of. -/
def intake (client : Client V S W) (move : Move V S) : List Intake :=
  match move with
  | .load =>
      if client.sync.initialized then []
      else client.world.offered client.directory false
  | .loop number _ =>
      match client.sync.phase? number with
      | some phase =>
          phase.intake client.world client.directory (client.heard move)
      | none => []
  | _ => []

def intakes (start : Client V S W) (moves : List (Move V S)) : List Intake :=
  start.along intake moves

/-- An upkeep has the flags of a client, and what it writes is what the client
wrote or is about to write. -/
structure Follows (client : Client V S W) (upkeep : Upkeep V) : Prop where
  flags : upkeep.flags = client.world.flags
  writes : upkeep.writes = client.writes ++ client.sync.due

/-- A loop that has to wait takes in nothing. -/
theorem intake_of_waiting {client : Client V S W} {number draw : Nat}
    (waits : client.sync.stepLoop? draw number client.world = none)
    (exchanges : (client.step (.loop number draw)).world.store.exchanges =
      client.world.store.exchanges) :
    client.intake (.loop number draw) = [] := by
  rw [intake, heard_eq_nil exchanges]
  cases phase : client.sync.phase? number with
  | none => rfl
  | some there =>
      refine Phase.intake_of_ne ?_
      rintro watch rfl
      obtain ⟨loop, found, rereading⟩ := Option.map_eq_some_iff.mp phase
      have steps : ∃ turn, loop.step? client.sync.config draw
          client.sync.isFinished client.sync.cursor client.world =
            some turn := by
        rw [WatchLoop.step?, rereading]
        exact ⟨_, rfl⟩
      obtain ⟨turn, stepped⟩ := steps
      have some := Synchronizer.stepLoop?_eq_some.mpr
        ⟨loop, turn, found, stepped, rfl, rfl⟩
      rw [waits] at some
      cases some

namespace Follows

variable {client : Client V S W} {upkeep : Upkeep V}

theorem step (orderly : client.sync.IsOrderly)
    (follows : client.Follows upkeep) {move : Move V S}
    (unequipped : move.equipped = id) :
    (client.step move).Follows
      (upkeep.run client.directory (client.intake move)) := by
  have added := writes_due_step orderly move
  rw [← follows.writes] at added
  -- A move that takes in nothing and hears nothing changes nothing here.
  have quiet : client.intake move = [] →
      (client.step move).world.store.exchanges =
        client.world.store.exchanges →
      (client.step move).world.flags = client.world.flags →
      (client.step move).Follows
        (upkeep.run client.directory (client.intake move)) := by
    intro nothing exchanges flags
    rw [heard_eq_nil exchanges, List.filterMap_nil, List.filterMap_nil,
      List.append_nil] at added
    rw [nothing]
    exact ⟨follows.flags.trans flags.symm, added.symm⟩
  cases move with
  | load =>
      by_cases first : client.sync.initialized = true
      · have same : client.step .load = client := by
          simp [Client.step, Synchronizer.loadInitially, first]
        exact quiet (if_pos first) (by rw [same]) (by rw [same])
      · have fresh : client.sync.initialized = false := by simpa using first
        obtain ⟨store, _⟩ := client.step_load
        have exchanges := congrArg Transcribed.exchanges store
        rw [heard_eq_nil exchanges, List.filterMap_nil, List.filterMap_nil,
          List.append_nil] at added
        have taken : client.intake .load =
            client.world.offered client.directory false := if_neg first
        obtain ⟨flags, writes⟩ :=
          client.world.flags_load client.directory false follows.flags
        rw [taken]
        refine ⟨flags.trans ?_, writes.trans added.symm⟩
        exact (Synchronizer.loadInitially_flags fresh client.world).symm
  | loop number draw =>
      cases answer : client.sync.stepLoop? draw number client.world with
      | none =>
          have same : client.step (.loop number draw) = client := by
            rw [Client.step, answer]
          have exchanges :
              (client.step (.loop number draw)).world.store.exchanges =
                client.world.store.exchanges := by
            rw [same]
          refine quiet ?_ exchanges (by rw [same])
          exact intake_of_waiting answer exchanges
      | some next =>
          obtain ⟨loop, turn, found, stepped, _, _⟩ :=
            Synchronizer.stepLoop?_eq_some.mp answer
          obtain ⟨heard, exchanges, flags, writes⟩ :=
            (WatchLoop.steps stepped).takes follows.flags
          have hears := heard_turn found stepped exchanges
          rw [hears] at added
          have taken : client.intake (.loop number draw) =
              loop.phase.intake client.world client.directory heard := by
            rw [intake, Synchronizer.phase?_of_loop found, ← hears]
          rw [taken]
          refine ⟨flags.trans ?_, writes.trans added.symm⟩
          rw [step_turn found stepped]
  | _ =>
      cases client.kind _ with
      | rests same exchanges store flags =>
          exact quiet rfl exchanges (flags.trans (congrFun unequipped _))

theorem run (config : Config) (world : World V S) {moves : List (Move V S)}
    (unequipped : ∀ move ∈ moves, move.equipped = id) :
    let start : Client V S W := .fresh config world
    (start.run moves).Follows
      (({ flags := world.flags } : Upkeep V).run config.normalized
        (start.intakes moves)) := by
  induction moves using List.reverseRecOn with
  | nil => exact ⟨rfl, rfl⟩
  | append_singleton moves move induction =>
      intro start
      have before := induction fun earlier member =>
        unequipped earlier (List.mem_append_left _ member)
      have next := before.step (orderly_run config world moves)
        (unequipped move (by simp))
      rw [directory_run] at next
      rwa [run_concat, intakes, along_concat, Upkeep.run_append]

end Follows

end Client

/-- Runs that agree on a flag when they begin, and take in the same about it,
agree on it from then on, whatever stores they take it from.  A load comes to
the same for every order of its nodes. -/
theorem flags_independent (V : Type) [FlagValue V] :
    (∀ (directory name : String) (left right : FlagSet V)
      (leftIntakes rightIntakes : List Intake),
      (left.Every fun _ flag => FlagValue.Sturdy flag.value) →
      (right.Every fun _ flag => FlagValue.Sturdy flag.value) →
      left.lookup? name = right.lookup? name →
      leftIntakes.filterMap (Intake.about? directory name) =
        rightIntakes.filterMap (Intake.about? directory name) →
      Upkeep.AgreesOn directory name
        (Upkeep.run directory { flags := left } leftIntakes)
        (Upkeep.run directory { flags := right } rightIntakes)) ∧
    (∀ (directory : String) (onlyDynamic : Bool) (flags : FlagSet V)
      (nodes others : List Node),
      (flags.Every fun _ flag => FlagValue.Sturdy flag.value) →
      nodes.Pairwise Load.AreApart → nodes.Perm others →
      Load.Matches (.ofNodes directory onlyDynamic flags nodes)
        (.ofNodes directory onlyDynamic flags others)) ∧
    ∀ (S T W U : Type) [KeyValueStore S W] [KeyValueStore T U]
      (config otherConfig : Config) (world : World V S) (other : World V T)
      (moves : List (Client.Move V S)) (otherMoves : List (Client.Move V T))
      (name : String),
      let directory := config.normalized
      let left : Client V S W := .fresh config world
      let right : Client V T U := .fresh otherConfig other
      let own (commands : List WriteCommand) := commands.filter fun command =>
        command.key = directory ++ name
      otherConfig.normalized = directory →
      (∀ move ∈ moves, move.equipped = id) →
      (∀ move ∈ otherMoves, move.equipped = id) →
      (world.flags.Every fun _ flag => FlagValue.Sturdy flag.value) →
      (other.flags.Every fun _ flag => FlagValue.Sturdy flag.value) →
      world.flags.lookup? name = other.flags.lookup? name →
      (left.intakes moves).filterMap (Intake.about? directory name) =
        (right.intakes otherMoves).filterMap (Intake.about? directory name) →
      (left.run moves).world.flags.lookup? name =
          (right.run otherMoves).world.flags.lookup? name ∧
        own ((left.run moves).writes ++ (left.run moves).sync.due) =
          own ((right.run otherMoves).writes ++
            (right.run otherMoves).sync.due) := by
  refine ⟨?_, ?_, ?_⟩
  · intro directory name left right leftIntakes rightIntakes leftSturdy
      rightSturdy agree same
    exact (Upkeep.AgreesOn.begin directory agree).run leftSturdy rightSturdy
      same
  · intro directory onlyDynamic flags nodes others sturdy apart permutation
    exact .foldl_perm permutation apart (.refl _) (.begin sturdy)
      (.begin sturdy)
  · intro S T W U _ _ config otherConfig world other moves otherMoves name
      directory left right own sameDirectory unequipped otherUnequipped sturdy
      otherSturdy agree same
    have follows := Client.Follows.run (W := W) config world unequipped
    have otherFollows :=
      Client.Follows.run (W := U) otherConfig other otherUnequipped
    rw [sameDirectory] at otherFollows
    have agrees := (Upkeep.AgreesOn.begin directory agree).run
      sturdy otherSturdy same
    constructor
    · rw [← follows.flags, ← otherFollows.flags]
      exact agrees.flag
    · rw [← follows.writes, ← otherFollows.writes]
      exact agrees.writes

/-- A world with a switch, and a flag that refuses whatever it is given. -/
def neighbours : World Setting ScriptedStore :=
  { flags := (FlagSet.switch "a").replace "b"
      { value := .refusing (.other "full"), dynamic := true }
    store := { snapshot := ⟨1, [.leaf "/c/a" "true" 1]⟩ } }

/-- The switch is loaded and gets a text that it refuses. -/
def alone : List (Client.Move Setting ScriptedStore) :=
  [.load, .start true, .loop 0 0, .loop 0 0,
    .store (·.push (.ok (.set "/c/a" "on" 4 (some "true")))), .loop 0 0,
    .loop 0 0]

/-- The same among changes of the other flag. -/
def crowded : List (Client.Move Setting ScriptedStore) :=
  [.load, .start true, .loop 0 0, .loop 0 0,
    .store (·.push (.ok (.set "/c/b" "1" 2 none))),
    .store (·.push (.ok (.set "/c/a" "on" 4 (some "true")))),
    .store (·.push (.ok (.set "/c/b" "2" 5 none))), .loop 0 0, .loop 0 0,
    .loop 0 0, .loop 0 0, .loop 0 0, .loop 0 0]

theorem flags_independent_crowded :
    let nodes : List Node := [.leaf "/c/b" "1" 2, .leaf "/c/a" "true" 1]
    let config : Config := { directory := "/c" }
    Upkeep.AgreesOn "/c/" "a"
        (Upkeep.run "/c/" { flags := neighbours.flags }
          [.snapshot false nodes])
        (Upkeep.run "/c/" { flags := neighbours.flags }
          [.change (.delete "/c/b" 3 none),
            .snapshot false [.leaf "/c/a" "true" 1]]) ∧
      Load.Matches (.ofNodes "/c/" true neighbours.flags nodes)
        (.ofNodes "/c/" true neighbours.flags nodes.reverse) ∧
      (Client.run (W := Nat) (.fresh config neighbours)
          alone).world.flags.lookup? "a" =
        (Client.run (W := Nat) (.fresh config neighbours)
          crowded).world.flags.lookup? "a" := by
  intro nodes config
  have sturdy : neighbours.flags.Every fun _ flag =>
      FlagValue.Sturdy flag.value :=
    (FlagSet.switch_sturdy "a").replace (Setting.sturdy rfl)
  have apart : nodes.Pairwise Load.AreApart := by
    simp [nodes, Load.AreApart, Node.leaf]
  have same :
      (Client.intakes (W := Nat) (.fresh config neighbours) alone).filterMap
          (Intake.about? config.normalized "a") =
        (Client.intakes (W := Nat) (.fresh config neighbours)
          crowded).filterMap (Intake.about? config.normalized "a") := by
    decide +kernel
  obtain ⟨agree, reorder, clients⟩ := flags_independent Setting
  refine ⟨agree "/c/" "a" _ _ _ _ sturdy sturdy rfl (by decide +kernel),
    reorder "/c/" true _ nodes _ sturdy apart nodes.reverse_perm.symm, ?_⟩
  exact (clients ScriptedStore ScriptedStore Nat Nat config config neighbours
    neighbours alone crowded "a" rfl (by simp [alone, Client.Move.equipped])
    (by simp [crowded, Client.Move.equipped]) sturdy sturdy rfl same).1

end LiveFlags
