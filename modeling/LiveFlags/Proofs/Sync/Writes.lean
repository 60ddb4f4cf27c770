import LiveFlags.Proofs.Flag.Setting
import LiveFlags.Proofs.Sync.Client
import LiveFlags.Store.Scripted

/-!
# One write for each refused change

Whatever a store yields and answers, a synchronizer writes to it only to undo
changes that a flag refused: once for each of them, in their order.  The write
follows at the next step of the loop that took the change, so that at most one
is due at a time.
-/

namespace LiveFlags

section Answers

variable {V : Type} [FlagValue V]

/-- Whether a change brings a text to a leaf right in the directory, and the
flag of the leaf is dynamic and refuses it. -/
def ChangeEvent.isRefused (directory : String) (flags : FlagSet V)
    (event : ChangeEvent) : Bool :=
  match event.isDirectory, Key.below? directory event.key, event.value with
  | false, some name, some text =>
      Key.isFlagName name && text ≠ "" &&
        (flags.lookup? name).any fun flag =>
          flag.dynamic && FlagValue.Refuses flag.value text
  | _, _, _ => false

/-- The write that a change calls for. -/
def ChangeEvent.answer? (directory : String) (flags : FlagSet V)
    (event : ChangeEvent) : Option WriteCommand :=
  if event.isRefused directory flags then
    match event.previous with
    | some previous => some (.set event.key previous (some event.index))
    | none => some (.delete event.key (some event.index))
  else none

theorem ChangeEvent.isRefused_iff {directory : String} {flags : FlagSet V}
    {event : ChangeEvent} :
    event.isRefused directory flags = true ↔
      ∃ name, (handleEvent directory flags event).verdict = .refused name := by
  simp only [handleEvent_refused]
  constructor
  · intro refused
    unfold ChangeEvent.isRefused at refused
    split at refused
    · rename_i name text leaf below brings
      simp only [Bool.and_eq_true, Option.any_eq_true, decide_eq_true_eq]
        at refused
      obtain ⟨⟨valid, filled⟩, flag, found, dynamic, refuses⟩ := refused
      have key := Key.below?_eq_some_iff.mp below
      have named : flagName directory event.key event.isDirectory = .ok name :=
        flagName_eq_ok_iff.mpr ⟨leaf, key, valid⟩
      exact ⟨name, text, flag,
        ⟨named, brings, found, fun _ => dynamic, filled⟩, refuses⟩
    · cases refused
  · rintro ⟨name, text, flag, concerns, refuses⟩
    obtain ⟨leaf, key, valid⟩ := flagName_eq_ok_iff.mp concerns.named
    have below := Key.below?_eq_some_iff.mpr key
    have dynamic := concerns.reaches.allowed rfl
    have filled := concerns.reaches.filled
    simp [ChangeEvent.isRefused, leaf, below, concerns.brings, valid, filled,
      concerns.reaches.found, dynamic, refuses]

theorem ChangeEvent.answer?_of_refused {directory : String} {flags : FlagSet V}
    {event : ChangeEvent} {name : String}
    (refused : (handleEvent directory flags event).verdict = .refused name) :
    event.answer? directory flags = some event.undo := by
  rw [ChangeEvent.answer?, if_pos (isRefused_iff.mpr ⟨name, refused⟩),
    ChangeEvent.undo]
  cases event.previous <;> rfl

theorem ChangeEvent.answer?_of_not_refused {directory : String}
    {flags : FlagSet V} {event : ChangeEvent}
    (taken : ∀ name,
      (handleEvent directory flags event).verdict ≠ .refused name) :
    event.answer? directory flags = none := by
  apply if_neg
  intro refused
  obtain ⟨name, verdict⟩ := isRefused_iff.mp refused
  exact taken name verdict

end Answers

/-- What a loop is about to write. -/
def Phase.due {W : Type} (phase : Phase W) : List WriteCommand :=
  (phase.undoing?.map ChangeEvent.undo).toList

namespace Synchronizer

variable {W : Type}

/-- What all loops are about to write. -/
def due (sync : Synchronizer W) : List WriteCommand :=
  sync.loops.flatMap fun loop => loop.phase.due

theorem due_eq_nil {sync : Synchronizer W}
    (idle : ∀ number phase, sync.phase? number = some phase →
      phase.undoing? = none) : sync.due = [] := by
  rw [due, List.flatMap_eq_nil_iff]
  intro loop member
  obtain ⟨number, found⟩ := List.mem_iff_getElem?.mp member
  rw [Phase.due, idle number loop.phase (phase?_of_loop found)]
  rfl

theorem due_eq_of_idle {sync : Synchronizer W} {number : Nat} {phase : Phase W}
    (found : sync.phase? number = some phase)
    (idle : ∀ other otherPhase, other ≠ number →
      sync.phase? other = some otherPhase → otherPhase.undoing? = none) :
    sync.due = phase.due := by
  obtain ⟨loop, inside, rfl⟩ := Option.map_eq_some_iff.mp found
  obtain ⟨within, same⟩ := List.getElem?_eq_some_iff.mp inside
  have parted : sync.loops = sync.loops.take number ++
      loop :: sync.loops.drop (number + 1) := by
    rw [← same, List.getElem_cons_drop, List.take_append_drop]
  have before : (sync.loops.take number).flatMap (fun loop => loop.phase.due) =
      [] := by
    rw [List.flatMap_eq_nil_iff]
    intro loop member
    obtain ⟨other, there⟩ := List.mem_iff_getElem?.mp member
    rw [List.getElem?_take] at there
    split at there
    · rename_i earlier
      rw [Phase.due, idle other loop.phase (by omega) (phase?_of_loop there)]
      rfl
    · cases there
  have after : (sync.loops.drop (number + 1)).flatMap
      (fun loop => loop.phase.due) = [] := by
    rw [List.flatMap_eq_nil_iff]
    intro loop member
    obtain ⟨other, there⟩ := List.mem_iff_getElem?.mp member
    rw [List.getElem?_drop] at there
    rw [Phase.due, idle (number + 1 + other) loop.phase (by omega)
      (phase?_of_loop there)]
    rfl
  rw [due, parted, List.flatMap_append, List.flatMap_cons, before, after]
  simp

/-- While the other loops are not at work, what is due is what one loop is
about to write. -/
theorem IsOrderly.due_eq {sync : Synchronizer W} (orderly : sync.IsOrderly)
    {number : Nat} {phase : Phase W} (found : sync.phase? number = some phase)
    (busy : phase.isDormant = false) : sync.due = phase.due :=
  sync.due_eq_of_idle found fun _ _ different otherFound =>
    Phase.undoing?_of_isDormant
      (orderly.dormant found busy otherFound different)

theorem working_or_idle (sync : Synchronizer W) :
    (∃ number phase, sync.phase? number = some phase ∧
        phase.isDormant = false) ∨
      ∀ number phase, sync.phase? number = some phase →
        phase.undoing? = none := by
  by_cases working : ∃ number phase, sync.phase? number = some phase ∧
      phase.isDormant = false
  · exact .inl working
  · right
    intro number phase found
    apply Phase.undoing?_of_isDormant
    by_contra busy
    exact working ⟨number, phase, found, Bool.eq_false_iff.mpr busy⟩

theorem IsOrderly.length_due_le {sync : Synchronizer W}
    (orderly : sync.IsOrderly) : sync.due.length ≤ 1 := by
  rcases sync.working_or_idle with ⟨number, phase, found, busy⟩ | idle
  · rw [orderly.due_eq found busy, Phase.due]
    cases phase.undoing? <;> simp
  · simp [due_eq_nil idle]

theorem SameLoops.due_eq {earlier later : Synchronizer W}
    (same : SameLoops earlier later) (orderly : earlier.IsOrderly) :
    later.due = earlier.due := by
  rcases earlier.working_or_idle with ⟨number, phase, found, busy⟩ | idle
  · rw [orderly.due_eq found busy,
      (same.orderly orderly).due_eq (same.kept number phase found) busy]
  · rw [due_eq_nil idle]
    apply due_eq_nil
    intro number phase found
    rcases same.added number phase found with old | queued
    · exact idle number phase old
    · apply Phase.undoing?_of_isDormant
      rw [Phase.isDormant, queued]
      rfl

end Synchronizer

variable {V S W : Type} [FlagValue V] [KeyValueStore S W]

omit [FlagValue V] [KeyValueStore S W] in
theorem Turn.enter_due (timing : WatchTiming) (draw cursor : Nat)
    (world : World V S) (watch : W) (state : WatchState) :
    (Turn.enter timing draw cursor world watch state).phase.due = [] := by
  cases state <;> rfl

omit [KeyValueStore S W] in
/-- A change that was taken is due to be undone just if it calls for a
write. -/
theorem Turn.receive_due (config : Config) (draw cursor : Nat)
    (world : World V S) (watch : W) (arrival : Arrival) :
    (Turn.receive config draw cursor world watch arrival).phase.due =
      arrival.event?.toList.filterMap
        (ChangeEvent.answer? config.normalized world.flags) := by
  cases arrival with
  | event event =>
      simp only [Arrival.event?, Option.toList_some, List.filterMap_cons,
        List.filterMap_nil]
      rw [receive, take]
      cases verdict :
          (handleEvent config.normalized world.flags event).verdict with
      | settled =>
          rw [ChangeEvent.answer?_of_not_refused (by simp [verdict])]
          rfl
      | refused name =>
          rw [ChangeEvent.answer?_of_refused verdict]
          rfl
      | crashed detail =>
          rw [ChangeEvent.answer?_of_not_refused (by simp [verdict])]
          rfl
  | failure error => exact enter_due ..
  | pending => rfl
  | ended => exact enter_due ..

/-- In a turn a loop writes what was due, and what is due afterwards is what it
heard calls for. -/
theorem WatchLoop.Steps.writes {config : Config} {draw cursor : Nat}
    {finished : Nat → Bool} {loop : WatchLoop W}
    {world : World V (Transcribed S W)} {turn : Turn V (Transcribed S W) W}
    (steps : loop.Steps config draw finished cursor world turn) :
    ∃ heard, turn.world.store.exchanges = world.store.exchanges ++ heard ∧
      heard.filterMap Exchange.command? = loop.phase.due ∧
      turn.phase.due = (heard.filterMap Exchange.event?).filterMap
        (ChangeEvent.answer? config.normalized world.flags) := by
  cases steps with
  | begins predecessor queued complete =>
      rw [queued]
      exact ⟨[], (List.append_nil _).symm, rfl, rfl⟩
  | opens opening watch later opened =>
      cases opened
      rw [opening]
      exact ⟨[.watch _ _ _], rfl, rfl, rfl⟩
  | stops watch attending cancelled =>
      refine ⟨[], (List.append_nil _).symm, ?_, rfl⟩
      rcases attending with streaming | ⟨state, deadline, pausing⟩
      · rw [streaming]
        rfl
      · rw [pausing]
        rfl
  | receives watch streaming running ready arrival left store next =>
      cases next
      rw [streaming]
      refine ⟨[.next watch _ _],
        congrArg Transcribed.exchanges (Turn.receive_store ..), rfl, ?_⟩
      rw [Turn.receive_due]
      cases (KeyValueStore.next world.store.store watch).1 <;> rfl
  | undoes flag event watch undoing answer later written =>
      cases written
      rw [undoing]
      exact ⟨[.write _ _], rfl, rfl, rfl⟩
  | resumes state deadline watch pausing running due =>
      rw [pausing]
      refine ⟨[], (List.append_nil _).symm, rfl, ?_⟩
      cases state <;> rfl
  | rereads watch rereading =>
      rw [rereading]
      refine ⟨[], ?_, rfl, ?_⟩
      · rw [List.append_nil, Turn.reread_store]
      · unfold Turn.reread
        split <;> rfl

namespace Client

def writes (client : Client V S W) : List WriteCommand :=
  client.world.store.exchanges.filterMap Exchange.command?

/-- The writes that the handled changes call for. -/
def answers (start : Client V S W) (moves : List (Move V S)) :
    List WriteCommand :=
  (start.handled moves).filterMap fun (flags, event) =>
    event.answer? start.directory flags

theorem answers_concat (start : Client V S W) (moves : List (Move V S))
    (move : Move V S) :
    start.answers (moves ++ [move]) = start.answers moves ++
      (((start.run moves).heard move).filterMap Exchange.event?).filterMap
        (ChangeEvent.answer? start.directory
          (start.run moves).world.flags) := by
  rw [answers, handled, along_concat, List.filterMap_append, List.filterMap_map]
  rfl

section Turns

variable {client : Client V S W} {number draw : Nat} {loop : WatchLoop W}
variable {turn : Turn V (Transcribed S W) W}

theorem writes_turn (found : client.sync.loops[number]? = some loop)
    (stepped : loop.step? client.sync.config draw client.sync.isFinished
      client.sync.cursor client.world = some turn) :
    (client.step (.loop number draw)).writes =
        client.writes ++ loop.phase.due ∧
      turn.phase.due = ((client.heard (.loop number draw)).filterMap
        Exchange.event?).filterMap
          (ChangeEvent.answer? client.directory client.world.flags) := by
  obtain ⟨heard, exchanges, written, due⟩ := (WatchLoop.steps stepped).writes
  rw [heard_turn found stepped exchanges, step_turn found stepped, ← written]
  refine ⟨?_, due⟩
  rw [writes, writes, ← List.filterMap_append]
  exact congrArg _ exchanges

theorem due_turn (orderly : client.sync.IsOrderly)
    (found : client.sync.loops[number]? = some loop)
    (stepped : loop.step? client.sync.config draw client.sync.isFinished
      client.sync.cursor client.world = some turn) :
    client.sync.due = loop.phase.due ∧
      (client.step (.loop number draw)).sync.due = turn.phase.due := by
  -- At most one loop is at work, so that the others are about to write nothing.
  have idle : ∀ other phase, other ≠ number →
      client.sync.phase? other = some phase → phase.undoing? = none := by
    intro other phase different otherFound
    apply Phase.undoing?_of_isDormant
    exact orderly.others_dormant found stepped different otherFound
  constructor
  · exact Synchronizer.due_eq_of_idle (Synchronizer.phase?_of_loop found) idle
  · apply Synchronizer.due_eq_of_idle (phase?_step found stepped)
    intro other phase different otherFound
    rw [phase?_step_other found stepped different] at otherFound
    exact idle other phase different otherFound

end Turns

/-- A move adds to what was written and is due just what the changes that it
handled call for. -/
theorem writes_due_step {client : Client V S W}
    (orderly : client.sync.IsOrderly) (move : Move V S) :
    (client.step move).writes ++ (client.step move).sync.due =
      client.writes ++ client.sync.due ++
        ((client.heard move).filterMap Exchange.event?).filterMap
          (ChangeEvent.answer? client.directory client.world.flags) := by
  cases client.kind move with
  | rests same exchanges =>
      rw [heard_eq_nil exchanges, writes, exchanges, same.due_eq orderly]
      exact (List.append_nil _).symm
  | loads first =>
      obtain ⟨store, sync⟩ := client.step_load
      have due : (client.step .load).sync.due = client.sync.due := by
        rcases sync with same | ⟨index, loaded⟩
        · rw [same]
        · rw [loaded]
          rfl
      rw [heard_eq_nil (congrArg Transcribed.exchanges store), due, writes,
        store]
      exact (List.append_nil _).symm
  | turns number draw loop turn found stepped =>
      obtain ⟨written, called⟩ := writes_turn found stepped
      obtain ⟨before, after⟩ := due_turn orderly found stepped
      rw [written, before, after, called]

theorem writes_due_run (config : Config) (world : World V S)
    (moves : List (Move V S)) :
    ((fresh config world : Client V S W).run moves).writes ++
        ((fresh config world : Client V S W).run moves).sync.due =
      (fresh config world : Client V S W).answers moves := by
  induction moves using List.reverseRecOn with
  | nil => rfl
  | append_singleton moves move induction =>
      rw [run_concat, writes_due_step (orderly_run config world moves),
        induction, answers_concat, directory_run]

/-- A loop that is about to undo a change does so in its next step, whatever
the store answers, and does not come back to it. -/
theorem undoes_at_once {client : Client V S W}
    (orderly : client.sync.IsOrderly) {number : Nat} {event : ChangeEvent}
    (undoing : (client.sync.phase? number).bind Phase.undoing? = some event)
    (draw : Nat) :
    (client.step (.loop number draw)).writes = client.writes ++ [event.undo] ∧
      (client.step (.loop number draw)).sync.due = [] := by
  obtain ⟨phase, here, pending⟩ := Option.bind_eq_some_iff.mp undoing
  obtain ⟨loop, found, rfl⟩ := Option.map_eq_some_iff.mp here
  cases phase : loop.phase with
  | undoing flag other watch =>
      have stepped : ∃ later, loop.step? client.sync.config draw
          client.sync.isFinished client.sync.cursor client.world =
            some ⟨.streaming watch, client.sync.cursor, later⟩ := by
        rw [WatchLoop.step?, phase]
        exact ⟨_, rfl⟩
      obtain ⟨later, stepped⟩ := stepped
      rw [phase] at pending
      cases pending
      have written := (writes_turn found stepped).1
      rw [phase] at written
      exact ⟨written, (due_turn orderly found stepped).2⟩
  | _ =>
      rw [phase] at pending
      cases pending

/-- Whatever its store does, a synchronizer writes once for each handled change
that a flag refused, in their order, and nothing else.  The write for the last
of them may be due; its loop carries it out in its next step. -/
theorem writes_what_is_refused (config : Config) (world : World V S)
    (moves : List (Move V S)) :
    let start : Client V S W := .fresh config world
    let client := start.run moves
    client.writes ++ client.sync.due = start.answers moves ∧
      client.sync.due.length ≤ 1 ∧
      ∀ number event draw,
        (client.sync.phase? number).bind Phase.undoing? = some event →
          (client.step (.loop number draw)).writes =
              client.writes ++ [event.undo] ∧
            (client.step (.loop number draw)).sync.due = [] := by
  have orderly := orderly_run (W := W) config world moves
  refine ⟨writes_due_run config world moves, orderly.length_due_le, ?_⟩
  intro number event draw undoing
  exact undoes_at_once orderly undoing draw

/-- A flag that refuses whatever it is given, and says that it has no value. -/
def stubborn : World Setting ScriptedStore :=
  { flags := FlagSet.empty.replace "a"
      { value := .refusing (.noValuePresent "a"), dynamic := true }
    store := {} }

/-- Four changes arrive, one of them for the flag. -/
def arrivals : List (Move Setting ScriptedStore) :=
  [.load, .start true, .loop 0 0, .loop 0 0,
    .store (·.push (.ok (.set "/c/a" "" 1 none))),
    .store (·.push (.ok (.set "/c/a/b" "x" 2 none))),
    .store (·.push (.error .timeout)),
    .store (·.push (.ok (.set "/c/a" "x" 3 (some "y")))),
    .store (·.push (.ok (.delete "/c/a" 4 (some "x")))),
    .loop 0 0, .loop 0 0, .loop 0 0, .loop 0 0, .loop 0 0, .loop 0 0,
    .loop 0 0]

theorem arrivals_write :
    ((fresh { directory := "/c" } stubborn).run arrivals).writes =
      [.set "/c/a" "y" (some 3)] := by
  obtain ⟨same, _⟩ :=
    writes_what_is_refused { directory := "/c" } stubborn arrivals
  have rest : ((fresh { directory := "/c" } stubborn).run
      arrivals).sync.due = [] := by
    decide +kernel
  rw [rest, List.append_nil] at same
  rw [same]
  decide +kernel

end Client

end LiveFlags
