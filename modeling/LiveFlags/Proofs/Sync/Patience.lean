import LiveFlags.Proofs.Sync.Attending

/-!
# Loops that are left to go on

A loop that is not stopped needs only time and turns of its own to be at a watch
again: the one that it has, or one that it opens behind the cursor.
-/

namespace LiveFlags

namespace Client

variable {V S W : Type} [FlagValue V] [KeyValueStore S W]

/-- With some patience a loop comes to a phase, and what it exchanges with
watches until then is `heard`. -/
def Reaches (client : Client V S W) (number : Nat)
    (heard : List (Exchange W)) (phase : Phase W) : Prop :=
  ∃ wait steps,
    let patience := .pass wait :: .replicate steps (.loop number 0)
    client.attended number patience = heard ∧
      (client.run patience).sync.phase? number = some phase

/-- How a loop goes on after an exchange unless it is stopped. -/
def GoesOn (client : Client V S W) (number : Nat) : Exchange W → Prop
  | .watch _ _ opened => client.Reaches number [] (.streaming opened)
  | .next _ arrival left =>
      (arrival.keepsWatch = true →
        client.Reaches number [] (.streaming left)) ∧
      (arrival.reopens = true → ∃ opened,
        client.Reaches number
          [.watch client.directory ⟨client.sync.cursor, true⟩ opened]
          (.streaming opened))
  | .write .. => True

section Patience

variable {client : Client V S W} {number : Nat} {watch : W}

theorem opening_step (opening : client.sync.phase? number = some .opening)
    (draw : Nat) :
    ∃ opened, client.heard (.loop number draw) =
        [.watch client.directory ⟨client.sync.cursor, true⟩ opened] ∧
      (client.step (.loop number draw)).sync.phase? number =
        some (.streaming opened) := by
  obtain ⟨loop, found, phase⟩ := Option.map_eq_some_iff.mp opening
  have steps : ∃ opened later, loop.step? client.sync.config draw
      client.sync.isFinished client.sync.cursor client.world =
        some ⟨.streaming opened, client.sync.cursor, later⟩ ∧
      later.store.exchanges = client.world.store.exchanges ++
        [.watch client.directory ⟨client.sync.cursor, true⟩ opened] := by
    rw [WatchLoop.step?, phase]
    exact ⟨_, _, rfl, rfl⟩
  obtain ⟨opened, later, stepped, exchanges⟩ := steps
  exact ⟨opened, heard_turn found stepped exchanges, phase?_step found stepped⟩

theorem undoing_step {flag : String} {event : ChangeEvent}
    (undoing : client.sync.phase? number =
      some (.undoing flag event watch)) (draw : Nat) :
    (client.heard (.loop number draw)).filter Exchange.isOfWatch = [] ∧
      (client.step (.loop number draw)).sync.phase? number =
        some (.streaming watch) := by
  obtain ⟨loop, found, phase⟩ := Option.map_eq_some_iff.mp undoing
  have steps : ∃ answer later, loop.step? client.sync.config draw
      client.sync.isFinished client.sync.cursor client.world =
        some ⟨.streaming watch, client.sync.cursor, later⟩ ∧
      later.store.exchanges = client.world.store.exchanges ++
        [.write event.undo answer] := by
    rw [WatchLoop.step?, phase]
    exact ⟨_, _, rfl, rfl⟩
  obtain ⟨answer, later, stepped, exchanges⟩ := steps
  rw [heard_turn found stepped exchanges]
  exact ⟨rfl, phase?_step found stepped⟩

/-- A loop that pauses goes on in silence once its time has passed. -/
theorem pausing_step {loop : WatchLoop W} {state : WatchState}
    {deadline : Nat} (found : client.sync.loops[number]? = some loop)
    (pausing : loop.phase = .pausing state deadline watch)
    (running : loop.cancelled = false) (draw : Nat) :
    let waited := client.step (.pass deadline)
    waited.heard (.loop number draw) = [] ∧
      (waited.step (.loop number draw)).sync.phase? number =
        some (WatchLoop.resumed watch state) ∧
      (waited.step (.loop number draw)).sync.cursor = client.sync.cursor := by
  intro waited
  have still : waited.sync.loops[number]? = some loop := found
  have due : deadline ≤ waited.world.time := Nat.le_add_left _ _
  have stepped : loop.step? waited.sync.config draw waited.sync.isFinished
      waited.sync.cursor waited.world =
        some ⟨WatchLoop.resumed watch state, waited.sync.cursor,
          waited.world⟩ := by
    rw [WatchLoop.step?, pausing]
    dsimp only
    rw [WatchLoop.hearsStop_of_running running, if_neg Bool.false_ne_true,
      if_pos due]
    cases state <;> rfl
  refine ⟨?_, phase?_step still stepped, ?_⟩
  · exact heard_turn still stepped (List.append_nil _).symm
  · rw [step_turn still stepped]
    rfl

theorem attended_pass (number wait : Nat) (later : List (Move V S)) :
    client.attended number (.pass wait :: later) =
      (client.step (.pass wait)).attended number later := rfl

theorem attended_turn (number draw : Nat) (later : List (Move V S)) :
    client.attended number (.loop number draw :: later) =
      (client.heard (.loop number draw)).filter Exchange.isOfWatch ++
        (client.step (.loop number draw)).attended number later := by
  rw [attended, along]
  simp [Move.isTurnOf, attended]

theorem reaches_now {phase : Phase W}
    (found : client.sync.phase? number = some phase) :
    client.Reaches number [] phase :=
  ⟨0, 0, rfl, found⟩

theorem reaches_of_undoing {flag : String} {event : ChangeEvent}
    (undoing : client.sync.phase? number =
      some (.undoing flag event watch)) :
    client.Reaches number [] (.streaming watch) := by
  have still : (client.step (.pass 0)).sync.phase? number =
      some (.undoing flag event watch) := undoing
  obtain ⟨silent, phase⟩ := undoing_step still 0
  refine ⟨0, 1, ?_, phase⟩
  rw [attended_pass, List.replicate_one, attended_turn, silent]
  rfl

theorem reaches_of_opening
    (opening : client.sync.phase? number = some .opening) :
    ∃ opened, client.Reaches number
      [.watch client.directory ⟨client.sync.cursor, true⟩ opened]
      (.streaming opened) := by
  have still : (client.step (.pass 0)).sync.phase? number =
      some .opening := opening
  obtain ⟨opened, heard, phase⟩ := opening_step still 0
  refine ⟨opened, 0, 1, ?_, phase⟩
  rw [attended_pass, List.replicate_one, attended_turn, heard]
  rfl

section Pausing

variable {loop : WatchLoop W} {deadline : Nat}

theorem reaches_of_retrying (found : client.sync.loops[number]? = some loop)
    (pausing : loop.phase = .pausing .backoffCluster deadline watch)
    (running : loop.cancelled = false) :
    client.Reaches number [] (.streaming watch) := by
  obtain ⟨silent, resumed, _⟩ := pausing_step found pausing running 0
  refine ⟨deadline, 1, ?_, resumed⟩
  rw [attended_pass, List.replicate_one, attended_turn, silent]
  rfl

theorem reaches_of_restarting (found : client.sync.loops[number]? = some loop)
    (pausing : loop.phase = .pausing .backoffGeneric deadline watch)
    (running : loop.cancelled = false) :
    ∃ opened, client.Reaches number
      [.watch client.directory ⟨client.sync.cursor, true⟩ opened]
      (.streaming opened) := by
  obtain ⟨silent, resumed, cursor⟩ := pausing_step found pausing running 0
  obtain ⟨opened, heard, streaming⟩ := opening_step resumed 0
  rw [directory_step, directory_step, cursor] at heard
  refine ⟨opened, deadline, 2, ?_, streaming⟩
  rw [attended_pass, List.replicate_succ, List.replicate_one, attended_turn,
    attended_turn, silent, heard]
  rfl

end Pausing

theorem GoesOn.of_leaves {last : Exchange W} (leaves : last.Leaves watch)
    (reaches : client.Reaches number [] (.streaming watch)) :
    client.GoesOn number last := by
  cases last with
  | watch path options opened =>
      cases leaves
      exact reaches
  | next asked arrival left =>
      obtain ⟨keeps, rfl⟩ := leaves
      refine ⟨fun _ => reaches, ?_⟩
      intro reopens
      rw [Arrival.not_reopens_of_keepsWatch keeps] at reopens
      cases reopens
  | write command answer => trivial

theorem GoesOn.of_reopens {last : Exchange W} (reopens : last.Reopens)
    (reaches : ∃ opened, client.Reaches number
      [.watch client.directory ⟨client.sync.cursor, true⟩ opened]
      (.streaming opened)) :
    client.GoesOn number last := by
  cases last with
  | watch path options opened => cases reopens
  | next asked arrival left =>
      refine ⟨?_, fun _ => reaches⟩
      intro keeps
      have never := Arrival.not_reopens_of_keepsWatch keeps
      rw [show arrival.reopens = true from reopens] at never
      cases never
  | write command answer => trivial

end Patience

end Client

end LiveFlags
