import LiveFlags.Proofs.Store.Logged
import LiveFlags.Proofs.Sync.Client

/-!
# A loop and its watch

A loop goes on with its watch, or opens one when it has none to go on with.
Which of the two comes next is settled by its last exchange with a watch, and
every phase of a loop says what that was.  What a loop goes on with still owes
the changes behind the cursor when the store keeps a log.
-/

namespace LiveFlags

namespace Exchange

variable {W : Type}

def isOfWatch : Exchange W → Bool
  | write .. => false
  | _ => true

theorem filterMap_event?_of_written {exchanges : List (Exchange W)}
    (written : ∀ exchange ∈ exchanges, exchange.isOfWatch = false) :
    exchanges.filterMap event? = [] := by
  rw [List.filterMap_eq_nil_iff]
  intro exchange member
  cases exchange with
  | write command answer => rfl
  | _ => cases written _ member

/-- After the exchange a loop goes on with a watch that it has. -/
def Leaves (left : W) : Exchange W → Prop
  | watch _ _ opened => opened = left
  | next _ arrival rest => arrival.keepsWatch = true ∧ rest = left
  | write .. => False

/-- After the exchange a loop has to open a new watch. -/
def Reopens : Exchange W → Prop
  | next _ arrival _ => arrival.reopens = true
  | _ => False

/-- What the exchange of a loop before this one has to be. -/
def ComesAfter (last : Option (Exchange W)) : Exchange W → Prop
  | watch .. => ∀ earlier ∈ last, earlier.Reopens
  | next asked _ _ => ∃ earlier ∈ last, earlier.Leaves asked
  | write .. => False

/-- Every exchange comes after the one before it. -/
def IsCourse (exchanges : List (Exchange W)) : Prop :=
  ∀ before next after, exchanges = before ++ next :: after →
    next.ComesAfter before.getLast?

theorem IsCourse.nil : IsCourse ([] : List (Exchange W)) := by
  intro before next after parted
  simp at parted

theorem IsCourse.concat {exchanges : List (Exchange W)} {last : Exchange W}
    (course : IsCourse exchanges) (comes : last.ComesAfter exchanges.getLast?) :
    IsCourse (exchanges ++ [last]) := by
  intro before next after parted
  -- The exchange in question is the new one, or one of those before.
  rcases List.eq_nil_or_concat after with rfl | ⟨middle, final, rfl⟩
  · obtain ⟨rfl, same⟩ := List.append_inj' parted rfl
    cases same
    exact comes
  · rw [List.concat_eq_append, ← List.cons_append, ← List.append_assoc]
      at parted
    obtain ⟨rfl, _⟩ := List.append_inj' parted rfl
    exact course before next middle rfl

end Exchange

namespace Client

variable {V S W : Type} [FlagValue V] [KeyValueStore S W]

omit [FlagValue V] in
/-- Whether a loop takes its turn in a move. -/
def Move.isTurnOf {V S : Type} (number : Nat) : Move V S → Bool
  | .loop turning _ => turning = number
  | _ => false

/-- What a loop exchanged with its watches in a run. -/
def attended (start : Client V S W) (number : Nat)
    (moves : List (Move V S)) : List (Exchange W) :=
  start.along (fun client move =>
    if move.isTurnOf number then
      (client.heard move).filter Exchange.isOfWatch
    else []) moves

theorem attended_concat (start : Client V S W) (number : Nat)
    (moves : List (Move V S)) (move : Move V S) :
    start.attended number (moves ++ [move]) = start.attended number moves ++
      if move.isTurnOf number then
        ((start.run moves).heard move).filter Exchange.isOfWatch
      else [] :=
  along_concat _ _ _ _

theorem attended_concat_turn (start : Client V S W) (number draw : Nat)
    (moves : List (Move V S)) :
    start.attended number (moves ++ [.loop number draw]) =
      start.attended number moves ++
        ((start.run moves).heard (.loop number draw)).filter
          Exchange.isOfWatch := by
  rw [attended_concat]
  simp [Move.isTurnOf]

theorem attended_concat_other (start : Client V S W) {number other : Nat}
    (different : other ≠ number) (draw : Nat) (moves : List (Move V S)) :
    start.attended other (moves ++ [.loop number draw]) =
      start.attended other moves := by
  rw [attended_concat]
  simp [Move.isTurnOf, Ne.symm different]

end Client

namespace Phase

variable {S W : Type} [KeyValueStore S W] {directory : String}

/-- How the phase of a loop fits its last exchange with a watch. -/
def Stands (last : Option (Exchange W)) (stopped : Prop) : Phase W → Prop
  | queued _ => last = none
  | opening => ∀ earlier ∈ last, earlier.Reopens
  | streaming watch | undoing _ _ watch =>
      ∃ earlier ∈ last, earlier.Leaves watch
  | pausing .backoffCluster _ watch => ∃ earlier ∈ last, earlier.Leaves watch
  | pausing .backoffGeneric _ _ => ∀ earlier ∈ last, earlier.Reopens
  | exited => stopped ∨
      ∃ watch left, last = some (.next watch (.failure .cancelled) left)
  | _ => False

/-- A loop that goes on with its watch owes what lies behind the cursor. -/
def Owes (keeps : KeepsLog S W directory) (store : S) (cursor : Nat) :
    Phase W → Prop
  | streaming watch | undoing _ _ watch | pausing .backoffCluster _ watch =>
      keeps.Owes store watch cursor
  | _ => True

theorem Owes.grown {keeps : KeepsLog S W directory} {store later : S}
    {cursor : Nat} {phase : Phase W} (owes : phase.Owes keeps store cursor)
    (grows : keeps.Grows store later) : phase.Owes keeps later cursor := by
  cases phase with
  | streaming watch => exact keeps.owes_grown grows owes
  | undoing flag event watch => exact keeps.owes_grown grows owes
  | pausing state deadline watch =>
      cases state with
      | backoffCluster => exact keeps.owes_grown grows owes
      | _ => trivial
  | _ => trivial

theorem Owes.of_isDormant {keeps : KeepsLog S W directory} {store : S}
    {cursor : Nat} {phase : Phase W} (dormant : phase.isDormant = true) :
    phase.Owes keeps store cursor := by
  cases phase with
  | streaming watch => cases dormant
  | undoing flag event watch => cases dormant
  | pausing state deadline watch => cases dormant
  | _ => trivial

omit [KeyValueStore S W] in
theorem Stands.imp {last : Option (Exchange W)} {stopped more : Prop}
    {phase : Phase W} (stands : phase.Stands last stopped)
    (implied : stopped → more) : phase.Stands last more := by
  cases phase with
  | pausing state deadline watch => cases state <;> exact stands
  | exited => exact stands.imp_left implied
  | _ => exact stands

end Phase

/-- What a turn of a loop is in front of a store that keeps a log. -/
inductive Attends {V S W : Type} [FlagValue V] [KeyValueStore S W]
    {directory : String} (keeps : KeepsLog S W directory)
    (last : Option (Exchange W)) (stopped : Prop) (cursor : Nat)
    (world : World V (Transcribed S W)) (turn : Turn V (Transcribed S W) W) :
    Prop
  /-- Its watch, if it has one, is left alone. -/
  | rests (heard : List (Exchange W))
      (exchanges : turn.world.store.exchanges =
        world.store.exchanges ++ heard)
      (written : ∀ exchange ∈ heard, exchange.isOfWatch = false)
      (sameCursor : turn.cursor = cursor)
      (sameFlags : turn.world.flags = world.flags)
      (grows : keeps.Grows world.store.store turn.world.store.store)
      (stands : turn.phase.Stands last stopped)
      (owes : turn.phase.Owes keeps turn.world.store.store cursor)
  | opens (opened : W)
      (exchanges : turn.world.store.exchanges = world.store.exchanges ++
        [.watch directory ⟨cursor, true⟩ opened])
      (reopens : ∀ earlier ∈ last, earlier.Reopens)
      (sameCursor : turn.cursor = cursor)
      (sameFlags : turn.world.flags = world.flags)
      (grows : keeps.Grows world.store.store turn.world.store.store)
      (newPhase : turn.phase = .streaming opened)
      (owes : keeps.Owes turn.world.store.store opened cursor)
  /-- A watch yields something other than a change. -/
  | hears (watch : W) (arrival : Arrival) (left : W)
      (exchanges : turn.world.store.exchanges =
        world.store.exchanges ++ [.next watch arrival left])
      (leaves : ∃ earlier ∈ last, earlier.Leaves watch)
      (noChange : arrival.event? = none)
      (sameCursor : turn.cursor = cursor)
      (sameFlags : turn.world.flags = world.flags)
      (grows : keeps.Grows world.store.store turn.world.store.store)
      (stands : turn.phase.Stands (some (.next watch arrival left)) stopped)
      (owes : turn.phase.Owes keeps turn.world.store.store cursor)
  | handles (watch : W) (change : ChangeEvent) (left : W)
      (exchanges : turn.world.store.exchanges =
        world.store.exchanges ++ [.next watch (.event change) left])
      (leaves : ∃ earlier ∈ last, earlier.Leaves watch)
      (next : ((keeps.changes turn.world.store.store).find?
        fun other => cursor < other.index) = some change)
      (newCursor : turn.cursor = change.index)
      (newFlags : turn.world.flags =
        (handleEvent directory world.flags change).flags)
      (grows : keeps.Grows world.store.store turn.world.store.store)
      (stands : turn.phase.Stands (some (.next watch (.event change) left))
        stopped)
      (owes : turn.phase.Owes keeps turn.world.store.store change.index)

section Turns

variable {V S W : Type} [FlagValue V] [KeyValueStore S W] {config : Config}
variable {keeps : KeepsLog S W config.normalized}
variable {last : Option (Exchange W)} {stopped : Prop} {cursor : Nat}
variable {world : World V (Transcribed S W)}

theorem Turn.take_handles {watch left : W} {change : ChangeEvent} {later : S}
    (leaves : ∃ earlier ∈ last, earlier.Leaves watch)
    (sturdy : world.flags.Every fun _ flag => FlagValue.Sturdy flag.value)
    (grows : keeps.Grows world.store.store later)
    (next : ((keeps.changes later).find? fun other => cursor < other.index) =
      some change)
    (owes : keeps.Owes later left change.index) :
    Attends keeps last stopped cursor world
      (Turn.take config.normalized cursor { world with
        store := ⟨later, world.store.exchanges ++
          [.next watch (.event change) left]⟩ } left change) := by
  have fresh : cursor < change.index := by
    simpa using List.find?_some next
  have newCursor : max cursor change.index = change.index :=
    Nat.max_eq_right (Nat.le_of_lt fresh)
  have kept : ∃ earlier ∈ some (Exchange.next watch (.event change) left),
      earlier.Leaves left := ⟨_, rfl, rfl, rfl⟩
  unfold take
  rw [newCursor]
  dsimp only
  cases verdict :
    (handleEvent config.normalized world.flags change).verdict with
  | settled =>
      cases (handleEvent config.normalized world.flags change).notice <;>
        exact .handles watch change left rfl leaves next rfl rfl grows kept owes
  | refused flag =>
      cases (handleEvent config.normalized world.flags change).notice <;>
        exact .handles watch change left rfl leaves next rfl rfl grows kept owes
  | crashed detail =>
      exact absurd verdict (handleEvent_not_crashed sturdy change detail)

/-- What a loop makes of an item of its watch. -/
theorem Turn.receive_attends {watch left : W} {arrival : Arrival} {later : S}
    (leaves : ∃ earlier ∈ last, earlier.Leaves watch)
    (sturdy : world.flags.Every fun _ flag => FlagValue.Sturdy flag.value)
    (grows : keeps.Grows world.store.store later)
    (continues : arrival.Continues (keeps.changes later) cursor
      (keeps.Owes later left)) (draw : Nat) :
    Attends keeps last stopped cursor world
      (Turn.receive config draw cursor { world with
        store := ⟨later, world.store.exchanges ++
          [.next watch arrival left]⟩ } left arrival) := by
  have kept : arrival.keepsWatch = true →
      ∃ earlier ∈ some (Exchange.next watch arrival left),
        earlier.Leaves left :=
    fun keepsWatch => ⟨_, rfl, keepsWatch, rfl⟩
  have lost : arrival.reopens = true →
      ∀ earlier ∈ some (Exchange.next watch arrival left),
        earlier.Reopens := by
    rintro reopens earlier ⟨⟩
    exact reopens
  cases arrival with
  | event change =>
      obtain ⟨next, owes⟩ := continues
      exact take_handles leaves sturdy grows next owes
  | failure error =>
      cases error with
      | compacted requested oldest => exact continues.elim
      | clusterUnavailable detail =>
          exact .hears watch _ left rfl leaves rfl rfl rfl grows (kept rfl)
            continues
      | timeout =>
          exact .hears watch _ left rfl leaves rfl rfl rfl grows (kept rfl)
            continues
      | cancelled =>
          exact .hears watch _ left rfl leaves rfl rfl rfl grows
            (.inr ⟨watch, left, rfl⟩) trivial
      | conditionFailed key expected actual =>
          exact .hears watch _ left rfl leaves rfl rfl rfl grows (lost rfl)
            trivial
      | keyNotFound key =>
          exact .hears watch _ left rfl leaves rfl rfl rfl grows (lost rfl)
            trivial
      | other detail =>
          exact .hears watch _ left rfl leaves rfl rfl rfl grows (lost rfl)
            trivial
  | pending =>
      exact .hears watch _ left rfl leaves rfl rfl rfl grows (kept rfl)
        continues
  | ended =>
      exact .hears watch _ left rfl leaves rfl rfl rfl grows (lost rfl) trivial

theorem WatchLoop.Steps.attends {draw : Nat} {finished : Nat → Bool}
    {loop : WatchLoop W} {turn : Turn V (Transcribed S W) W}
    (steps : loop.Steps config draw finished cursor world turn)
    (stands : loop.phase.Stands last stopped)
    (owes : loop.phase.Owes keeps world.store.store cursor)
    (cancelled : loop.cancelled = true → stopped)
    (sturdy : world.flags.Every fun _ flag => FlagValue.Sturdy flag.value) :
    Attends keeps last stopped cursor world turn := by
  cases steps with
  | begins predecessor queued complete =>
      rw [queued] at stands
      refine .rests [] (List.append_nil _).symm (by simp) rfl rfl
        (keeps.refl _) ?_ trivial
      intro earlier member
      rw [show last = none from stands] at member
      cases member
  | opens opening watch later opened =>
      cases opened
      rw [opening] at stands
      obtain ⟨grows, owes⟩ := keeps.watch world.store.store cursor _ _ rfl
      exact .opens _ rfl stands rfl rfl grows rfl owes
  | stops watch attending isCancelled =>
      exact .rests [] (List.append_nil _).symm (by simp) rfl rfl
        (keeps.refl _) (.inl (cancelled isCancelled)) trivial
  | receives watch streaming running ready arrival left store next =>
      cases next
      rw [streaming] at stands owes
      obtain ⟨grows, continues⟩ := keeps.next owes rfl
      exact Turn.receive_attends stands sturdy grows continues draw
  | undoes flag event watch undoing answer later written =>
      cases written
      rw [undoing] at stands owes
      have grows := keeps.write world.store.store event.undo _ _ rfl
      exact .rests [.write _ _] rfl (by simp [Exchange.isOfWatch]) rfl rfl
        grows stands (keeps.owes_grown grows owes)
  | resumes state deadline watch pausing running due =>
      rw [pausing] at stands owes
      have same : ∀ phase : Phase W, phase.Stands last stopped →
          phase.Owes keeps world.store.store cursor →
            Attends keeps last stopped cursor world ⟨phase, cursor, world⟩ :=
        fun phase stands owes => .rests [] (List.append_nil _).symm (by simp)
          rfl rfl (keeps.refl _) stands owes
      cases state with
      | backoffCluster => exact same (.streaming watch) stands owes
      | backoffGeneric => exact same .opening stands trivial
      | _ => exact stands.elim
  | rereads watch rereading =>
      rw [rereading] at stands
      exact stands.elim

end Turns

end LiveFlags
