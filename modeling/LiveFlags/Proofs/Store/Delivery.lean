import LiveFlags.Proofs.Store.CatchUp

/-!
# What a watch delivers over its life

A watch that is opened below the retained history reports one loss and ends.
Every other watch yields mutations of its path in order and each at most once.
None is skipped silently: one that was not yielded was dropped where the watch
reports a loss, between the mutations before and after it, or the watch has not
come to it and still has something to yield.
-/

namespace LiveFlags

namespace Reading

/-- A reading at its beginning, with a watch of any kind. -/
def begun (store : MemoryStore) (path : String) (options : WatchOptions) :
    Reading :=
  { store, watch := store.watch path options }

/-- The mutations that others make while a watch is read. -/
def mutations (reading : Reading) : List Move → List ChangeEvent
  | [] => []
  | move :: later =>
      reading.store.growth (reading.step move).store ++
        (reading.step move).mutations later

/-- All that a reading ever yields is one report of a loss, and then its
end. -/
def IsTurnedAway (reading : Reading) : Prop :=
  ∃ requested oldest, ∀ moves, (reading.run moves).yielded =
    (.failure (.compacted requested oldest) ::
      .replicate (moves.count .take) .ended).take (moves.count .take)

/-- Where `event` would stand among the mutations that were yielded, a loss was
reported. -/
def Reports (reading : Reading) (event : ChangeEvent) : Prop :=
  ∃ before requested oldest later,
    reading.yielded =
        before ++ .failure (.compacted requested oldest) :: later ∧
      (∀ other ∈ before.filterMap Arrival.event?, other.index < event.index) ∧
        ∀ other ∈ later.filterMap Arrival.event?, event.index < other.index

/-- The watch has not come to `event`, and something is left to take. -/
def Owes (reading : Reading) (event : ChangeEvent) : Prop :=
  (∀ other ∈ reading.changes, other.index < event.index) ∧
    ¬ reading.IsExhausted

/-- What a watch yielded of the mutations in a log. -/
structure Delivers (reading : Reading) (path : String)
    (options : WatchOptions) (log : List ChangeEvent) : Prop where
  increasing : reading.changes.Pairwise fun earlier later =>
    earlier.index < later.index
  wanted : ∀ event ∈ reading.changes, event ∈ log ∧
    options.after < event.index ∧
      Key.isWatched path options.recursive event.key = true
  accounted : ∀ event ∈ log, options.after < event.index →
    Key.isWatched path options.recursive event.key = true →
      event ∈ reading.changes ∨ reading.Reports event ∨ reading.Owes event

/-- Everything up to `cursor` was yielded or reported as lost, and the watch
owes the rest. -/
structure DeliversTo (reading : Reading) (path : String)
    (options : WatchOptions) (log : List ChangeEvent) (cursor : Nat) :
    Prop where
  traces : reading.store.Traces log
  path : reading.watch.path = path
  recursive : reading.watch.recursive = options.recursive
  after : reading.watch.after = options.after
  follows : reading.watch.Follows log cursor
  reached : ∀ event ∈ reading.changes, event.index ≤ cursor
  increasing : reading.changes.Pairwise fun earlier later =>
    earlier.index < later.index
  wanted : ∀ event ∈ reading.changes, event ∈ log ∧
    options.after < event.index ∧ reading.watch.covers event.key = true
  accounted : ∀ event ∈ log, options.after < event.index →
    event.index ≤ cursor → reading.watch.covers event.key = true →
      event ∈ reading.changes ∨ reading.Reports event

@[simp] theorem run_nil (reading : Reading) : reading.run [] = reading := rfl

@[simp] theorem run_cons (reading : Reading) (move : Move)
    (later : List Move) :
    reading.run (move :: later) = (reading.step move).run later := rfl

@[simp] theorem yielded_act (reading : Reading) (act : MemoryStore.Act) :
    (reading.step (.act act)).yielded = reading.yielded := rfl

section Yielding

variable {reading : Reading}

@[simp] theorem covers_take (reading : Reading) :
    (reading.step .take).watch.covers = reading.watch.covers := by
  funext key
  simp [MemoryWatch.covers]

theorem changes_take_of_none {arrival : Arrival} {later : MemoryWatch}
    (yielded : reading.store.next reading.watch = (arrival, later))
    (none : arrival.event? = none) :
    (reading.step .take).changes = reading.changes := by
  rw [changes_take, yielded, none]
  exact List.append_nil _

theorem changes_take_event {event : ChangeEvent} {later : MemoryWatch}
    (yielded : reading.store.next reading.watch = (.event event, later)) :
    (reading.step .take).changes = reading.changes ++ [event] := by
  rw [changes_take, yielded]
  rfl

/-- A report stays between its neighbours when a later item is taken. -/
theorem Reports.take {event : ChangeEvent} (reports : reading.Reports event)
    (later : ∀ other,
      (reading.store.next reading.watch).1.event? = some other →
        event.index < other.index) :
    (reading.step .take).Reports event := by
  obtain ⟨before, requested, oldest, after, yielded, below, above⟩ := reports
  refine ⟨before, requested, oldest,
    after ++ [(reading.store.next reading.watch).1], ?_, below, ?_⟩
  · simp [yielded]
  · intro other member
    rw [List.filterMap_append, List.mem_append] at member
    rcases member with old | new
    · exact above other old
    · apply later
      simpa using new

/-- A loss that is reported now lies above all that was yielded. -/
theorem reports_of_failure {event : ChangeEvent} {requested oldest : Nat}
    (failed : (reading.store.next reading.watch).1 =
      .failure (.compacted requested oldest))
    (passed : ∀ other ∈ reading.changes, other.index < event.index) :
    (reading.step .take).Reports event := by
  refine ⟨reading.yielded, requested, oldest, [], ?_, passed, ?_⟩
  · simp [failed]
  · simp

theorem run_ended (backlog : reading.watch.backlog = [])
    (closed : reading.watch.live = none) (moves : List Move) :
    (reading.run moves).yielded =
      reading.yielded ++ .replicate (moves.count .take) .ended := by
  induction moves generalizing reading with
  | nil => simp
  | cons move later induction =>
      cases move with
      | act act =>
          have rest := @induction (reading.step (.act act)) backlog closed
          simpa using rest
      | take =>
          have ends : reading.store.next reading.watch =
              (.ended, reading.watch) := by
            simp [MemoryStore.next, backlog, closed]
          have stillEmpty : (reading.step .take).watch.backlog = [] := by
            simp [ends, backlog]
          have stillClosed : (reading.step .take).watch.live = none := by
            simp [ends, closed]
          have rest := induction stillEmpty stillClosed
          have yielded : (reading.step .take).yielded =
              reading.yielded ++ [.ended] := by
            simp [ends]
          rw [yielded] at rest
          simpa [List.replicate_succ] using rest

theorem run_lost {requested oldest : Nat}
    (backlog : reading.watch.backlog =
      [.error (.compacted requested oldest)])
    (closed : reading.watch.live = none) (moves : List Move) :
    (reading.run moves).yielded = reading.yielded ++
      (.failure (.compacted requested oldest) ::
        .replicate (moves.count .take) .ended).take (moves.count .take) := by
  induction moves generalizing reading with
  | nil => simp
  | cons move later induction =>
      cases move with
      | act act =>
          have rest := @induction (reading.step (.act act)) backlog closed
          simpa using rest
      | take =>
          have fails : reading.store.next reading.watch =
              (.failure (.compacted requested oldest),
                { reading.watch with backlog := [] }) := by
            simp [MemoryStore.next, backlog, Arrival.ofItem]
          have nowEmpty : (reading.step .take).watch.backlog = [] := by
            simp [fails]
          have stillClosed : (reading.step .take).watch.live = none := by
            simp [fails, closed]
          have rest := run_ended nowEmpty stillClosed later
          have yielded : (reading.step .take).yielded =
              reading.yielded ++ [.failure (.compacted requested oldest)] := by
            simp [fails]
          rw [yielded] at rest
          simpa [List.take_replicate] using rest

end Yielding

namespace DeliversTo

variable {reading : Reading} {path : String} {options : WatchOptions}
variable {log : List ChangeEvent} {cursor : Nat}

theorem begun {store : MemoryStore} (traces : store.Traces log)
    (path : String) (options : WatchOptions)
    (follows : (store.watch path options).Follows log options.after) :
    (Reading.begun store path options).DeliversTo path options log
      options.after where
  traces := traces
  path := store.watch_path path options
  recursive := store.watch_recursive path options
  after := store.watch_after path options
  follows := follows
  reached := by simp [Reading.begun, changes]
  increasing := List.Pairwise.nil
  wanted := by simp [Reading.begun, changes]
  accounted := by
    intro event _ above within
    omega

/-- What others do is owed: it lies above all that the watch has passed. -/
theorem act (delivers : reading.DeliversTo path options log cursor)
    (act : MemoryStore.Act) :
    (reading.step (.act act)).DeliversTo path options
      (log ++ reading.store.growth (reading.step (.act act)).store) cursor := by
  have traces := delivers.traces.growth act
  have numbered := (NumberedFrom.append.mp traces.numbered).2
  rw [Nat.zero_add] at numbered
  refine ⟨traces, delivers.path, delivers.recursive, delivers.after,
    delivers.follows.append numbered, delivers.reached, delivers.increasing,
    ?_, ?_⟩
  · intro event member
    obtain ⟨inLog, above, covered⟩ := delivers.wanted event member
    exact ⟨List.mem_append_left _ inLog, above, covered⟩
  · intro event member above within covered
    rcases List.mem_append.mp member with old | new
    · exact delivers.accounted event old above within covered
    · obtain ⟨position, follows⟩ := delivers.follows
      have beyond := (numbered.bounds new).1
      have reached := follows.reached
      have inside := follows.within
      have after := delivers.after
      omega

theorem take_event (delivers : reading.DeliversTo path options log cursor)
    {event : ChangeEvent} {later : MemoryWatch}
    (yielded : reading.store.next reading.watch = (.event event, later))
    (next : reading.watch.IsNext log cursor event)
    (follows : later.Follows log event.index) :
    (reading.step .take).DeliversTo path options log event.index := by
  have changes := changes_take_event yielded
  have fresh := next.fresh
  have ahead : options.after ≤ cursor := by
    obtain ⟨_, ahead⟩ := delivers.follows
    rw [← delivers.after]
    exact ahead.after
  refine ⟨delivers.traces, ?_, ?_, ?_, ?_, ?_, ?_, ?_, ?_⟩
  · simp [delivers.path]
  · simp [delivers.recursive]
  · simp [delivers.after]
  · simpa [yielded] using follows
  · intro other member
    rw [changes, List.mem_append, List.mem_singleton] at member
    rcases member with old | rfl
    · have passed := delivers.reached other old
      omega
    · exact Nat.le_refl _
  · rw [changes, List.pairwise_append]
    refine ⟨delivers.increasing, List.pairwise_singleton _ _, ?_⟩
    intro earlier member last lastMember
    obtain rfl := List.mem_singleton.mp lastMember
    have passed := delivers.reached earlier member
    omega
  · intro other member
    rw [changes, List.mem_append, List.mem_singleton] at member
    rw [covers_take]
    rcases member with old | rfl
    · exact delivers.wanted other old
    · exact ⟨next.member, by omega, next.covered⟩
  · intro other member above within covered
    rw [covers_take] at covered
    rw [changes]
    by_cases passed : other.index ≤ cursor
    · rcases delivers.accounted other member above passed covered with
        taken | reports
      · exact .inl (List.mem_append_left _ taken)
      · right
        apply reports.take
        intro taken found
        rw [yielded] at found
        obtain rfl := Option.some.inj found
        omega
    · left
      have first := next.first other member covered (by omega)
      have same : other = event :=
        delivers.traces.numbered.unique member next.member (by omega)
      simp [same]

/-- Whatever is lost lies right where the loss is reported. -/
theorem take_failure (delivers : reading.DeliversTo path options log cursor)
    {error : StoreError} {later : MemoryWatch}
    (yielded : reading.store.next reading.watch = (.failure error, later)) :
    (reading.step .take).DeliversTo path options log
      (max cursor (reading.store.oldestHeld - 1)) := by
  obtain ⟨⟨requested, oldest, rfl⟩, follows⟩ :=
    MemoryStore.next_failure delivers.traces delivers.follows yielded
  have changes := changes_take_of_none yielded rfl
  refine ⟨delivers.traces, ?_, ?_, ?_, ?_, ?_, ?_, ?_, ?_⟩
  · simp [delivers.path]
  · simp [delivers.recursive]
  · simp [delivers.after]
  · simpa [yielded] using follows
  · intro event member
    rw [changes] at member
    have passed := delivers.reached event member
    omega
  · rw [changes]
    exact delivers.increasing
  · rw [changes, covers_take]
    exact delivers.wanted
  · intro event member above _ covered
    rw [covers_take] at covered
    rw [changes]
    by_cases passed : event.index ≤ cursor
    · refine (delivers.accounted event member above passed covered).imp_right ?_
      intro reports
      apply reports.take
      simp [yielded, Arrival.event?]
    · right
      refine reports_of_failure (congrArg Prod.fst yielded) ?_
      intro other taken
      have below := delivers.reached other taken
      omega

theorem take_pending (delivers : reading.DeliversTo path options log cursor)
    {later : MemoryWatch}
    (yielded : reading.store.next reading.watch = (.pending, later))
    (follows : later.Follows log cursor) :
    (reading.step .take).DeliversTo path options log cursor := by
  have changes := changes_take_of_none yielded rfl
  refine ⟨delivers.traces, ?_, ?_, ?_, ?_, ?_, ?_, ?_, ?_⟩
  · simp [delivers.path]
  · simp [delivers.recursive]
  · simp [delivers.after]
  · simpa [yielded] using follows
  · rw [changes]
    exact delivers.reached
  · rw [changes]
    exact delivers.increasing
  · rw [changes, covers_take]
    exact delivers.wanted
  · rw [changes, covers_take]
    intro event member above within covered
    refine (delivers.accounted event member above within covered).imp_right ?_
    intro reports
    apply reports.take
    simp [yielded, Arrival.event?]

theorem take (delivers : reading.DeliversTo path options log cursor) :
    ∃ further, (reading.step .take).DeliversTo path options log further := by
  rcases MemoryStore.next_cases delivers.traces delivers.follows with
    ⟨event, later, yielded, next, follows⟩ |
      ⟨requested, oldest, later, yielded⟩ | ⟨later, yielded, _, follows⟩
  · exact ⟨_, delivers.take_event yielded next follows⟩
  · exact ⟨_, delivers.take_failure yielded⟩
  · exact ⟨_, delivers.take_pending yielded follows⟩

theorem run (delivers : reading.DeliversTo path options log cursor)
    (moves : List Move) :
    ∃ further, (reading.run moves).DeliversTo path options
      (log ++ reading.mutations moves) further := by
  induction moves generalizing reading log cursor with
  | nil => exact ⟨cursor, by simpa [mutations] using delivers⟩
  | cons move later induction =>
      rw [mutations, ← List.append_assoc]
      cases move with
      | act act => exact induction (delivers.act act)
      | take =>
          obtain ⟨further, next⟩ := delivers.take
          have quiet : reading.store.growth (reading.step .take).store = [] :=
            reading.store.growth_self
          rw [quiet, List.append_nil]
          exact induction next

theorem delivers (delivers : reading.DeliversTo path options log cursor) :
    reading.Delivers path options log := by
  have covers : ∀ key, reading.watch.covers key =
      Key.isWatched path options.recursive key := by
    intro key
    rw [MemoryWatch.covers, delivers.path, delivers.recursive]
  refine ⟨delivers.increasing, ?_, ?_⟩
  · intro event member
    rw [← covers]
    exact delivers.wanted event member
  · intro event member above covered
    rw [← covers] at covered
    by_cases passed : event.index ≤ cursor
    · rcases delivers.accounted event member above passed covered with
        taken | reports
      · exact .inl taken
      · exact .inr (.inl reports)
    · refine .inr (.inr ⟨?_, ?_⟩)
      · intro other taken
        have below := delivers.reached other taken
        omega
      · rintro (waits | ends)
        · rcases MemoryStore.next_cases delivers.traces delivers.follows with
            ⟨_, _, yielded, _⟩ | ⟨_, _, _, yielded⟩ | ⟨_, _, nothing, _⟩
          · simp [yielded] at waits
          · simp [yielded] at waits
          · exact passed (nothing event member covered)
        · exact MemoryStore.next_ne_ended delivers.traces delivers.follows ends

end DeliversTo

theorem isTurnedAway_of_forgets {store : MemoryStore} {options : WatchOptions}
    (lost : store.Forgets options.after) (path : String) :
    (begun store path options).IsTurnedAway := by
  obtain ⟨closed, backlog⟩ : (begun store path options).watch.live = none ∧
      (begun store path options).watch.backlog =
        [.error (.compacted options.after store.oldestRetained)] :=
    MemoryStore.watch_of_forgets lost path
  refine ⟨options.after, store.oldestRetained, ?_⟩
  intro moves
  rw [run_lost backlog closed]
  exact List.nil_append _

/-- A watch that owes the rest of the log does not end after its first item. -/
theorem DeliversTo.not_isTurnedAway {reading : Reading} {path : String}
    {options : WatchOptions} {log : List ChangeEvent} {cursor : Nat}
    (delivers : reading.DeliversTo path options log cursor)
    (unread : reading.yielded = []) : ¬ reading.IsTurnedAway := by
  rintro ⟨requested, oldest, always⟩
  obtain ⟨further, next⟩ := delivers.take
  have ends := always [.take, .take]
  have goesOn := MemoryStore.next_ne_ended next.traces next.follows
  simp [unread] at ends
  exact goesOn (by simpa using ends.2)

theorem isTurnedAway_iff {store : MemoryStore} {log : List ChangeEvent}
    (traces : store.Traces log) (path : String) (options : WatchOptions) :
    (begun store path options).IsTurnedAway ↔ store.Forgets options.after := by
  constructor
  · intro turnedAway
    by_contra kept
    have delivers := DeliversTo.begun traces path options
      (MemoryStore.watch_follows traces kept path)
    exact delivers.not_isTurnedAway rfl turnedAway
  · intro lost
    exact isTurnedAway_of_forgets lost path

/-- A watch is turned away just if a mutation after its index has left the
history.  Every other watch delivers what its path covers, however its reading
is interleaved with what others do. -/
theorem delivers_unless_turned_away (limit : Nat)
    (earlier : List MemoryStore.Act) (path : String)
    (options : WatchOptions) :
    let store := (MemoryStore.empty limit).actAll earlier
    let past := (MemoryStore.empty limit).mutations earlier
    let opened := begun store path options
    (opened.IsTurnedAway ↔ ∃ event ∈ past,
        options.after < event.index ∧ event ∉ store.history) ∧
      (¬ opened.IsTurnedAway → ∀ moves,
        (opened.run moves).Delivers path options
          (past ++ opened.mutations moves)) := by
  intro store past opened
  have traces : store.Traces past :=
    (MemoryStore.Traces.empty limit).mutations earlier
  have turnedAway := isTurnedAway_iff traces path options
  constructor
  · exact turnedAway.trans traces.forgets_iff
  · intro admitted moves
    have kept : ¬ store.Forgets options.after := fun lost =>
      admitted (turnedAway.mpr lost)
    have start := DeliversTo.begun traces path options
      (MemoryStore.watch_follows traces kept path)
    obtain ⟨_, delivered⟩ := start.run moves
    exact delivered.delivers

/-- Others write two values before the watch is read, of which the store holds
only the second. -/
def lagging : List Move :=
  [.act (.write (.set "/c/a" "1" none)), .act (.write (.set "/c/a" "2" none)),
    .take, .take]

theorem lagging_reports :
    ((begun (.empty 1) "/c/" ⟨0, true⟩).run lagging).Reports
      ⟨.set, "/c/a", some "1", false, 1, none⟩ := by
  obtain ⟨turnedAway, delivers⟩ :=
    delivers_unless_turned_away 1 [] "/c/" ⟨0, true⟩
  have admitted := mt turnedAway.mp (by simp [MemoryStore.mutations])
  have accounted := (delivers admitted lagging).accounted
    ⟨.set, "/c/a", some "1", false, 1, none⟩ (by decide +kernel) (by decide)
    (by decide +kernel)
  rcases accounted with taken | reports | ⟨_, remaining⟩
  · exact absurd taken (by decide +kernel)
  · exact reports
  · exact absurd (by decide +kernel) remaining

end Reading

end LiveFlags
