import LiveFlags.Proofs.Store.Log

/-!
# What an open watch still owes

A watch that was opened after an index has yielded what its path covers up to a
cursor.  What it owes is the rest of the log: the mutations up to its live
position are in its backlog, and the live part looks at all later ones.  The
next item is the first mutation that is owed, a report that history was lost,
or nothing because nothing is owed.
-/

namespace LiveFlags

/-- The mutation that arrived, if one did. -/
def Arrival.event? : Arrival → Option ChangeEvent
  | .event change => some change
  | _ => none

namespace MemoryWatch

/-- Whether the path of a watch covers a key. -/
def covers (watch : MemoryWatch) (key : String) : Bool :=
  Key.isWatched watch.path watch.recursive key

/-- What a watch reports of a log above one index and below another. -/
def stretch (watch : MemoryWatch) (log : List ChangeEvent) (above below : Nat) :
    List ChangeEvent :=
  log.filter fun event =>
    decide (above < event.index ∧ event.index < below) && watch.covers event.key

/-- A watch that has yielded everything up to `cursor` and whose live part
looks at `log` from `position` on. -/
structure FollowsAt (watch : MemoryWatch) (log : List ChangeEvent)
    (cursor : Nat) (position : LivePosition) : Prop where
  live : watch.live = some position
  after : watch.after ≤ cursor
  reached : cursor < position.next ∨ cursor = watch.after
  within : position.next ≤ log.length + 1
  backlog : watch.backlog =
    (watch.stretch log cursor position.next).map .ok

/-- A watch that has yielded everything up to `cursor` and owes the rest of
`log`. -/
def Follows (watch : MemoryWatch) (log : List ChangeEvent) (cursor : Nat) :
    Prop :=
  ∃ position, watch.FollowsAt log cursor position

/-- A watch that only has to say that its history was lost. -/
def IsLost (watch : MemoryWatch) : Prop :=
  watch.live = none ∧
    ∃ requested oldest, watch.backlog = [.error (.compacted requested oldest)]

/-- `event` is the first mutation above `cursor` that a watch reports. -/
structure IsNext (watch : MemoryWatch) (log : List ChangeEvent) (cursor : Nat)
    (event : ChangeEvent) : Prop where
  member : event ∈ log
  covered : watch.covers event.key = true
  fresh : cursor < event.index
  first : ∀ other ∈ log, watch.covers other.key = true →
    cursor < other.index → event.index ≤ other.index

theorem mem_stretch {watch : MemoryWatch} {log : List ChangeEvent}
    {above below : Nat} {event : ChangeEvent} :
    event ∈ watch.stretch log above below ↔
      event ∈ log ∧ (above < event.index ∧ event.index < below) ∧
        watch.covers event.key = true := by
  simp [stretch]

theorem stretch_increasing (watch : MemoryWatch) {log : List ChangeEvent}
    (numbered : NumberedFrom 0 log) (above below : Nat) :
    (watch.stretch log above below).Pairwise fun earlier later =>
      earlier.index < later.index :=
  numbered.increasing.filter _

/-- What is left of a stretch when its lower end moves up. -/
theorem stretch_above (watch : MemoryWatch) (log : List ChangeEvent)
    {above middle : Nat} (moved : above ≤ middle) (below : Nat) :
    ((watch.stretch log above below).filter fun event =>
        decide (middle < event.index)) = watch.stretch log middle below := by
  rw [stretch, List.filter_filter]
  apply List.filter_congr
  intro event _
  rw [← Bool.and_assoc, ← Bool.decide_and]
  congr 1
  rw [decide_eq_decide]
  omega

theorem stretch_empty (watch : MemoryWatch) (log : List ChangeEvent)
    {above below : Nat} (crossed : below ≤ above + 1) :
    watch.stretch log above below = [] := by
  rw [List.eq_nil_iff_forall_not_mem]
  intro event member
  obtain ⟨_, inside, _⟩ := mem_stretch.mp member
  omega

/-- A longer log owes nothing new below the live position. -/
theorem stretch_append {watch : MemoryWatch} {log more : List ChangeEvent}
    (numbered : NumberedFrom log.length more) {above below : Nat}
    (within : below ≤ log.length + 1) :
    watch.stretch (log ++ more) above below =
      watch.stretch log above below := by
  have none : watch.stretch more above below = [] := by
    rw [List.eq_nil_iff_forall_not_mem]
    intro event member
    obtain ⟨inMore, inside, _⟩ := mem_stretch.mp member
    have lower := (numbered.bounds inMore).1
    omega
  rw [stretch, List.filter_append]
  change watch.stretch log above below ++ watch.stretch more above below = _
  rw [none, List.append_nil]

theorem FollowsAt.append {watch : MemoryWatch} {log more : List ChangeEvent}
    {cursor : Nat} {position : LivePosition}
    (follows : watch.FollowsAt log cursor position)
    (numbered : NumberedFrom log.length more) :
    watch.FollowsAt (log ++ more) cursor position where
  live := follows.live
  after := follows.after
  reached := follows.reached
  within := by
    have within := follows.within
    rw [List.length_append]
    omega
  backlog := by
    rw [stretch_append numbered follows.within]
    exact follows.backlog

theorem Follows.append {watch : MemoryWatch} {log more : List ChangeEvent}
    {cursor : Nat} (follows : watch.Follows log cursor)
    (numbered : NumberedFrom log.length more) :
    watch.Follows (log ++ more) cursor := by
  obtain ⟨position, follows⟩ := follows
  exact ⟨position, follows.append numbered⟩

end MemoryWatch

namespace MemoryStore

open MemoryWatch

/-- Whether the history no longer reaches back to an index. -/
def Forgets (store : MemoryStore) (after : Nat) : Prop :=
  after < store.index ∧ after + 1 < store.oldestRetained

instance (store : MemoryStore) (after : Nat) :
    Decidable (store.Forgets after) :=
  inferInstanceAs (Decidable (_ ∧ _))

theorem watch_of_forgets {store : MemoryStore} {options : WatchOptions}
    (lost : store.Forgets options.after) (path : String) :
    (store.watch path options).live = none ∧
      (store.watch path options).backlog =
        [.error (.compacted options.after store.oldestRetained)] := by
  unfold Forgets at lost
  rw [watch, if_pos lost]
  exact ⟨rfl, rfl⟩

theorem watch_follows {store : MemoryStore} {log : List ChangeEvent}
    (traces : store.Traces log) {options : WatchOptions}
    (kept : ¬ store.Forgets options.after) (path : String) :
    (store.watch path options).Follows log options.after := by
  obtain ⟨forgotten, within, history, oldest⟩ := traces.oldestRetained
  unfold Forgets at kept
  rw [watch, if_neg kept]
  refine ⟨⟨store.index + 1, options.after⟩, rfl, Nat.le_refl _, .inr rfl,
    ?_, ?_⟩
  · exact Nat.le_of_eq (congrArg Nat.succ traces.index)
  · dsimp only
    congr 1
    rw [history, traces.numbered.drop_eq_filter, List.filter_filter]
    apply List.filter_congr
    intro event member
    have upper := (traces.numbered.bounds member).2
    have total := traces.index
    rw [Bool.eq_iff_iff]
    simp only [wants, covers, Bool.and_eq_true, decide_eq_true_eq]
    constructor
    · rintro ⟨⟨late, covered⟩, _⟩
      exact ⟨⟨late, by omega⟩, covered⟩
    · rintro ⟨⟨late, _⟩, covered⟩
      exact ⟨⟨late, covered⟩, by omega⟩

/-- A watch says at once that its history was lost, or owes all of the log
after its index. -/
theorem watch_cases {store : MemoryStore} {log : List ChangeEvent}
    (traces : store.Traces log) (path : String) (options : WatchOptions) :
    (store.watch path options).IsLost ∨
      (store.watch path options).Follows log options.after := by
  by_cases lost : store.Forgets options.after
  · obtain ⟨closed, backlog⟩ := watch_of_forgets lost path
    exact .inl ⟨closed, _, _, backlog⟩
  · exact .inr (watch_follows traces lost path)

/-- The history no longer reaches back to an index just if a mutation after it
is missing. -/
theorem Traces.forgets_iff {store : MemoryStore} {log : List ChangeEvent}
    (traces : store.Traces log) {after : Nat} :
    store.Forgets after ↔
      ∃ event ∈ log, after < event.index ∧ event ∉ store.history := by
  obtain ⟨forgotten, within, history, oldest⟩ := traces.oldestRetained
  have total := traces.index
  have kept : ∀ event, event ∈ store.history ↔
      event ∈ log ∧ forgotten < event.index := by
    intro event
    rw [history, traces.numbered.mem_drop, Nat.zero_add]
  constructor
  · rintro ⟨_, below⟩
    have positive : 0 < forgotten := by omega
    have recorded : forgotten ≤ 0 + log.length := by omega
    obtain ⟨event, member, index⟩ :=
      traces.numbered.exists_index positive recorded
    refine ⟨event, member, by omega, ?_⟩
    rw [kept]
    omega
  · rintro ⟨event, member, above, missing⟩
    have bounds := (traces.numbered.bounds member).2
    have dropped : ¬ forgotten < event.index := by
      intro inside
      exact missing ((kept event).mpr ⟨member, inside⟩)
    unfold Forgets
    omega

@[simp] theorem next_path (store : MemoryStore) (watch : MemoryWatch) :
    (store.next watch).2.path = watch.path := by
  unfold next
  split <;> rfl

@[simp] theorem next_recursive (store : MemoryStore) (watch : MemoryWatch) :
    (store.next watch).2.recursive = watch.recursive := by
  unfold next
  split <;> rfl

@[simp] theorem next_after (store : MemoryStore) (watch : MemoryWatch) :
    (store.next watch).2.after = watch.after := by
  unfold next
  split <;> rfl

/-- Taking items does not change what a watch is about. -/
@[simp] theorem next_stretch (store : MemoryStore) (watch : MemoryWatch)
    (log : List ChangeEvent) (above below : Nat) :
    (store.next watch).2.stretch log above below =
      watch.stretch log above below := by
  simp only [stretch, covers, next_path, next_recursive]

theorem watch_path (store : MemoryStore) (path : String)
    (options : WatchOptions) : (store.watch path options).path = path := by
  unfold watch
  dsimp only
  split <;> rfl

theorem watch_recursive (store : MemoryStore) (path : String)
    (options : WatchOptions) :
    (store.watch path options).recursive = options.recursive := by
  unfold watch
  dsimp only
  split <;> rfl

theorem watch_after (store : MemoryStore) (path : String)
    (options : WatchOptions) :
    (store.watch path options).after = options.after := by
  unfold watch
  dsimp only
  split <;> rfl

/-- What is passed over and what is found when a list is searched. -/
private theorem first_found {α : Type} (found : α → Bool) (items : List α) :
    (items.drop (items.takeWhile fun item => !found item).length = [] →
        ∀ item ∈ items, found item = false) ∧
      ∀ first later,
        items.drop (items.takeWhile fun item => !found item).length =
            first :: later →
          found first = true ∧ ∃ passed, items = passed ++ first :: later ∧
            ∀ item ∈ passed, found item = false := by
  induction items with
  | nil => simp
  | cons head tail induction =>
      obtain ⟨exhausted, hit⟩ := induction
      by_cases here : found head = true
      · rw [List.takeWhile_cons_of_neg (by simpa using here)]
        constructor
        · intro empty
          cases empty
        · intro first later same
          cases same
          exact ⟨here, [], rfl, by simp⟩
      · have missed : found head = false := by simpa using here
        rw [List.takeWhile_cons_of_pos (by simpa using here),
          List.length_cons, List.drop_succ_cons]
        constructor
        · intro empty item member
          rcases List.mem_cons.mp member with rfl | later
          · exact missed
          · exact exhausted empty item later
        · intro first later same
          obtain ⟨holds, passed, rfl, allMissed⟩ := hit first later same
          refine ⟨holds, head :: passed, rfl, ?_⟩
          intro item member
          rcases List.mem_cons.mp member with rfl | later
          · exact missed
          · exact allMissed item later

/-- The mutations that the live part has not looked at, unless it fell
behind. -/
theorem Traces.unseen_eq {store : MemoryStore} {log : List ChangeEvent}
    (traces : store.Traces log) {position : LivePosition}
    (held : ¬ position.next < store.oldestHeld) :
    store.unseen position =
      log.filter fun event => decide (position.next ≤ event.index) := by
  rw [traces.oldestHeld] at held
  have numbered := traces.numbered
  rw [← List.take_append_drop (log.length - store.capacity) log] at numbered
  have recentNumbered := (NumberedFrom.append.mp numbered).2
  rw [unseen, traces.recent, lastOf, recentNumbered.dropWhile_eq_filter,
    traces.numbered.drop_eq_filter, List.filter_filter]
  apply List.filter_congr
  intro event _
  rw [← Bool.decide_and, decide_eq_decide]
  omega

/-- A watch that still has a backlog yields the first mutation of it. -/
private theorem next_owed {watch : MemoryWatch} {log : List ChangeEvent}
    (numbered : NumberedFrom 0 log) {cursor : Nat} {position : LivePosition}
    (follows : watch.FollowsAt log cursor position) {event : ChangeEvent}
    {rest : List ChangeEvent}
    (owed : watch.stretch log cursor position.next = event :: rest) :
    watch.IsNext log cursor event ∧
      MemoryWatch.Follows { watch with backlog := rest.map .ok } log
        event.index := by
  have increasing := stretch_increasing watch numbered cursor position.next
  rw [owed] at increasing
  obtain ⟨least, _⟩ := List.pairwise_cons.mp increasing
  have member : event ∈ watch.stretch log cursor position.next := by
    rw [owed]
    exact List.mem_cons_self
  obtain ⟨inLog, ⟨fresh, below⟩, covered⟩ := mem_stretch.mp member
  constructor
  · refine ⟨inLog, covered, fresh, ?_⟩
    intro other otherMember otherCovered otherFresh
    by_cases inside : other.index < position.next
    · have otherOwed := mem_stretch.mpr
        ⟨otherMember, ⟨otherFresh, inside⟩, otherCovered⟩
      rw [owed] at otherOwed
      rcases List.mem_cons.mp otherOwed with rfl | later
      · exact Nat.le_refl _
      · exact Nat.le_of_lt (least other later)
    · omega
  · have after := follows.after
    refine ⟨position, follows.live, ?_, .inl below, follows.within, ?_⟩
    · change watch.after ≤ event.index
      omega
    · have remaining :=
        stretch_above watch log (Nat.le_of_lt fresh) position.next
      rw [owed, List.filter_cons_of_neg (by simp),
        List.filter_eq_self.mpr (by simpa using least)] at remaining
      change rest.map Except.ok =
        (watch.stretch log event.index position.next).map Except.ok
      rw [remaining]

section Live

variable {store : MemoryStore} {log : List ChangeEvent} {watch : MemoryWatch}
variable {cursor : Nat} {position : LivePosition}

theorem Traces.mem_unseen (traces : store.Traces log)
    (held : ¬ position.next < store.oldestHeld) {event : ChangeEvent} :
    event ∈ store.unseen position ↔
      event ∈ log ∧ position.next ≤ event.index := by
  rw [traces.unseen_eq held, List.mem_filter, decide_eq_true_eq]

/-- What a watch without a backlog has still to report is wanted, and the live
part has not looked at it. -/
private theorem wanted_of_fresh (traces : store.Traces log)
    (follows : watch.FollowsAt log cursor position)
    (owed : watch.stretch log cursor position.next = [])
    (held : ¬ position.next < store.oldestHeld) {other : ChangeEvent}
    (member : other ∈ log) (covered : watch.covers other.key = true)
    (fresh : cursor < other.index) :
    other ∈ store.unseen position ∧ watch.wants other = true := by
  have ahead : position.next ≤ other.index := by
    by_contra below
    have inStretch := mem_stretch.mpr
      ⟨member, ⟨fresh, Nat.lt_of_not_le below⟩, covered⟩
    rw [owed] at inStretch
    cases inStretch
  refine ⟨(traces.mem_unseen held).mpr ⟨member, ahead⟩, ?_⟩
  rw [wants, decide_eq_true (Nat.lt_of_le_of_lt follows.after fresh)]
  exact covered

/-- The first wanted mutation that the live part finds is the next one, and the
watch goes on behind it. -/
private theorem next_of_found (traces : store.Traces log)
    (follows : watch.FollowsAt log cursor position)
    (owed : watch.stretch log cursor position.next = [])
    (held : ¬ position.next < store.oldestHeld) {event : ChangeEvent}
    {passed later : List ChangeEvent} (wanted : watch.wants event = true)
    (parted : store.unseen position = passed ++ event :: later)
    (missed : ∀ other ∈ passed, watch.wants other = false) :
    watch.IsNext log cursor event ∧
      MemoryWatch.Follows
        { watch with live := some ⟨event.index + 1, event.index⟩ } log
        event.index := by
  simp only [wants, Bool.and_eq_true, decide_eq_true_eq] at wanted
  obtain ⟨late, covered⟩ := wanted
  have member : event ∈ store.unseen position := by
    rw [parted]
    exact List.mem_append_right _ List.mem_cons_self
  obtain ⟨inLog, ahead⟩ := (traces.mem_unseen held).mp member
  have fresh : cursor < event.index := by
    rcases follows.reached with below | same
    · exact Nat.lt_of_lt_of_le below ahead
    · rwa [same]
  have increasing := traces.numbered.increasing.filter
    fun event => decide (position.next ≤ event.index)
  rw [← traces.unseen_eq held, parted] at increasing
  obtain ⟨_, least, _⟩ := List.pairwise_append.mp increasing
  constructor
  · refine ⟨inLog, covered, fresh, ?_⟩
    intro other otherMember otherCovered otherFresh
    obtain ⟨unseen, otherWanted⟩ := wanted_of_fresh traces follows owed held
      otherMember otherCovered otherFresh
    rw [parted] at unseen
    rcases List.mem_append.mp unseen with early | rest
    · rw [missed other early] at otherWanted
      cases otherWanted
    · rcases List.mem_cons.mp rest with rfl | later
      · exact Nat.le_refl _
      · exact Nat.le_of_lt ((List.pairwise_cons.mp least).1 other later)
  · have upper := (traces.numbered.bounds inLog).2
    have backlog := follows.backlog
    rw [owed] at backlog
    refine ⟨_, rfl, Nat.le_of_lt late, .inl (Nat.lt_succ_self _), ?_, ?_⟩
    · dsimp only
      omega
    · change watch.backlog =
        (watch.stretch log event.index (event.index + 1)).map Except.ok
      rw [backlog, stretch_empty watch log (Nat.le_refl _)]

/-- If the live part finds nothing that is wanted, everything is reported, and
the watch goes on behind the end of the log. -/
private theorem follows_of_exhausted (traces : store.Traces log)
    (follows : watch.FollowsAt log cursor position)
    (owed : watch.stretch log cursor position.next = [])
    (held : ¬ position.next < store.oldestHeld)
    (missed : ∀ other ∈ store.unseen position, watch.wants other = false)
    (looked : Nat) :
    (∀ other ∈ log, watch.covers other.key = true → other.index ≤ cursor) ∧
      MemoryWatch.Follows
        { watch with live := some ⟨store.index + 1, looked⟩ } log cursor := by
  have nothing : ∀ other ∈ log, watch.covers other.key = true →
      other.index ≤ cursor := by
    intro other member covered
    by_contra fresh
    obtain ⟨unseen, wanted⟩ := wanted_of_fresh traces follows owed held member
      covered (Nat.lt_of_not_le fresh)
    rw [missed other unseen] at wanted
    cases wanted
  have total := traces.index
  have within := follows.within
  have backlog := follows.backlog
  rw [owed] at backlog
  have empty : watch.stretch log cursor (store.index + 1) = [] := by
    rw [List.eq_nil_iff_forall_not_mem]
    intro other member
    obtain ⟨inLog, ⟨fresh, _⟩, covered⟩ := mem_stretch.mp member
    exact Nat.not_le_of_lt fresh (nothing other inLog covered)
  refine ⟨nothing, ⟨_, rfl, follows.after, ?_, ?_, ?_⟩⟩
  · rcases follows.reached with below | same
    · left
      dsimp only
      omega
    · exact .inr same
  · dsimp only
    omega
  · change watch.backlog =
      (watch.stretch log cursor (store.index + 1)).map Except.ok
    rw [backlog, empty]

/-- A watch without a backlog that did not fall behind yields the first
mutation from its live position on, if there is one. -/
private theorem next_live (traces : store.Traces log)
    (follows : watch.FollowsAt log cursor position)
    (owed : watch.stretch log cursor position.next = [])
    (held : ¬ position.next < store.oldestHeld) :
    (∃ event next, store.nextLive watch position = (.event event, next) ∧
        watch.IsNext log cursor event ∧
          MemoryWatch.Follows { watch with live := some next } log
            event.index) ∨
      ∃ next, store.nextLive watch position = (.pending, next) ∧
        (∀ other ∈ log, watch.covers other.key = true →
          other.index ≤ cursor) ∧
          MemoryWatch.Follows { watch with live := some next } log cursor := by
  obtain ⟨exhausted, hit⟩ := first_found watch.wants (store.unseen position)
  rw [nextLive, if_neg held]
  dsimp only
  split
  · rename_i event later split
    left
    obtain ⟨wanted, passed, parted, missed⟩ := hit event later split
    exact ⟨event, _, rfl,
      next_of_found traces follows owed held wanted parted missed⟩
  · rename_i split
    right
    exact ⟨_, rfl,
      follows_of_exhausted traces follows owed held (exhausted split) _⟩

end Live

/-- The next item of a watch that owes the rest of the log. -/
theorem next_cases {store : MemoryStore} {log : List ChangeEvent}
    (traces : store.Traces log) {watch : MemoryWatch} {cursor : Nat}
    (follows : watch.Follows log cursor) :
    (∃ event later, store.next watch = (.event event, later) ∧
        watch.IsNext log cursor event ∧ later.Follows log event.index) ∨
      (∃ requested oldest later,
        store.next watch = (.failure (.compacted requested oldest), later)) ∨
      ∃ later, store.next watch = (.pending, later) ∧
        (∀ other ∈ log, watch.covers other.key = true →
          other.index ≤ cursor) ∧ later.Follows log cursor := by
  obtain ⟨position, follows⟩ := follows
  have backlog := follows.backlog
  cases owed : watch.stretch log cursor position.next with
  | cons event rest =>
      left
      obtain ⟨first, remaining⟩ := next_owed traces.numbered follows owed
      rw [owed, List.map_cons] at backlog
      refine ⟨event, { watch with backlog := rest.map Except.ok }, ?_, first,
        remaining⟩
      rw [next, backlog]
      rfl
  | nil =>
      have live : store.next watch = ((store.nextLive watch position).1,
          { watch with live := some (store.nextLive watch position).2 }) := by
        rw [owed, List.map_nil] at backlog
        rw [next, backlog, follows.live]
      by_cases behind : position.next < store.oldestHeld
      · right
        left
        rw [live, nextLive, if_pos behind]
        exact ⟨_, _, _, rfl⟩
      · rcases next_live traces follows owed behind with
          ⟨event, position, yielded, first, remaining⟩ |
            ⟨position, waits, nothing, remaining⟩
        · left
          rw [live, yielded]
          exact ⟨event, _, rfl, first, remaining⟩
        · right
          right
          rw [live, waits]
          exact ⟨_, rfl, nothing, remaining⟩

/-- A watch fails only because it fell behind, and then goes on with what is
still held for it. -/
theorem next_failure {store : MemoryStore} {log : List ChangeEvent}
    (traces : store.Traces log) {watch later : MemoryWatch} {cursor : Nat}
    (follows : watch.Follows log cursor) {error : StoreError}
    (yielded : store.next watch = (.failure error, later)) :
    (∃ requested oldest, error = .compacted requested oldest) ∧
      later.Follows log (max cursor (store.oldestHeld - 1)) := by
  obtain ⟨position, follows⟩ := follows
  have oldest := traces.oldestHeld
  have backlog := follows.backlog
  cases owed : watch.stretch log cursor position.next with
  | cons event rest =>
      rw [owed, List.map_cons] at backlog
      rw [next, backlog] at yielded
      cases yielded
  | nil =>
      rw [owed, List.map_nil] at backlog
      simp only [next, backlog, follows.live, nextLive] at yielded
      split at yielded
      · rename_i behind
        simp only [Prod.mk.injEq, Arrival.failure.injEq] at yielded
        obtain ⟨rfl, rfl⟩ := yielded
        refine ⟨⟨_, _, rfl⟩,
          ⟨{ position with next := store.oldestHeld }, rfl, ?_, ?_, ?_, ?_⟩⟩
        · have after := follows.after
          change watch.after ≤ _
          omega
        · have reached := follows.reached
          change _ < store.oldestHeld ∨ _ = watch.after
          omega
        · change store.oldestHeld ≤ _
          omega
        · rw [MemoryWatch.stretch_empty _ log (by dsimp only; omega)]
          rfl
      · split at yielded <;> simp at yielded

/-- A watch that owes the rest of the log does not end. -/
theorem next_ne_ended {store : MemoryStore} {log : List ChangeEvent}
    (traces : store.Traces log) {watch : MemoryWatch} {cursor : Nat}
    (follows : watch.Follows log cursor) :
    (store.next watch).1 ≠ .ended := by
  rcases next_cases traces follows with
    ⟨_, _, yielded, _⟩ | ⟨_, _, _, yielded⟩ | ⟨_, yielded, _⟩ <;>
      simp [yielded]

end MemoryStore

end LiveFlags
