import LiveFlags.Proofs.Store.Listing
import LiveFlags.Proofs.Store.Watch

/-!
# A snapshot and the watch after it

A reader lists a directory, opens a watch after the index of that snapshot, at
once or later, and takes items at its own pace while others go on changing the
store.  Unless it is told that history was lost, the items that it took are
exactly the mutations of the directory since the snapshot up to some cursor.
Once nothing is left to take, the snapshot and the items together are the
directory as it stands.
-/

namespace LiveFlags

/-- Whether a watch says that history was lost. -/
def Arrival.isCompacted : Arrival → Bool
  | .failure (.compacted ..) => true
  | _ => false

/-- A store, a watch on it, and what the watch yielded so far. -/
structure Reading where
  store : MemoryStore
  watch : MemoryWatch
  yielded : List Arrival := []

namespace Reading

/-- What happens while a watch is read. -/
inductive Move where
  | act (act : MemoryStore.Act)
  | take
deriving DecidableEq, Repr

def step (reading : Reading) : Move → Reading
  | .act act => { reading with store := reading.store.act act }
  | .take =>
      let (arrival, watch) := reading.store.next reading.watch
      { reading with watch, yielded := reading.yielded ++ [arrival] }

def run (reading : Reading) (moves : List Move) : Reading :=
  moves.foldl step reading

/-- The mutations that the watch yielded, in order. -/
def changes (reading : Reading) : List ChangeEvent :=
  reading.yielded.filterMap Arrival.event?

/-- The watch never said that history was lost. -/
def IsUnbroken (reading : Reading) : Prop :=
  ∀ arrival ∈ reading.yielded, arrival.isCompacted = false

/-- Nothing is left to take at present. -/
def IsExhausted (reading : Reading) : Prop :=
  (reading.store.next reading.watch).1 = .pending ∨
    (reading.store.next reading.watch).1 = .ended

instance (reading : Reading) : Decidable reading.IsUnbroken :=
  inferInstanceAs (Decidable (∀ arrival ∈ reading.yielded, _ = false))

instance (reading : Reading) : Decidable reading.IsExhausted :=
  inferInstanceAs (Decidable (_ ∨ _))

/-- The watch yielded what the log holds for it above `start` and up to
`cursor`, and owes the rest. -/
structure ReadsTo (reading : Reading) (log : List ChangeEvent)
    (start cursor : Nat) : Prop where
  follows : reading.watch.Follows log cursor
  ahead : start ≤ cursor
  within : cursor ≤ log.length
  changes : reading.changes = reading.watch.stretch log start (cursor + 1)

/-- What holds of a reading that began after `start`. -/
structure Sound (reading : Reading) (path : String) (log : List ChangeEvent)
    (start : Nat) : Prop where
  traces : reading.store.Traces log
  path : reading.watch.path = path
  recursive : reading.watch.recursive = true
  progress : reading.watch.IsLost ∨
    (∃ cursor, reading.ReadsTo log start cursor) ∨
    ¬ reading.IsUnbroken

end Reading

open MemoryWatch

private theorem eq_of_increasing {left right : List ChangeEvent}
    (leftIncreasing : left.Pairwise fun earlier later =>
      earlier.index < later.index)
    (rightIncreasing : right.Pairwise fun earlier later =>
      earlier.index < later.index)
    (same : ∀ event, event ∈ left ↔ event ∈ right) : left = right := by
  have leftDistinct : left.Nodup := leftIncreasing.imp fun before equal => by
    rw [equal] at before
    exact Nat.lt_irrefl _ before
  have rightDistinct : right.Nodup := rightIncreasing.imp fun before equal => by
    rw [equal] at before
    exact Nat.lt_irrefl _ before
  have permutation : left.Perm right :=
    (List.perm_ext_iff_of_nodup leftDistinct rightDistinct).mpr same
  refine permutation.eq_of_pairwise ?_ leftIncreasing rightIncreasing
  intro first second _ _ before after
  omega

/-- The first mutation that is owed is the only one that its taking adds. -/
theorem MemoryWatch.IsNext.stretch_eq {watch : MemoryWatch}
    {log : List ChangeEvent} (numbered : NumberedFrom 0 log)
    {start cursor : Nat} {event : ChangeEvent}
    (next : watch.IsNext log cursor event) (ahead : start ≤ cursor) :
    watch.stretch log start (event.index + 1) =
      watch.stretch log start (cursor + 1) ++ [event] := by
  refine eq_of_increasing (stretch_increasing watch numbered _ _) ?_ ?_
  · refine List.pairwise_append.mpr
      ⟨stretch_increasing watch numbered _ _, List.pairwise_singleton _ _, ?_⟩
    intro earlier member last lastMember
    obtain rfl := List.mem_singleton.mp lastMember
    obtain ⟨_, inside, _⟩ := mem_stretch.mp member
    have fresh := next.fresh
    omega
  · intro other
    rw [List.mem_append, mem_stretch, mem_stretch, List.mem_singleton]
    constructor
    · rintro ⟨member, inside, covered⟩
      by_cases taken : other.index ≤ cursor
      · exact .inl ⟨member, by omega, covered⟩
      · have notBefore := next.first other member covered (by omega)
        exact .inr (numbered.unique member next.member (by omega))
    · have fresh := next.fresh
      rintro (⟨member, inside, covered⟩ | rfl)
      · exact ⟨member, by omega, covered⟩
      · exact ⟨next.member, by omega, next.covered⟩

theorem ChangeEvent.filterKeys_apply (event : ChangeEvent)
    (keep : String → Bool) (entries : SortedMap Entry) :
    (event.apply entries).filterKeys keep =
      if keep event.key then event.apply (entries.filterKeys keep)
      else entries.filterKeys keep := by
  apply SortedMap.ext_get?
  intro key
  rw [SortedMap.get?_filterKeys, ChangeEvent.get?_apply]
  by_cases kept : keep event.key = true
  · rw [if_pos kept, ChangeEvent.get?_apply, SortedMap.get?_filterKeys]
    by_cases same : key = event.key
    · rw [if_pos same, if_pos same, same, if_pos kept]
    · rw [if_neg same, if_neg same]
  · rw [if_neg kept, SortedMap.get?_filterKeys]
    by_cases same : key = event.key
    · rw [same, if_neg kept, if_neg kept]
    · rw [if_neg same]

/-- Mutations of other keys do not matter to the kept ones. -/
theorem replay_filterKeys (keep : String → Bool) (entries : SortedMap Entry)
    (log : List ChangeEvent) :
    replay (entries.filterKeys keep) (log.filter fun event => keep event.key) =
      (replay entries log).filterKeys keep := by
  induction log generalizing entries with
  | nil => rfl
  | cons event later induction =>
      rw [replay_cons, ← induction, ChangeEvent.filterKeys_apply]
      by_cases kept : keep event.key = true
      · rw [List.filter_cons_of_pos (by simpa using kept), if_pos kept,
          replay_cons]
      · rw [List.filter_cons_of_neg (by simpa using kept), if_neg kept]

namespace Reading

/-- A reading at its beginning: a watch is opened after `start`. -/
def opened (store : MemoryStore) (path : String) (start : Nat) : Reading :=
  { store, watch := store.watch path ⟨start, true⟩ }

theorem Sound.opened {store : MemoryStore} {log : List ChangeEvent}
    (traces : store.Traces log) (path : String) {start : Nat}
    (within : start ≤ log.length) :
    (Reading.opened store path start).Sound path log start where
  traces := traces
  path := store.watch_path path _
  recursive := store.watch_recursive path _
  progress := by
    rcases store.watch_cases traces path ⟨start, true⟩ with lost | follows
    · exact .inl lost
    · refine .inr (.inl ⟨start, follows, Nat.le_refl _, within, ?_⟩)
      rw [stretch_empty _ _ (Nat.le_refl _)]
      rfl

theorem Sound.act {reading : Reading} {path : String} {log : List ChangeEvent}
    {start : Nat} (sound : reading.Sound path log start)
    (act : MemoryStore.Act) :
    ∃ more, (reading.step (.act act)).Sound path (log ++ more) start := by
  obtain ⟨more, _, traces⟩ := sound.traces.act act
  have numbered := (NumberedFrom.append.mp traces.numbered).2
  rw [Nat.zero_add] at numbered
  refine ⟨more, traces, sound.path, sound.recursive, ?_⟩
  rcases sound.progress with lost | ⟨cursor, reads⟩ | broken
  · exact .inl lost
  · have within := reads.within
    refine .inr (.inl
      ⟨cursor, reads.follows.append numbered, reads.ahead, ?_, ?_⟩)
    · rw [List.length_append]
      omega
    · have unchanged : reading.watch.stretch (log ++ more) start (cursor + 1) =
          reading.watch.stretch log start (cursor + 1) :=
        stretch_append numbered (by omega)
      exact reads.changes.trans unchanged.symm
  · exact .inr (.inr broken)

@[simp] theorem step_take (reading : Reading) :
    reading.step .take =
      { reading with
        watch := (reading.store.next reading.watch).2
        yielded := reading.yielded ++
          [(reading.store.next reading.watch).1] } := rfl

theorem changes_take (reading : Reading) :
    (reading.step .take).changes = reading.changes ++
      ((reading.store.next reading.watch).1.event?).toList := by
  rw [changes, step_take, List.filterMap_append]
  congr 1

theorem not_isUnbroken_take {reading : Reading}
    (lost : (reading.store.next reading.watch).1.isCompacted = true) :
    ¬ (reading.step .take).IsUnbroken := by
  intro unbroken
  have kept := unbroken (reading.store.next reading.watch).1
    (List.mem_append_right _ (List.mem_singleton_self _))
  rw [lost] at kept
  cases kept

/-- Taking an item extends what was yielded by just the next mutation that is
owed. -/
theorem ReadsTo.take {reading : Reading} {log : List ChangeEvent}
    {start cursor : Nat} (reads : reading.ReadsTo log start cursor)
    (traces : reading.store.Traces log) :
    (∃ further, (reading.step .take).ReadsTo log start further) ∨
      ¬ (reading.step .take).IsUnbroken := by
  have ahead := reads.ahead
  have changes := reading.changes_take
  rcases MemoryStore.next_cases traces reads.follows with
    ⟨event, later, yielded, next, follows⟩ |
      ⟨requested, oldest, later, yielded⟩ | ⟨later, yielded, nothing, follows⟩
  · left
    have fresh := next.fresh
    have upper := (traces.numbered.bounds next.member).2
    refine ⟨event.index, ?_, by omega, by omega, ?_⟩
    · rw [step_take, yielded]
      exact follows
    · rw [changes, step_take, MemoryStore.next_stretch, yielded, reads.changes,
        next.stretch_eq traces.numbered ahead]
      rfl
  · right
    exact not_isUnbroken_take (by rw [yielded]; rfl)
  · left
    refine ⟨cursor, ?_, ahead, reads.within, ?_⟩
    · rw [step_take, yielded]
      exact follows
    · rw [changes, step_take, MemoryStore.next_stretch, yielded, reads.changes]
      exact List.append_nil _

theorem Sound.take {reading : Reading} {path : String} {log : List ChangeEvent}
    {start : Nat} (sound : reading.Sound path log start) :
    (reading.step .take).Sound path log start where
  traces := sound.traces
  path := (MemoryStore.next_path _ _).trans sound.path
  recursive := (MemoryStore.next_recursive _ _).trans sound.recursive
  progress := by
    rcases sound.progress with ⟨_, requested, oldest, backlog⟩ |
      ⟨cursor, reads⟩ | broken
    · refine .inr (.inr (not_isUnbroken_take ?_))
      rw [MemoryStore.next, backlog]
      rfl
    · exact .inr (reads.take sound.traces)
    · right
      right
      intro unbroken
      apply broken
      intro arrival member
      exact unbroken arrival (List.mem_append_left _ member)

theorem Sound.run {reading : Reading} {path : String} {log : List ChangeEvent}
    {start : Nat} (sound : reading.Sound path log start) (moves : List Move) :
    ∃ more, (reading.run moves).Sound path (log ++ more) start := by
  induction moves generalizing reading log with
  | nil => exact ⟨[], by rwa [List.append_nil]⟩
  | cons move later induction =>
      cases move with
      | take => exact induction sound.take
      | act act =>
          obtain ⟨more, next⟩ := sound.act act
          obtain ⟨evenMore, last⟩ := induction next
          rw [List.append_assoc] at last
          exact ⟨more ++ evenMore, last⟩

/-- When nothing is left to take and no history was lost, everything since the
start was yielded. -/
theorem Sound.changes_of_isExhausted {reading : Reading} {path : String}
    {log : List ChangeEvent} {start : Nat}
    (sound : reading.Sound path log start) (unbroken : reading.IsUnbroken)
    (exhausted : reading.IsExhausted) :
    reading.changes = reading.watch.stretch log start (log.length + 1) := by
  rcases sound.progress with ⟨_, requested, oldest, backlog⟩ |
    ⟨cursor, reads⟩ | broken
  · rw [IsExhausted, MemoryStore.next, backlog] at exhausted
    rcases exhausted with waits | ends
    · cases waits
    · cases ends
  · rcases MemoryStore.next_cases sound.traces reads.follows with
      ⟨event, later, yielded, _⟩ | ⟨requested, oldest, later, yielded⟩ |
        ⟨later, yielded, nothing, _⟩
    · simp [IsExhausted, yielded] at exhausted
    · simp [IsExhausted, yielded] at exhausted
    · rw [reads.changes]
      apply List.filter_congr
      intro event member
      have upper := (sound.traces.numbered.bounds member).2
      rw [Bool.eq_iff_iff]
      simp only [Bool.and_eq_true, decide_eq_true_eq]
      constructor
      · rintro ⟨inside, covered⟩
        exact ⟨by omega, covered⟩
      · rintro ⟨inside, covered⟩
        have stale := nothing event member covered
        exact ⟨by omega, covered⟩
  · exact absurd unbroken broken

end Reading

/-- The mutations of a directory after a point of the log bring the entries
below it up to date. -/
theorem MemoryStore.Traces.replay_stretch {store : MemoryStore}
    {log : List ChangeEvent} (traces : store.Traces log) {watch : MemoryWatch}
    (isDirectory : Key.IsDirectory watch.path)
    (recursive : watch.recursive = true) {earlier later : List ChangeEvent}
    (parted : log = earlier ++ later) :
    replay ((replay .empty earlier).filterKeys (Key.isBelow watch.path))
        (watch.stretch log earlier.length (log.length + 1)) =
      store.entries.filterKeys (Key.isBelow watch.path) := by
  have numbered := traces.numbered
  have storable := traces.storable
  rw [traces.entries]
  subst parted
  have owed : watch.stretch (earlier ++ later) earlier.length
      ((earlier ++ later).length + 1) =
        later.filter fun event => Key.isBelow watch.path event.key := by
    have rest : (earlier ++ later).drop earlier.length = later := List.drop_left
    rw [numbered.drop_eq_filter, Nat.zero_add] at rest
    conv_rhs => rw [← rest]
    rw [List.filter_filter]
    apply List.filter_congr
    intro event member
    have upper := (numbered.bounds member).2
    have same := Key.isWatched_directory isDirectory (storable event member)
    rw [covers, recursive, same, Bool.and_comm]
    congr 1
    rw [decide_eq_decide]
    omega
  rw [owed, replay_filterKeys, replay_append]

namespace Reading

/-- A reading after a snapshot: others act on the store, then a watch is opened
after the index of the snapshot, then it is read while others go on. -/
def since (store : MemoryStore) (path : String) (sorted : Bool)
    (earlier : List MemoryStore.Act) (moves : List Move) : Reading :=
  (opened (store.actAll earlier) path
    (store.get path ⟨true, sorted⟩).index).run moves

/-- A snapshot of a directory and the items of the watch after it are together
the directory as it stands. -/
theorem replay_changes {store : MemoryStore} (reachable : store.Reachable)
    {path : String} (isDirectory : Key.IsDirectory path) (sorted : Bool)
    (earlier : List MemoryStore.Act) (moves : List Move)
    (unbroken : (since store path sorted earlier moves).IsUnbroken)
    (exhausted : (since store path sorted earlier moves).IsExhausted)
    (order : Bool) :
    replay (store.get path ⟨true, sorted⟩).leafMap
        (since store path sorted earlier moves).changes =
      ((since store path sorted earlier moves).store.get path
        ⟨true, order⟩).leafMap := by
  obtain ⟨log, traces⟩ := reachable.traces
  have start : (store.get path ⟨true, sorted⟩).index = log.length := by
    rw [store.get_index, traces.index]
  obtain ⟨older, opening⟩ := traces.actAll earlier
  have within : log.length ≤ (log ++ older).length := by simp
  have opened := Sound.opened opening path within
  obtain ⟨younger, sound⟩ := opened.run moves
  rw [← start] at sound
  change (since store path sorted earlier moves).Sound path _ _ at sound
  generalize since store path sorted earlier moves = reading at *
  obtain rfl := sound.path
  rw [sound.changes_of_isExhausted unbroken exhausted, start,
    MemoryStore.leafMap_get traces isDirectory,
    MemoryStore.leafMap_get sound.traces isDirectory, traces.entries]
  exact sound.traces.replay_stretch isDirectory sound.recursive
    (List.append_assoc log older younger)

/-- A store with two keys, one of them outside of the directory. -/
def twoKeys : MemoryStore :=
  ((MemoryStore.empty 4).act (.write (.set "/c/a" "1" none))).act
    (.write (.set "/d" "2" none))

/-- A watch that is opened late, replays what it missed and then follows. -/
def late : Reading :=
  since twoKeys "/c/" true [.write (.set "/c/b/x" "3" none)]
    [.take, .act (.write (.delete "/c/a" (some 1))), .act .compact, .take,
      .take]

theorem replay_changes_of_late :
    replay (twoKeys.get "/c/" ⟨true, true⟩).leafMap late.changes =
      (late.store.get "/c/" ⟨true, false⟩).leafMap := by
  have reachable : twoKeys.Reachable := .act _ (.act _ (.empty 4))
  exact replay_changes reachable (by decide) true _ _ (by decide +kernel)
    (by decide +kernel) false

end Reading

end LiveFlags
