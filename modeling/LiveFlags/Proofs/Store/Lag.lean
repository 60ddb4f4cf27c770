import LiveFlags.Proofs.Store.Chronicle
import LiveFlags.Proofs.Store.Delivery

/-!
# What a watch says when it falls behind

The live part of a watch moves past the mutations since the watch was opened,
one after the other: it looks at a mutation, or the mutation is lost because the
store no longer held it.  A report of a loss names the last mutation that was
looked at, at first the index that the watch was opened after, and counts the
mutations that are lost from there on.  So it is true just if that index is the
last one the live part moved past.
-/

namespace LiveFlags

/-- A mutation that the live part of a watch moved past. -/
structure Passage where
  index : Nat
  /-- The store no longer held the mutation, so that it was never looked at. -/
  isLost : Bool
deriving DecidableEq, Repr

namespace Passage

/-- The mutations between two positions, in order. -/
def between (isLost : Bool) (first beyond : Nat) : List Passage :=
  (List.range' first (beyond - first)).map fun index => ⟨index, isLost⟩

/-- The indices that were looked at. -/
def seen (passages : List Passage) : List Nat :=
  (passages.filter fun passage => !passage.isLost).map index

/-- The indices that were lost. -/
def lost (passages : List Passage) : List Nat :=
  (passages.filter isLost).map index

@[simp] theorem seen_append (earlier later : List Passage) :
    seen (earlier ++ later) = seen earlier ++ seen later := by
  simp [seen]

@[simp] theorem lost_append (earlier later : List Passage) :
    lost (earlier ++ later) = lost earlier ++ lost later := by
  simp [lost]

@[simp] theorem between_self (isLost : Bool) (index : Nat) :
    between isLost index index = [] := by
  simp [between]

@[simp] theorem length_between (isLost : Bool) (first beyond : Nat) :
    (between isLost first beyond).length = beyond - first := by
  simp [between]

theorem map_index_between (isLost : Bool) (first beyond : Nat) :
    (between isLost first beyond).map index =
      List.range' first (beyond - first) := by
  rw [between, List.map_map]
  exact List.map_id _

@[simp] theorem seen_between (first beyond : Nat) :
    seen (between false first beyond) =
      List.range' first (beyond - first) := by
  simp [seen, between, List.filter_map, Function.comp_def]

@[simp] theorem seen_between_lost (first beyond : Nat) :
    seen (between true first beyond) = [] := by
  simp [seen, between, List.filter_map, Function.comp_def]

@[simp] theorem lost_between_seen (first beyond : Nat) :
    lost (between false first beyond) = [] := by
  simp [lost, between, List.filter_map, Function.comp_def]

@[simp] theorem lost_between (first beyond : Nat) :
    lost (between true first beyond) =
      List.range' first (beyond - first) := by
  simp [lost, between, List.filter_map, Function.comp_def]

theorem isLost_of_mem_between {passage : Passage} {isLost : Bool}
    {first beyond : Nat} (member : passage ∈ between isLost first beyond) :
    passage.isLost = isLost := by
  obtain ⟨index, _, rfl⟩ := List.mem_map.mp member
  rfl

theorem seen_of_lost_nil {passages : List Passage} (none : lost passages = []) :
    seen passages = passages.map index := by
  rw [lost, List.map_eq_nil_iff, List.filter_eq_nil_iff] at none
  rw [seen, List.filter_eq_self.mpr]
  intro passage member
  simpa using none passage member

end Passage

namespace MemoryStore

/-- The mutations that the live part has not looked at are numbered from its
position on. -/
theorem Traces.map_index_unseen {store : MemoryStore} {log : List ChangeEvent}
    (traces : store.Traces log) {position : LivePosition}
    (started : 0 < position.next) (within : position.next ≤ log.length + 1)
    (held : ¬ position.next < store.oldestHeld) :
    (store.unseen position).map ChangeEvent.index =
      List.range' position.next (store.index + 1 - position.next) := by
  have unseen : store.unseen position = log.drop (position.next - 1) := by
    rw [traces.unseen_eq held, traces.numbered.drop_eq_filter]
    apply List.filter_congr
    intro event _
    rw [decide_eq_decide]
    omega
  have numbered := traces.numbered
  rw [← List.take_append_drop (position.next - 1) log] at numbered
  have rest := (NumberedFrom.append.mp numbered).2.map_index
  have begins : 0 + (log.take (position.next - 1)).length + 1 =
      position.next := by
    rw [List.length_take]
    omega
  have counts : (log.drop (position.next - 1)).length =
      store.index + 1 - position.next := by
    rw [List.length_drop, traces.index]
    omega
  rw [unseen, rest, begins, counts]

theorem Traces.exists_head?_unseen {store : MemoryStore}
    {log : List ChangeEvent} (traces : store.Traces log)
    {position : LivePosition} (started : 0 < position.next)
    (within : position.next ≤ log.length)
    (held : ¬ position.next < store.oldestHeld) :
    ∃ event, (store.unseen position).head? = some event ∧
      event.index = position.next := by
  have indices := traces.map_index_unseen started (by omega) held
  have total := traces.index
  obtain ⟨left, some⟩ : ∃ left, store.index + 1 - position.next = left + 1 :=
    ⟨store.index - position.next, by omega⟩
  rw [some, List.range'_succ] at indices
  cases unseen : store.unseen position with
  | nil => simp [unseen] at indices
  | cons event later =>
      rw [unseen, List.map_cons] at indices
      exact ⟨event, rfl, (List.cons.inj indices).1⟩

/-- The live part of a watch that did not fall behind looks at all that it moves
past, and its cursor is the last mutation that it looked at. -/
theorem Traces.nextLive_held {store : MemoryStore} {log : List ChangeEvent}
    (traces : store.Traces log) (watch : MemoryWatch) {position : LivePosition}
    (started : 0 < position.next) (within : position.next ≤ log.length + 1)
    (held : ¬ position.next < store.oldestHeld) :
    (store.nextLive watch position).1.isCompacted = false ∧
      position.next ≤ (store.nextLive watch position).2.next ∧
      (store.nextLive watch position).2.cursor =
        (Passage.seen (Passage.between false position.next
          (store.nextLive watch position).2.next)).getLast?.getD
            position.cursor := by
  have indices := traces.map_index_unseen started within held
  have total := traces.index
  rw [nextLive, if_neg held]
  dsimp only
  split
  · rename_i event later split
    have member : event ∈ store.unseen position :=
      List.mem_of_mem_drop (split ▸ List.mem_cons_self)
    have inside := List.mem_map_of_mem member (f := ChangeEvent.index)
    rw [indices, List.mem_range'_1] at inside
    have moved : event.index + 1 - position.next ≠ 0 := by omega
    refine ⟨rfl, by dsimp only; omega, ?_⟩
    rw [Passage.seen_between, List.getLast?_range', if_neg moved,
      Option.getD_some]
    dsimp only
    omega
  · rename_i split
    -- Nothing is left, so all that was not looked at was passed over.
    have whole : ((store.unseen position).takeWhile fun event =>
        !watch.wants event) = store.unseen position :=
      (List.takeWhile_prefix _).eq_of_length_le
        (List.drop_eq_nil_iff.mp split)
    refine ⟨rfl, by dsimp only; omega, ?_⟩
    rw [Passage.seen_between, whole, ← List.getLast?_map, indices]

theorem next_of_backlog {store : MemoryStore} {watch : MemoryWatch}
    {item : Except StoreError ChangeEvent}
    {later : List (Except StoreError ChangeEvent)}
    (backlog : watch.backlog = item :: later) :
    store.next watch = (.ofItem item, { watch with backlog := later }) := by
  rw [next, backlog]

theorem next_of_live (store : MemoryStore) {watch : MemoryWatch}
    {position : LivePosition} (backlog : watch.backlog = [])
    (live : watch.live = some position) :
    store.next watch = ((store.nextLive watch position).1,
      { watch with live := some (store.nextLive watch position).2 }) := by
  rw [next, backlog, live]

theorem nextLive_behind {store : MemoryStore} (watch : MemoryWatch)
    {position : LivePosition} (behind : position.next < store.oldestHeld) :
    store.nextLive watch position = (.failure (store.lagReport position),
      { position with next := store.oldestHeld }) := by
  rw [nextLive, if_pos behind]

end MemoryStore

namespace Reading

open MemoryStore

/-- The mutations that the live part of a watch moves past in one move. -/
def passages (reading : Reading) (move : Move) : List Passage :=
  match reading.watch.live, (reading.step move).watch.live with
  | some before, some after =>
      Passage.between (reading.store.next reading.watch).1.isCompacted
        before.next after.next
  | _, _ => []

theorem passages_eq {reading : Reading} {move : Move}
    {before after : LivePosition} (live : reading.watch.live = some before)
    (moved : (reading.step move).watch.live = some after) :
    reading.passages move =
      Passage.between (reading.store.next reading.watch).1.isCompacted
        before.next after.next := by
  rw [passages, live, moved]

/-- All that the live part moves past while a watch is read. -/
def passed (reading : Reading) : List Move → List Passage
  | [] => []
  | move :: later => reading.passages move ++ (reading.step move).passed later

/-- A reading whose live part began behind `origin` and moved past `passed`. -/
structure Tracks (reading : Reading) (path : String) (options : WatchOptions)
    (log : List ChangeEvent) (origin cursor : Nat) (passed : List Passage) :
    Prop where
  delivers : reading.DeliversTo path options log cursor
  position : ∃ position, reading.watch.live = some position ∧
    position.next = origin + passed.length + 1 ∧
    position.cursor = (Passage.seen passed).getLast?.getD options.after
  numbered : passed.map Passage.index =
    List.range' (origin + 1) passed.length
  lostBelow : ∀ index ∈ Passage.lost passed, index ≤ cursor
  unyielded : ∀ event ∈ reading.changes, event.index ∉ Passage.lost passed

/-- How far a watch gets with one item. -/
theorem DeliversTo.take_further {reading : Reading} {path : String}
    {options : WatchOptions} {log : List ChangeEvent} {cursor : Nat}
    (delivers : reading.DeliversTo path options log cursor) :
    ∃ further, cursor ≤ further ∧
      (reading.step .take).DeliversTo path options log further ∧
      (∀ event, (reading.store.next reading.watch).1.event? = some event →
        cursor < event.index) ∧
      ((reading.store.next reading.watch).1.isCompacted = true →
        reading.store.oldestHeld ≤ further + 1) := by
  rcases next_cases delivers.traces delivers.follows with
    ⟨event, later, yielded, next, follows⟩ |
      ⟨requested, oldest, later, yielded⟩ | ⟨later, yielded, _, follows⟩
  · refine ⟨event.index, Nat.le_of_lt next.fresh,
      delivers.take_event yielded next follows, ?_, ?_⟩
    · intro other arrived
      rw [yielded] at arrived
      obtain rfl := Option.some.inj arrived
      exact next.fresh
    · simp [yielded, Arrival.isCompacted]
  · refine ⟨_, Nat.le_max_left _ _, delivers.take_failure yielded, ?_, ?_⟩
    · simp [yielded, Arrival.event?]
    · omega
  · have delivered := delivers.take_pending yielded follows
    refine ⟨cursor, Nat.le_refl _, delivered, ?_, ?_⟩
    · simp [yielded, Arrival.event?]
    · simp [yielded, Arrival.isCompacted]

namespace Tracks

variable {reading : Reading} {path : String} {options : WatchOptions}
variable {log : List ChangeEvent} {origin cursor : Nat}
variable {passed : List Passage}

theorem begun {store : MemoryStore} (traces : store.Traces log) (path : String)
    (options : WatchOptions) (kept : ¬ store.Forgets options.after) :
    (Reading.begun store path options).Tracks path options log store.index
      options.after [] where
  delivers := DeliversTo.begun traces path options
    (watch_follows traces kept path)
  position := by
    refine ⟨⟨store.index + 1, options.after⟩, ?_, rfl, rfl⟩
    unfold Forgets at kept
    rw [Reading.begun, MemoryStore.watch, if_neg kept]
  numbered := rfl
  lostBelow := by simp [Passage.lost]
  unyielded := by simp [Reading.begun, changes]

theorem act (tracks : reading.Tracks path options log origin cursor passed)
    (act : MemoryStore.Act) :
    (reading.step (.act act)).Tracks path options
      (log ++ reading.store.growth (reading.step (.act act)).store) origin
      cursor (passed ++ reading.passages (.act act)) := by
  obtain ⟨position, live, next, last⟩ := tracks.position
  have unmoved : (reading.step (.act act)).watch.live = some position := live
  have still : reading.passages (.act act) = [] := by
    rw [passages_eq live unmoved, Passage.between_self]
  rw [still, List.append_nil]
  exact ⟨tracks.delivers.act act, ⟨position, live, next, last⟩, tracks.numbered,
    tracks.lostBelow, tracks.unyielded⟩

theorem within (tracks : reading.Tracks path options log origin cursor passed)
    {position : LivePosition} (live : reading.watch.live = some position) :
    0 < position.next ∧ position.next ≤ log.length + 1 ∧
      (cursor < position.next ∨ cursor = options.after) := by
  obtain ⟨here, hereLive, next, _⟩ := tracks.position
  obtain ⟨there, follows⟩ := tracks.delivers.follows
  obtain rfl := Option.some.inj (live.symm.trans hereLive)
  obtain rfl := Option.some.inj (live.symm.trans follows.live)
  rw [← tracks.delivers.after]
  exact ⟨by omega, follows.within, follows.reached⟩

/-- Where the live part of a watch is after one item, and what it moved past on
the way. -/
theorem exists_later
    (tracks : reading.Tracks path options log origin cursor passed)
    {position : LivePosition} (live : reading.watch.live = some position) :
    ∃ later, (reading.step .take).watch.live = some later ∧
      position.next ≤ later.next ∧
      later.cursor = (Passage.seen (reading.passages .take)).getLast?.getD
        position.cursor ∧
      (Passage.lost (reading.passages .take) = [] ∨
        (reading.store.next reading.watch).1.isCompacted = true ∧
          later.next = reading.store.oldestHeld) := by
  obtain ⟨started, within, _⟩ := tracks.within live
  have watched : (reading.step .take).watch =
      (reading.store.next reading.watch).2 := rfl
  cases backlog : reading.watch.backlog with
  | cons item rest =>
      have still : (reading.step .take).watch.live = some position := by
        rw [watched, next_of_backlog backlog]
        exact live
      refine ⟨position, still, Nat.le_refl _, ?_⟩
      rw [passages_eq live still, Passage.between_self]
      exact ⟨rfl, .inl rfl⟩
  | nil =>
      have moved := next_of_live reading.store backlog live
      have there : (reading.step .take).watch.live =
          some (reading.store.nextLive reading.watch position).2 := by
        rw [watched, moved]
      refine ⟨_, there, ?_⟩
      rw [passages_eq live there, moved]
      by_cases behind : position.next < reading.store.oldestHeld
      · rw [nextLive_behind _ behind]
        exact ⟨Nat.le_of_lt behind, by simp [lagReport, Arrival.isCompacted],
          .inr ⟨rfl, rfl⟩⟩
      · obtain ⟨looks, forward, last⟩ := tracks.delivers.traces.nextLive_held
          reading.watch started within behind
        rw [looks]
        exact ⟨forward, last, .inl (Passage.lost_between_seen _ _)⟩

/-- What is lost with one item lies above all that was yielded, and what is
yielded later lies above it. -/
theorem take (tracks : reading.Tracks path options log origin cursor passed) :
    ∃ further, (reading.step .take).Tracks path options log origin further
      (passed ++ reading.passages .take) := by
  obtain ⟨position, live, next, last⟩ := tracks.position
  obtain ⟨later, laterLive, forward, looked, lags⟩ := tracks.exists_later live
  obtain ⟨further, reached, delivers, fresh, heldAbove⟩ :=
    tracks.delivers.take_further
  have passes := passages_eq live laterLive
  have newlyLost : ∀ index ∈ Passage.lost (reading.passages .take),
      (reading.store.next reading.watch).1.isCompacted = true ∧
        position.next ≤ index ∧ index ≤ further := by
    intro index member
    rcases lags with none | ⟨lagged, held⟩
    · simp [none] at member
    · have bound := heldAbove lagged
      rw [passes, lagged, Passage.lost_between, List.mem_range'_1] at member
      exact ⟨lagged, by omega, by omega⟩
  refine ⟨further, delivers, ⟨later, laterLive, ?_, ?_⟩, ?_, ?_, ?_⟩
  · rw [passes, List.length_append, Passage.length_between]
    omega
  · rw [looked, last, Passage.seen_append, List.getLast?_append]
    cases (Passage.seen (reading.passages .take)).getLast? <;> rfl
  · rw [passes, List.map_append, tracks.numbered, Passage.map_index_between,
      List.length_append, Passage.length_between, ← List.range'_append_1, next,
      Nat.add_right_comm]
  · intro index member
    rw [Passage.lost_append, List.mem_append] at member
    rcases member with old | new
    · exact (tracks.lostBelow index old).trans reached
    · exact (newlyLost index new).2.2
  · intro event member
    rw [changes_take, List.mem_append] at member
    rw [Passage.lost_append, List.mem_append, not_or]
    rcases member with old | new
    · refine ⟨tracks.unyielded event old, fun lost => ?_⟩
      obtain ⟨_, above, _⟩ := newlyLost event.index lost
      have below := tracks.delivers.reached event old
      have wanted := (tracks.delivers.wanted event old).2.1
      have ahead := (tracks.within live).2.2
      omega
    · have arrived := Option.mem_toList.mp new
      constructor
      · intro lost
        have old := tracks.lostBelow event.index lost
        have above := fresh event arrived
        omega
      · intro lost
        have lagged := (newlyLost event.index lost).1
        cases item : (reading.store.next reading.watch).1 with
        | event change => simp [item, Arrival.isCompacted] at lagged
        | _ => simp [item, Arrival.event?] at arrived

theorem run (tracks : reading.Tracks path options log origin cursor passed)
    (moves : List Move) :
    ∃ further, (reading.run moves).Tracks path options
      (log ++ reading.mutations moves) origin further
        (passed ++ reading.passed moves) := by
  induction moves generalizing reading log cursor passed with
  | nil => exact ⟨cursor, by simpa [mutations, Reading.passed] using tracks⟩
  | cons move later induction =>
      rw [mutations, Reading.passed, ← List.append_assoc, ← List.append_assoc]
      cases move with
      | act act => exact induction (tracks.act act)
      | take =>
          obtain ⟨further, next⟩ := tracks.take
          have quiet : reading.store.growth (reading.step .take).store = [] :=
            reading.store.growth_self
          rw [quiet, List.append_nil]
          exact induction next

end Tracks

/-- A report of a loss tells the truth: the live part goes on with `oldest`, the
reader never gets what lies between `requested` and `oldest`, and the sum behind
`oldest` fits into a word. -/
structure IsTruthful (reading : Reading) (log : List ChangeEvent)
    (passed : List Passage) (requested oldest : Nat) : Prop where
  first : ∃ position event, (reading.step .take).watch.live = some position ∧
    (reading.store.unseen position).head? = some event ∧ event.index = oldest
  missing : ∀ event ∈ log, requested < event.index → event.index < oldest →
    event.index ∈ Passage.lost (passed ++ reading.passages .take) ∧
      event ∉ reading.changes
  fits : requested + (reading.passages .take).length + 1 < UInt64.size

/-- What a watch says that falls behind after its live part has moved past
`passed`, and what it is that the watch loses. -/
structure FallsBehind (reading : Reading) (options : WatchOptions)
    (log : List ChangeEvent) (origin : Nat) (passed : List Passage)
    (requested oldest : Nat) : Prop where
  names : requested = (Passage.seen passed).getLast?.getD options.after
  counts : oldest = wrapped (requested + (reading.passages .take).length + 1)
  lost : ∀ passage ∈ reading.passages .take, passage.isLost = true
  first : ∃ position event, (reading.step .take).watch.live = some position ∧
    (reading.store.unseen position).head? = some event ∧
      event.index = origin + passed.length + (reading.passages .take).length + 1
  truthful : reading.IsTruthful log passed requested oldest ↔
    requested = origin + passed.length

namespace Tracks

variable {reading : Reading} {path : String} {options : WatchOptions}
variable {log : List ChangeEvent} {origin cursor : Nat}
variable {passed : List Passage}

/-- Only a live part that is behind the oldest mutation still held reports a
loss. -/
theorem behind_of_failure
    (tracks : reading.Tracks path options log origin cursor passed)
    {requested oldest : Nat}
    (fails : (reading.store.next reading.watch).1 =
      .failure (.compacted requested oldest)) :
    ∃ position, reading.watch.live = some position ∧
      position.next < reading.store.oldestHeld ∧
      .compacted requested oldest = reading.store.lagReport position ∧
      (reading.step .take).watch.live =
        some { position with next := reading.store.oldestHeld } := by
  obtain ⟨position, follows⟩ := tracks.delivers.follows
  refine ⟨position, follows.live, ?_⟩
  have watched : (reading.step .take).watch =
      (reading.store.next reading.watch).2 := rfl
  cases owed : reading.watch.stretch log cursor position.next with
  | cons event rest =>
      have backlog := follows.backlog
      rw [owed, List.map_cons] at backlog
      rw [next_of_backlog backlog] at fails
      cases fails
  | nil =>
      have backlog := follows.backlog
      rw [owed, List.map_nil] at backlog
      have moved := next_of_live reading.store backlog follows.live
      by_cases behind : position.next < reading.store.oldestHeld
      · rw [nextLive_behind _ behind] at moved
        rw [moved] at fails
        rw [watched, moved]
        exact ⟨behind, (Arrival.failure.inj fails).symm, rfl⟩
      · obtain ⟨looks, _⟩ := tracks.delivers.traces.nextLive_held reading.watch
          (tracks.within follows.live).1 follows.within behind
        rw [moved] at fails
        rw [show (reading.store.nextLive reading.watch position).1 = _
          from fails] at looks
        cases looks

theorem fallsBehind
    (tracks : reading.Tracks path options log origin cursor passed)
    (fits : reading.store.index < UInt64.size) {requested oldest : Nat}
    (fails : (reading.store.next reading.watch).1 =
      .failure (.compacted requested oldest)) :
    reading.FallsBehind options log origin passed requested oldest := by
  obtain ⟨position, live, behind, report, moved⟩ :=
    tracks.behind_of_failure fails
  obtain ⟨here, hereLive, next, last⟩ := tracks.position
  obtain rfl := Option.some.inj (live.symm.trans hereLive)
  have traces := tracks.delivers.traces
  have total := traces.index
  have oldestHeld := traces.oldestHeld
  have positive := reading.store.capacity_pos
  have passes := passages_eq live moved
  rw [fails] at passes
  have missed : (reading.passages .take).length =
      reading.store.oldestHeld - position.next := by
    rw [passes, Passage.length_between]
  have goesOn : ∃ event, (reading.store.unseen { position with
      next := reading.store.oldestHeld }).head? = some event ∧
        event.index = reading.store.oldestHeld := by
    refine traces.exists_head?_unseen ?_ ?_ (Nat.lt_irrefl _)
    · change 0 < reading.store.oldestHeld
      omega
    · change reading.store.oldestHeld ≤ log.length
      omega
  have real : reading.store.oldestHeld =
      origin + passed.length + (reading.passages .take).length + 1 := by
    omega
  rw [lagReport, ← missed] at report
  obtain ⟨rfl, counted⟩ := StoreError.compacted.inj report
  obtain ⟨event, front, index⟩ := goesOn
  refine ⟨last, counted, ?_, ⟨_, event, moved, front, index.trans real⟩, ?_, ?_⟩
  · intro passage member
    rw [passes] at member
    exact Passage.isLost_of_mem_between member
  · rintro ⟨⟨there, first, thereLive, thereFront, firstIndex⟩, _, noWrap⟩
    obtain rfl := Option.some.inj (moved.symm.trans thereLive)
    obtain rfl := Option.some.inj (front.symm.trans thereFront)
    rw [wrapped, Nat.mod_eq_of_lt noWrap] at counted
    omega
  · intro exact
    have noWrap : position.cursor + (reading.passages .take).length + 1 <
        UInt64.size := by
      omega
    rw [wrapped, Nat.mod_eq_of_lt noWrap] at counted
    refine ⟨⟨_, event, moved, front, by omega⟩, ?_, noWrap⟩
    intro other member above below
    have lost : other.index ∈
        Passage.lost (passed ++ reading.passages .take) := by
      rw [Passage.lost_append, List.mem_append]
      right
      rw [passes, Arrival.isCompacted, Passage.lost_between, List.mem_range'_1]
      dsimp only
      omega
    obtain ⟨_, after⟩ := tracks.take
    refine ⟨lost, fun yielded => after.unyielded other ?_ lost⟩
    rw [changes_take]
    exact List.mem_append_left _ yielded

/-- A watch that lost nothing before names the last mutation that it moved past,
once it has looked at one, or if it was opened after the latest one. -/
theorem names_of_lost_nil
    (tracks : reading.Tracks path options log origin cursor passed)
    (whole : Passage.lost passed = [])
    (began : passed ≠ [] ∨ options.after = origin) :
    (Passage.seen passed).getLast?.getD options.after =
      origin + passed.length := by
  rw [Passage.seen_of_lost_nil whole, tracks.numbered, List.getLast?_range']
  by_cases none : passed = []
  · simpa [none] using began
  · have some := List.length_pos_iff.mpr none
    rw [if_neg (by omega), Option.getD_some]
    omega

end Tracks

/-- What every watch says that falls behind and was not turned away when it was
opened.  The report is true just if it names the last mutation that the live
part moved past. -/
theorem fallsBehind_of_reports (limit : Nat) (earlier : List Act)
    (path : String) (options : WatchOptions) (moves : List Move) :
    let store := (empty limit).actAll earlier
    let opened := begun store path options
    let reader := opened.run moves
    let passed := opened.passed moves
    let log := (empty limit).mutations earlier ++ opened.mutations moves
    ¬ opened.IsTurnedAway → reader.store.index < UInt64.size →
      ∀ requested oldest, (reader.store.next reader.watch).1 =
        .failure (.compacted requested oldest) →
      reader.FallsBehind options log store.index passed requested oldest ∧
        (Passage.lost passed = [] →
          (passed ≠ [] ∨ options.after = store.index) →
            reader.IsTruthful log passed requested oldest) := by
  intro store opened reader passed log admitted fits requested oldest fails
  have traces : store.Traces ((empty limit).mutations earlier) :=
    (Traces.empty limit).mutations earlier
  have kept : ¬ store.Forgets options.after :=
    fun lost => admitted (isTurnedAway_of_forgets lost path)
  obtain ⟨cursor, tracks⟩ := (Tracks.begun traces path options kept).run moves
  rw [List.nil_append] at tracks
  have fallsBehind := tracks.fallsBehind fits fails
  refine ⟨fallsBehind, fun whole began => ?_⟩
  rw [fallsBehind.truthful, fallsBehind.names]
  exact tracks.names_of_lost_nil whole began

/-- A reader looks at one mutation and then falls behind by two. -/
def dozing : List Move :=
  [.act (.write (.set "/c/a" "1" none)), .take,
    .act (.write (.set "/c/a" "2" none)), .act (.write (.set "/c/a" "3" none)),
    .act (.write (.set "/c/a" "4" none))]

theorem dozing_reports :
    let opened := begun (empty 1) "/c/" ⟨0, true⟩
    (opened.run dozing).IsTruthful (opened.mutations dozing)
      (opened.passed dozing) 1 4 := by
  intro opened
  have admitted : ¬ opened.IsTurnedAway := by
    rw [isTurnedAway_iff (Traces.empty 1)]
    decide
  have reports := fallsBehind_of_reports 1 [] "/c/" ⟨0, true⟩ dozing admitted
    (by decide +kernel) 1 4 (by decide +kernel)
  exact reports.2 (by decide +kernel) (.inl (by decide +kernel))

/-- A reader opens a watch that replays a mutation, takes it, and then falls
behind by one. -/
def replaying : List Move :=
  [.take, .act (.write (.set "/c/a" "2" none)),
    .act (.write (.set "/c/a" "3" none))]

/-- The report names the index that the watch was opened after, although a
mutation was replayed since: it counts from there, and names a mutation as the
oldest that the reader never gets. -/
theorem replaying_misreports :
    let store := (empty 1).act (.write (.set "/c/a" "1" none))
    let opened := begun store "/c/" ⟨0, true⟩
    let reader := opened.run replaying
    let log := (empty 1).mutations [.write (.set "/c/a" "1" none)] ++
      opened.mutations replaying
    (reader.store.next reader.watch).1 = .failure (.compacted 0 2) ∧
      (reader.run [.take, .take]).changes.map ChangeEvent.index = [1, 3] ∧
      ¬ reader.IsTruthful log (opened.passed replaying) 0 2 := by
  intro store opened reader log
  refine ⟨by decide +kernel, by decide +kernel, ?_⟩
  intro truthful
  have first : (⟨.set, "/c/a", some "1", false, 1, none⟩ : ChangeEvent) ∈ log :=
    by decide +kernel
  exact (truthful.missing _ first (by decide) (by decide)).2
    (by decide +kernel)

end Reading

end LiveFlags
