import LiveFlags.Store.Memory.Watch
import Mathlib.Data.List.Induction

/-!
# The log behind a memory store

A memory store keeps the entries and two stretches of its past.  All three are
views of one log that holds every mutation ever made: the entries are its
replay, the history and the held mutations are ends of it.  Every operation
either fails and changes nothing or commits one event to the log, and
compaction only forgets.
-/

namespace LiveFlags

/-- The entries after one more mutation. -/
def ChangeEvent.apply (event : ChangeEvent) (entries : SortedMap Entry) :
    SortedMap Entry :=
  match event.value with
  | some value => entries.insert event.key ⟨value, event.index⟩
  | none => entries.erase event.key

/-- The entries after several mutations in order. -/
def replay (entries : SortedMap Entry) (log : List ChangeEvent) :
    SortedMap Entry :=
  log.foldl (fun entries event => event.apply entries) entries

/-- The indices of a list of mutations count on from `before`. -/
def NumberedFrom (before : Nat) : List ChangeEvent → Prop
  | [] => True
  | event :: later =>
      event.index = before + 1 ∧ NumberedFrom (before + 1) later

@[simp] theorem replay_nil (entries : SortedMap Entry) :
    replay entries [] = entries := rfl

@[simp] theorem replay_cons (entries : SortedMap Entry) (event : ChangeEvent)
    (later : List ChangeEvent) :
    replay entries (event :: later) = replay (event.apply entries) later := rfl

@[simp] theorem replay_append (entries : SortedMap Entry)
    (earlier later : List ChangeEvent) :
    replay entries (earlier ++ later) = replay (replay entries earlier) later :=
  List.foldl_append

theorem ChangeEvent.get?_apply (event : ChangeEvent)
    (entries : SortedMap Entry) (sought : String) :
    (event.apply entries).get? sought =
      if sought = event.key then
        event.value.map fun value => ⟨value, event.index⟩
      else entries.get? sought := by
  unfold ChangeEvent.apply
  split
  · rename_i value found
    simp [found]
  · rename_i absent
    simp [absent]

namespace NumberedFrom

theorem append {before : Nat} {earlier later : List ChangeEvent} :
    NumberedFrom before (earlier ++ later) ↔
      NumberedFrom before earlier ∧
        NumberedFrom (before + earlier.length) later := by
  induction earlier generalizing before with
  | nil => simp [NumberedFrom]
  | cons event earlier induction =>
      have sameStart :
          before + 1 + earlier.length = before + (earlier.length + 1) := by
        omega
      simp [NumberedFrom, induction, and_assoc, sameStart]

theorem bounds {before : Nat} {log : List ChangeEvent}
    (numbered : NumberedFrom before log) {event : ChangeEvent}
    (member : event ∈ log) :
    before < event.index ∧ event.index ≤ before + log.length := by
  induction log generalizing before with
  | nil => cases member
  | cons head later induction =>
      obtain ⟨first, rest⟩ := numbered
      rcases List.mem_cons.mp member with rfl | later
      · simp only [List.length_cons]
        omega
      · obtain ⟨lower, upper⟩ := induction rest later
        simp only [List.length_cons]
        omega

/-- What is left behind a position are the mutations with a greater index. -/
theorem drop_eq_filter {before : Nat} {log : List ChangeEvent}
    (numbered : NumberedFrom before log) (count : Nat) :
    log.drop count =
      log.filter fun event => decide (before + count < event.index) := by
  induction log generalizing before count with
  | nil => simp
  | cons head later induction =>
      cases count with
      | zero =>
          symm
          rw [List.drop_zero, List.filter_eq_self]
          intro event member
          have lower := (numbered.bounds member).1
          simpa using lower
      | succ count =>
          obtain ⟨first, rest⟩ := numbered
          have dropped : ¬ before + (count + 1) < head.index := by omega
          have sameStart : before + (count + 1) = before + 1 + count := by
            omega
          rw [List.drop_succ_cons,
            List.filter_cons_of_neg (by simpa using dropped),
            sameStart]
          exact induction rest count

/-- Passing over the mutations below an index leaves those from it on. -/
theorem dropWhile_eq_filter {before : Nat} {log : List ChangeEvent}
    (numbered : NumberedFrom before log) (index : Nat) :
    (log.dropWhile fun event => decide (event.index < index)) =
      log.filter fun event => decide (index ≤ event.index) := by
  induction log generalizing before with
  | nil => rfl
  | cons head later induction =>
      obtain ⟨first, rest⟩ := numbered
      by_cases passed : head.index < index
      · rw [List.dropWhile_cons_of_pos (by simpa using passed),
          List.filter_cons_of_neg (by simpa using passed)]
        exact induction rest
      · rw [List.dropWhile_cons_of_neg (by simpa using passed)]
        symm
        rw [List.filter_eq_self]
        intro event member
        rcases List.mem_cons.mp member with rfl | later
        · simpa using passed
        · have lower := (bounds rest later).1
          simp only [decide_eq_true_eq]
          omega

theorem mem_drop {before : Nat} {log : List ChangeEvent}
    (numbered : NumberedFrom before log) {count : Nat} {event : ChangeEvent} :
    event ∈ log.drop count ↔ event ∈ log ∧ before + count < event.index := by
  rw [numbered.drop_eq_filter, List.mem_filter, decide_eq_true_eq]

theorem exists_index {before : Nat} {log : List ChangeEvent}
    (numbered : NumberedFrom before log) {index : Nat} (above : before < index)
    (within : index ≤ before + log.length) :
    ∃ event ∈ log, event.index = index := by
  induction log generalizing before with
  | nil =>
      simp at within
      omega
  | cons head later induction =>
      obtain ⟨first, rest⟩ := numbered
      by_cases here : index = before + 1
      · exact ⟨head, by simp, first.trans here.symm⟩
      · rw [List.length_cons] at within
        obtain ⟨event, member, found⟩ :=
          induction rest (by omega) (by omega)
        exact ⟨event, by simp [member], found⟩

theorem increasing {before : Nat} {log : List ChangeEvent}
    (numbered : NumberedFrom before log) :
    log.Pairwise fun earlier later => earlier.index < later.index := by
  induction log generalizing before with
  | nil => exact List.Pairwise.nil
  | cons head later induction =>
      obtain ⟨first, rest⟩ := numbered
      refine List.pairwise_cons.mpr ⟨?_, induction rest⟩
      intro event member
      have lower := (bounds rest member).1
      omega

theorem unique {before : Nat} {log : List ChangeEvent}
    (numbered : NumberedFrom before log) {left right : ChangeEvent}
    (leftMember : left ∈ log) (rightMember : right ∈ log)
    (same : left.index = right.index) : left = right := by
  induction log generalizing before with
  | nil => cases leftMember
  | cons head later induction =>
      obtain ⟨first, rest⟩ := numbered
      rcases List.mem_cons.mp leftMember with rfl | leftLater
      · rcases List.mem_cons.mp rightMember with rfl | rightLater
        · rfl
        · have lower := (bounds rest rightLater).1
          omega
      · rcases List.mem_cons.mp rightMember with rfl | rightLater
        · have lower := (bounds rest leftLater).1
          omega
        · exact induction rest leftLater rightLater

/-- The index at the front of what is left behind a position. -/
theorem head_drop {before : Nat} {log : List ChangeEvent}
    (numbered : NumberedFrom before log) {count : Nat}
    (within : count ≤ log.length) :
    ((log.drop count).head?.map ChangeEvent.index).getD
      (before + log.length + 1) = before + count + 1 := by
  induction log generalizing before count with
  | nil =>
      have none : count = 0 := by simpa using within
      simp [none]
  | cons head later induction =>
      obtain ⟨first, rest⟩ := numbered
      cases count with
      | zero => simpa using first
      | succ count =>
          have sameEnd : before + (head :: later).length + 1 =
              before + 1 + later.length + 1 := by
            simp only [List.length_cons]
            omega
          have sameFront :
              before + (count + 1) + 1 = before + 1 + count + 1 := by
            omega
          rw [List.drop_succ_cons, sameEnd, sameFront]
          exact induction rest (by simpa using within)

end NumberedFrom

/-- An entry that a replay leaves was written by the last mutation of its
key. -/
theorem get?_replay {log : List ChangeEvent} (numbered : NumberedFrom 0 log)
    {key : String} {entry : Entry}
    (found : (replay .empty log).get? key = some entry) :
    ∃ event ∈ log, event.key = key ∧ event.value = some entry.value ∧
      event.index = entry.index ∧
        ∀ other ∈ log, other.key = key → other.index ≤ entry.index := by
  induction log using List.reverseRecOn with
  | nil => simp at found
  | append_singleton log last induction =>
      obtain ⟨earlier, lastNumbered, _⟩ := NumberedFrom.append.mp numbered
      rw [replay_append, replay_cons, replay_nil, ChangeEvent.get?_apply]
        at found
      by_cases same : key = last.key
      · rw [if_pos same] at found
        obtain ⟨value, written, rfl⟩ := Option.map_eq_some_iff.mp found
        refine ⟨last, by simp, same.symm, written, rfl, ?_⟩
        intro other member _
        rcases List.mem_append.mp member with older | latest
        · have upper := (earlier.bounds older).2
          have latestIndex : last.index = 0 + log.length + 1 := lastNumbered
          dsimp only
          omega
        · obtain rfl := List.mem_singleton.mp latest
          exact Nat.le_refl _
      · rw [if_neg same] at found
        obtain ⟨event, member, sameKey, written, sameIndex, latest⟩ :=
          induction earlier found
        refine ⟨event, List.mem_append_left _ member, sameKey, written,
          sameIndex, ?_⟩
        intro other otherMember otherKey
        rcases List.mem_append.mp otherMember with older | newest
        · exact latest other older otherKey
        · rw [List.mem_singleton.mp newest] at otherKey
          exact absurd otherKey.symm same

namespace WriteCommand

/-- The key that a command is about. -/
def key : WriteCommand → String
  | set key _ _ | delete key _ => key

/-- The value that a command leaves under its key. -/
def value? : WriteCommand → Option String
  | set _ value _ => some value
  | delete _ _ => none

/-- The index that a command is conditioned on. -/
def condition : WriteCommand → Option Nat
  | set _ _ condition | delete _ condition => condition

end WriteCommand

namespace MemoryStore

/-- The store after a mutation. -/
def commit (store : MemoryStore) (event : ChangeEvent) : MemoryStore :=
  { store with
    entries := event.apply store.entries
    index := event.index }.record event

/-- What others do to a store. -/
inductive Act where
  | write (command : WriteCommand)
  | compact
deriving DecidableEq, Repr

/-- The store after something was done to it. -/
def act (store : MemoryStore) (act : Act) : MemoryStore :=
  match act with
  | .write command => (store.run command).2
  | .compact => store.compact

/-- The store after several things were done to it in order. -/
def actAll (store : MemoryStore) (acts : List Act) : MemoryStore :=
  acts.foldl (fun store act => store.act act) store

/-- Stores that grow from an empty one. -/
inductive Reachable : MemoryStore → Prop where
  | empty (limit : Nat) : Reachable (MemoryStore.empty limit)
  | act {store : MemoryStore} (act : Act) :
      Reachable store → Reachable (store.act act)

theorem Reachable.actAll {store : MemoryStore} (reachable : store.Reachable)
    (acts : List Act) : (store.actAll acts).Reachable := by
  induction acts generalizing store with
  | nil => exact reachable
  | cons act later induction => exact induction (reachable.act act)

/-- `event` is what the next mutation of a store looks like when `command` is
carried out. -/
structure Answers (store : MemoryStore) (command : WriteCommand)
    (event : ChangeEvent) : Prop where
  index : event.index = store.index + 1
  key : event.key = command.key
  value : event.value = command.value?
  previous : event.previous = store.value? command.key
  leaf : event.isDirectory = false
  storable : Key.isStorable command.key = true
  condition : ∀ expected, command.condition = some expected →
    store.index? command.key = some expected

theorem checkKey_eq_ok {key : String} (passed : checkKey key = .ok ()) :
    Key.isStorable key = true := by
  unfold checkKey at passed
  split at passed
  · assumption
  · cases passed

theorem checkCondition_eq_ok {store : MemoryStore} {key : String}
    {condition : Option Nat}
    (passed : store.checkCondition key condition = .ok ()) :
    ∀ expected, condition = some expected →
      store.index? key = some expected := by
  rintro expected rfl
  unfold checkCondition at passed
  dsimp only at passed
  split at passed
  · cases passed
  · rename_i entry found
    split at passed
    · rename_i same
      simp [index?, found, same]
    · cases passed

/-- A write or a deletion either fails and changes nothing, or makes exactly
one mutation. -/
theorem run_cases (store : MemoryStore) (command : WriteCommand) :
    (∃ error, store.run command = (.error error, store)) ∨
      ∃ event, store.Answers command event ∧
        store.run command = (.ok event.index, store.commit event) := by
  cases command with
  | set key value condition =>
      cases keyCheck : checkKey key with
      | error error => exact .inl ⟨error, by simp [run, set, keyCheck]⟩
      | ok keyPassed =>
          cases conditionCheck : store.checkCondition key condition with
          | error error =>
              exact .inl ⟨error, by simp [run, set, keyCheck, conditionCheck]⟩
          | ok conditionPassed =>
              refine .inr ⟨{
                action := if condition.isSome then .compareAndSwap else .set
                key
                value := some value
                index := store.index + 1
                previous := store.value? key }, ?_, ?_⟩
              · exact ⟨rfl, rfl, rfl, rfl, rfl, checkKey_eq_ok keyCheck,
                  checkCondition_eq_ok conditionCheck⟩
              · simp only [run, set, keyCheck, conditionCheck]
                rfl
  | delete key condition =>
      cases keyCheck : checkKey key with
      | error error => exact .inl ⟨error, by simp [run, delete, keyCheck]⟩
      | ok keyPassed =>
          cases conditionCheck : store.checkCondition key condition with
          | error error =>
              exact .inl ⟨error,
                by simp [run, delete, keyCheck, conditionCheck]⟩
          | ok conditionPassed =>
              cases found : store.value? key with
              | none =>
                  exact .inl ⟨.keyNotFound key, by
                    simp [run, delete, keyCheck, conditionCheck, found]⟩
              | some previous =>
                  refine .inr ⟨{
                    action :=
                      if condition.isSome then .compareAndDelete else .delete
                    key
                    value := none
                    index := store.index + 1
                    previous := some previous }, ?_, ?_⟩
                  · exact ⟨rfl, rfl, rfl, found.symm, rfl,
                      checkKey_eq_ok keyCheck,
                      checkCondition_eq_ok conditionCheck⟩
                  · simp only [run, delete, keyCheck, conditionCheck, found]
                    rfl

/-- What a command adds to the log of a store: nothing if it fails, else the
mutation that it makes. -/
inductive Adds (store : MemoryStore) (command : WriteCommand) :
    List ChangeEvent → Prop
  | failed {error : StoreError}
      (answer : store.run command = (.error error, store)) :
      Adds store command []
  | made {event : ChangeEvent} (answers : store.Answers command event)
      (answer : store.run command = (.ok event.index, store.commit event)) :
      Adds store command [event]

/-- What an act of others adds to the log of a store. -/
def Does (store : MemoryStore) (more : List ChangeEvent) : Act → Prop
  | .write command => store.Adds command more
  | .compact => more = []

theorem exists_adds (store : MemoryStore) (command : WriteCommand) :
    ∃ more, store.Adds command more := by
  rcases store.run_cases command with ⟨error, failed⟩ | ⟨event, answers, done⟩
  · exact ⟨[], .failed failed⟩
  · exact ⟨[event], .made answers done⟩

/-- The mutation that leads from a store to a later one, if there is one. -/
def growth (before after : MemoryStore) : List ChangeEvent :=
  if after.index = before.index then [] else after.recent.getLast?.toList

/-- The mutations that several acts make, in order. -/
def mutations (store : MemoryStore) : List Act → List ChangeEvent
  | [] => []
  | act :: later =>
      store.growth (store.act act) ++ (store.act act).mutations later

theorem le_powerOfTwoAbove (number candidate tries : Nat) :
    candidate ≤ powerOfTwoAbove number candidate tries := by
  induction tries generalizing candidate with
  | zero => exact Nat.le_refl _
  | succ tries induction =>
      rw [powerOfTwoAbove]
      split
      · exact Nat.le_refl _
      · have doubled := induction (2 * candidate)
        omega

theorem capacity_pos (store : MemoryStore) : 0 < store.capacity :=
  le_powerOfTwoAbove store.limit 1 store.limit

@[simp] theorem growth_self (store : MemoryStore) : store.growth store = [] :=
  if_pos rfl

theorem growth_commit {store : MemoryStore} {event : ChangeEvent}
    (index : event.index = store.index + 1) :
    store.growth (store.commit event) = [event] := by
  have grown : (store.commit event).index ≠ store.index := by
    change event.index ≠ store.index
    omega
  have held : (store.commit event).recent =
      lastOf store.capacity (store.recent ++ [event]) := rfl
  have positive := store.capacity_pos
  have short : (store.recent ++ [event]).length - store.capacity ≤
      store.recent.length := by
    simp
    omega
  rw [growth, if_neg grown, held, lastOf, List.drop_append_of_le_length short]
  simp

theorem Does.growth_eq {store : MemoryStore} {more : List ChangeEvent}
    {act : Act} (does : store.Does more act) :
    store.growth (store.act act) = more := by
  cases act with
  | compact =>
      obtain rfl : more = [] := does
      exact if_pos rfl
  | write command =>
      rw [MemoryStore.act]
      have adds : store.Adds command more := does
      cases adds with
      | failed answer =>
          rw [answer]
          exact store.growth_self
      | made answers answer =>
          rw [answer]
          exact growth_commit answers.index

/-- A mutation leaves every entry that is older than it and still there as it
was. -/
theorem get?_commit_old {store : MemoryStore} {event : ChangeEvent}
    (index : event.index = store.index + 1) {key : String} {entry : Entry}
    (held : (store.commit event).entries.get? key = some entry)
    (old : entry.index ≤ store.index) :
    key ≠ event.key ∧ store.entries.get? key = some entry := by
  change (event.apply store.entries).get? key = some entry at held
  rw [ChangeEvent.get?_apply] at held
  by_cases same : key = event.key
  · rw [if_pos same] at held
    obtain ⟨value, _, rfl⟩ := Option.map_eq_some_iff.mp held
    dsimp only at old
    omega
  · rw [if_neg same] at held
    exact ⟨same, held⟩

theorem get?_run_old {store : MemoryStore} {command : WriteCommand}
    {key : String} {entry : Entry}
    (held : (store.run command).2.entries.get? key = some entry)
    (old : entry.index ≤ store.index) :
    store.entries.get? key = some entry := by
  rcases store.run_cases command with ⟨error, failed⟩ | ⟨event, answers, done⟩
  · rwa [failed] at held
  · rw [done] at held
    exact (get?_commit_old answers.index held old).2

theorem get?_act_old {store : MemoryStore} {act : Act} {key : String}
    {entry : Entry} (held : (store.act act).entries.get? key = some entry)
    (old : entry.index ≤ store.index) :
    store.entries.get? key = some entry := by
  cases act with
  | write command => exact get?_run_old held old
  | compact => exact held

theorem index_le_act (store : MemoryStore) (act : Act) :
    store.index ≤ (store.act act).index := by
  cases act with
  | compact => exact Nat.le_refl _
  | write command =>
      rcases store.run_cases command with
        ⟨error, failed⟩ | ⟨event, answers, done⟩
      · simp [MemoryStore.act, failed]
      · have next : (store.act (.write command)).index = event.index := by
          simp [MemoryStore.act, done, commit]
        have fresh := answers.index
        omega

/-- An index that a key no longer has never comes back. -/
theorem index?_act_ne {store : MemoryStore} {key : String} {index : Nat}
    (past : index ≤ store.index) (gone : store.index? key ≠ some index)
    (act : Act) : (store.act act).index? key ≠ some index := by
  intro back
  obtain ⟨entry, held, rfl⟩ := Option.map_eq_some_iff.mp back
  apply gone
  simp [index?, get?_act_old held past]

/-- `log` holds every mutation that a store ever went through. -/
structure Traces (store : MemoryStore) (log : List ChangeEvent) : Prop where
  numbered : NumberedFrom 0 log
  index : store.index = log.length
  entries : store.entries = replay .empty log
  history : ∃ forgotten ≤ log.length, store.history = log.drop forgotten
  recent : store.recent = lastOf store.capacity log
  storable : ∀ event ∈ log, Key.isStorable event.key = true
  leaf : ∀ event ∈ log, event.isDirectory = false

/-- Keeping an end of a list while it grows keeps the end of the whole. -/
theorem lastOf_append {α : Type} (count : Nat) (items : List α) (item : α) :
    lastOf count (lastOf count items ++ [item]) =
      lastOf count (items ++ [item]) := by
  by_cases short : items.length ≤ count
  · have whole : items.length - count = 0 := by omega
    simp [lastOf, whole]
  · have kept : (items.drop (items.length - count)).length = count := by
      rw [List.length_drop]
      omega
    have gap : items.length + 1 - count = items.length - count + 1 := by omega
    cases count with
    | zero => simp [lastOf]
    | succ count =>
        have one : count + 1 + 1 - (count + 1) = 1 := by omega
        have shifted : items.length - (count + 1) + 1 ≤ items.length := by omega
        rw [lastOf, lastOf, lastOf, List.length_append, kept,
          List.length_append,
          List.length_singleton, one, gap,
          List.drop_append_of_le_length shifted,
          List.drop_append_of_le_length (by rw [kept]; omega), List.drop_drop]

theorem Traces.empty (limit : Nat) : (MemoryStore.empty limit).Traces [] where
  numbered := trivial
  index := rfl
  entries := rfl
  history := ⟨0, Nat.le_refl _, rfl⟩
  recent := by simp [MemoryStore.empty, lastOf]
  storable := by simp
  leaf := by simp

theorem Traces.compact {store : MemoryStore} {log : List ChangeEvent}
    (traces : store.Traces log) : store.compact.Traces log where
  numbered := traces.numbered
  index := traces.index
  entries := traces.entries
  history := ⟨log.length, Nat.le_refl _, by simp [MemoryStore.compact]⟩
  recent := traces.recent
  storable := traces.storable
  leaf := traces.leaf

theorem Traces.commit {store : MemoryStore} {log : List ChangeEvent}
    {event : ChangeEvent} (traces : store.Traces log)
    (index : event.index = store.index + 1)
    (storable : Key.isStorable event.key = true)
    (leaf : event.isDirectory = false) :
    (store.commit event).Traces (log ++ [event]) where
  numbered := by
    refine NumberedFrom.append.mpr ⟨traces.numbered, ?_, trivial⟩
    rw [index, traces.index, Nat.zero_add]
  index := by
    rw [List.length_append, List.length_singleton, ← traces.index]
    exact index
  entries := by
    rw [replay_append, ← traces.entries]
    rfl
  history := by
    obtain ⟨forgotten, within, same⟩ := traces.history
    -- The history is cut to its limit after the mutation was appended.
    let cut := (store.history ++ [event]).length - store.limit
    refine ⟨min (forgotten + cut) (log.length + 1), by
      simp only [List.length_append, List.length_singleton]
      omega, ?_⟩
    have appended :
        store.history ++ [event] = (log ++ [event]).drop forgotten := by
      rw [same, List.drop_append_of_le_length within]
    have kept : (store.commit event).history =
        (log ++ [event]).drop (forgotten + cut) := by
      change lastOf store.limit (store.history ++ [event]) = _
      rw [lastOf, ← List.drop_drop, ← appended]
    rw [kept]
    by_cases beyond : forgotten + cut ≤ log.length + 1
    · rw [Nat.min_eq_left beyond]
    · rw [Nat.min_eq_right (by omega), List.drop_eq_nil_of_le (by simp; omega),
        List.drop_eq_nil_of_le (by simp)]
  recent := by
    change lastOf store.capacity (store.recent ++ [event]) = _
    rw [traces.recent, lastOf_append]
    rfl
  storable := by
    intro other member
    rcases List.mem_append.mp member with older | latest
    · exact traces.storable other older
    · rwa [List.mem_singleton.mp latest]
  leaf := by
    intro other member
    rcases List.mem_append.mp member with older | latest
    · exact traces.leaf other older
    · rwa [List.mem_singleton.mp latest]

theorem Traces.run {store : MemoryStore} {log more : List ChangeEvent}
    {command : WriteCommand} (traces : store.Traces log)
    (adds : store.Adds command more) :
    (store.run command).2.Traces (log ++ more) := by
  cases adds with
  | failed answer =>
      rw [answer, List.append_nil]
      exact traces
  | made answers answer =>
      rw [answer]
      exact traces.commit answers.index (answers.key ▸ answers.storable)
        answers.leaf

/-- What is done to a store adds to its log what it asks for. -/
theorem Traces.act {store : MemoryStore} {log : List ChangeEvent}
    (traces : store.Traces log) (act : Act) :
    ∃ more, store.Does more act ∧ (store.act act).Traces (log ++ more) := by
  cases act with
  | compact =>
      refine ⟨[], rfl, ?_⟩
      rw [List.append_nil]
      exact traces.compact
  | write command =>
      obtain ⟨more, adds⟩ := store.exists_adds command
      exact ⟨more, adds, traces.run adds⟩

theorem Traces.growth {store : MemoryStore} {log : List ChangeEvent}
    (traces : store.Traces log) (act : Act) :
    (store.act act).Traces (log ++ store.growth (store.act act)) := by
  obtain ⟨more, does, next⟩ := traces.act act
  rwa [does.growth_eq]

theorem Traces.mutations {store : MemoryStore} {log : List ChangeEvent}
    (traces : store.Traces log) (acts : List Act) :
    (store.actAll acts).Traces (log ++ store.mutations acts) := by
  induction acts generalizing store log with
  | nil => rwa [MemoryStore.mutations, List.append_nil]
  | cons act later induction =>
      rw [MemoryStore.mutations, ← List.append_assoc]
      exact induction (traces.growth act)

theorem Traces.actAll {store : MemoryStore} {log : List ChangeEvent}
    (traces : store.Traces log) (acts : List Act) :
    ∃ more, (store.actAll acts).Traces (log ++ more) :=
  ⟨store.mutations acts, traces.mutations acts⟩

theorem Reachable.traces {store : MemoryStore} (reachable : store.Reachable) :
    ∃ log, store.Traces log := by
  induction reachable with
  | empty limit => exact ⟨[], Traces.empty limit⟩
  | act act _ induction =>
      obtain ⟨log, traces⟩ := induction
      obtain ⟨more, _, extended⟩ := traces.act act
      exact ⟨log ++ more, extended⟩

namespace Traces

variable {store : MemoryStore} {log : List ChangeEvent}

theorem oldestRetained (traces : store.Traces log) :
    ∃ forgotten ≤ log.length, store.history = log.drop forgotten ∧
      store.oldestRetained = forgotten + 1 := by
  obtain ⟨forgotten, within, same⟩ := traces.history
  refine ⟨forgotten, within, same, ?_⟩
  have front := traces.numbered.head_drop within
  rw [Nat.zero_add, Nat.zero_add] at front
  rw [MemoryStore.oldestRetained, same, traces.index]
  exact front

theorem oldestHeld (traces : store.Traces log) :
    store.oldestHeld = log.length - store.capacity + 1 := by
  have within : log.length - store.capacity ≤ log.length := by omega
  have front := traces.numbered.head_drop within
  rw [Nat.zero_add, Nat.zero_add] at front
  rw [MemoryStore.oldestHeld, traces.recent, traces.index]
  exact front

/-- An entry was written by the last mutation of its key. -/
theorem entry (traces : store.Traces log) {key : String} {entry : Entry}
    (found : store.entries.get? key = some entry) :
    ∃ event ∈ log, event.key = key ∧ event.value = some entry.value ∧
      event.index = entry.index ∧
        ∀ other ∈ log, other.key = key → other.index ≤ entry.index := by
  rw [traces.entries] at found
  exact get?_replay traces.numbered found

theorem isStorable_of_entry (traces : store.Traces log) {key : String}
    {entry : Entry} (found : store.entries.get? key = some entry) :
    Key.isStorable key = true := by
  obtain ⟨event, member, rfl, _⟩ := traces.entry found
  exact traces.storable event member

end Traces

end MemoryStore

end LiveFlags
