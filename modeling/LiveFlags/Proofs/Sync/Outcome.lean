import LiveFlags.Proofs.Store.Exchange
import LiveFlags.Proofs.Sync.Fleet

/-!
# What the outcome of undoing a change says

By the time a mutation is undone its key may have been written again, deleted,
or deleted and made anew.  Undoing puts the value before the mutation back just
if the mutation still stands.  If the key holds anything newer this is reported
as a conflict.  If the key is gone the store is asked to change what it does not
have, and undoing counts as failed, even where somebody else has already taken
the refused value away.
-/

namespace LiveFlags

/-- The key of a mutation was changed again after it. -/
def ChangeEvent.IsSuperseded (event : ChangeEvent) (log : List ChangeEvent) :
    Prop :=
  ∃ other ∈ log, other.key = event.key ∧ event.index < other.index

instance (event : ChangeEvent) (log : List ChangeEvent) :
    Decidable (event.IsSuperseded log) :=
  inferInstanceAs (Decidable (∃ other ∈ log, _ ∧ _))

namespace MemoryStore

/-- What became of the key of a mutation in `log`. -/
inductive Fate (store : MemoryStore) (log : List ChangeEvent)
    (event : ChangeEvent) : Prop
  /-- The key holds what the mutation wrote. -/
  | stands (latest : ¬ event.IsSuperseded log) (wrote : event.value.isSome)
      (held : store.index? event.key = some event.index)
  /-- The key holds something newer. -/
  | overwritten {newer : Nat} (superseded : event.IsSuperseded log)
      (other : newer ≠ event.index)
      (held : store.index? event.key = some newer)
  /-- The key is gone: it was deleted later, or by the mutation itself. -/
  | gone (deleted : event.IsSuperseded log ∨ event.value = none)
      (absent : store.index? event.key = none)

/-- A key is left as the latest of its mutations made it. -/
theorem get?_replay_of_latest {log : List ChangeEvent}
    (numbered : NumberedFrom 0 log) {event : ChangeEvent} (member : event ∈ log)
    (latest : ¬ event.IsSuperseded log) :
    (replay .empty log).get? event.key =
      event.value.map fun value => ⟨value, event.index⟩ := by
  induction log using List.reverseRecOn with
  | nil => cases member
  | append_singleton log last induction =>
      obtain ⟨earlier, lastNumbered, _⟩ := NumberedFrom.append.mp numbered
      rw [replay_append, replay_cons, replay_nil, ChangeEvent.get?_apply]
      rcases List.mem_append.mp member with older | newest
      · have upper := (earlier.bounds older).2
        have different : event.key ≠ last.key := by
          intro same
          exact latest ⟨last, by simp, same.symm, by omega⟩
        rw [if_neg different]
        refine induction earlier older ?_
        rintro ⟨other, otherMember, sameKey, newer⟩
        exact latest
          ⟨other, List.mem_append_left _ otherMember, sameKey, newer⟩
      · obtain rfl := List.mem_singleton.mp newest
        rw [if_pos rfl]

theorem Traces.fate {store : MemoryStore} {log : List ChangeEvent}
    (traces : store.Traces log) {event : ChangeEvent} (member : event ∈ log) :
    store.Fate log event := by
  by_cases superseded : event.IsSuperseded log
  · cases held : store.index? event.key with
    | none => exact .gone (.inl superseded) held
    | some newer =>
        refine .overwritten superseded ?_ held
        rintro rfl
        obtain ⟨entry, found, same⟩ := Option.map_eq_some_iff.mp held
        obtain ⟨_, _, _, _, _, last⟩ := traces.entry found
        obtain ⟨other, otherMember, sameKey, newer⟩ := superseded
        have bound := last other otherMember sameKey
        omega
  · have left := get?_replay_of_latest traces.numbered member superseded
    rw [← traces.entries] at left
    cases wrote : event.value with
    | none => exact .gone (.inr wrote) (by simp [index?, left, wrote])
    | some value =>
        exact .stands superseded (by simp [wrote])
          (by simp [index?, left, wrote])

/-- What the outcome of undoing a mutation of `log` says, and what undoing did
to the store. -/
structure Accounts (store : MemoryStore) (log : List ChangeEvent)
    (event : ChangeEvent) : Prop where
  restored : (rollback event store).1 = .restored ↔
    ¬ event.IsSuperseded log ∧ event.value.isSome ∧ event.previous.isSome
  deleted : (rollback event store).1 = .deleted ↔
    ¬ event.IsSuperseded log ∧ event.value.isSome ∧ event.previous = none
  conflict : (rollback event store).1 = .conflict ↔
    event.IsSuperseded log ∧ (store.value? event.key).isSome
  failed : ∀ error, (rollback event store).1 = .failed error ↔
    error = .keyNotFound event.key ∧ store.value? event.key = none
  undone : (rollback event store).1 = .restored ∨
      (rollback event store).1 = .deleted →
    (rollback event store).2.value? event.key = event.previous
  untouched : (rollback event store).1 = .conflict ∨
      (∃ error, (rollback event store).1 = .failed error) →
    (rollback event store).2 = store

theorem rollback_eq (store : MemoryStore) (event : ChangeEvent) :
    rollback event store =
      (.ofAnswer event (store.run event.undo).1,
        (store.run event.undo).2) := rfl

theorem value?_eq_none_iff {store : MemoryStore} {key : String} :
    store.value? key = none ↔ store.index? key = none := by
  simp [value?, index?]

theorem isSome_value? {store : MemoryStore} {key : String} {index : Nat}
    (held : store.index? key = some index) : (store.value? key).isSome := by
  obtain ⟨entry, found, _⟩ := Option.map_eq_some_iff.mp held
  simp [value?, found]

section Undoing

variable {store : MemoryStore} {event : ChangeEvent}

/-- The answer to the write that undoes a mutation, by the index that its key
has by then. -/
theorem refusal?_undo (storable : Key.isStorable event.key = true) :
    store.refusal? event.undo = match store.index? event.key with
      | none => some (.keyNotFound event.key)
      | some actual =>
          if actual = event.index then none
          else some (.conditionFailed event.key event.index actual) := by
  rw [← undo_key event] at storable
  have answer := store.refusal?_of_condition storable (undo_condition event)
  rw [undo_key] at answer
  exact answer

theorem rollback_of_stands (storable : Key.isStorable event.key = true)
    (held : store.index? event.key = some event.index) :
    ∃ index, (store.run event.undo).1 = .ok index ∧
      (rollback event store).1 =
        if event.previous.isSome then .restored else .deleted := by
  have passed : store.refusal? event.undo = none := by
    simp [refusal?_undo storable, held]
  have answered : (store.run event.undo).1 = .ok (store.index + 1) := by
    rw [run_eq, passed]
  refine ⟨_, answered, ?_⟩
  rw [rollback_eq, answered]
  rfl

theorem rollback_of_overwritten (storable : Key.isStorable event.key = true)
    {newer : Nat} (other : newer ≠ event.index)
    (held : store.index? event.key = some newer) :
    rollback event store = (.conflict, store) := by
  have refused : store.refusal? event.undo =
      some (.conditionFailed event.key event.index newer) := by
    simp [refusal?_undo storable, held, other]
  rw [rollback_eq, run_eq, refused]
  rfl

theorem rollback_of_gone (storable : Key.isStorable event.key = true)
    (absent : store.index? event.key = none) :
    rollback event store = (.failed (.keyNotFound event.key), store) := by
  have refused : store.refusal? event.undo =
      some (.keyNotFound event.key) := by
    simp [refusal?_undo storable, absent]
  rw [rollback_eq, run_eq, refused]
  rfl

end Undoing

theorem Traces.accounts {store : MemoryStore} {log : List ChangeEvent}
    (traces : store.Traces log) {event : ChangeEvent} (member : event ∈ log) :
    store.Accounts log event := by
  have storable := traces.storable event member
  cases traces.fate member with
  | stands latest wrote held =>
      obtain ⟨index, answered, outcome⟩ := rollback_of_stands storable held
      have present := isSome_value? held
      have restores : (rollback event store).2.value? event.key =
          event.previous := (traces.undo member answered).2.1
      cases previous : event.previous with
      | none =>
          have outcome : (rollback event store).1 = .deleted := by
            simpa [previous] using outcome
          constructor <;>
            simp [outcome, latest, wrote, previous, present, restores,
              Option.isSome_iff_ne_none.mp present]
      | some value =>
          have outcome : (rollback event store).1 = .restored := by
            simpa [previous] using outcome
          constructor <;>
            simp [outcome, latest, wrote, previous, present, restores,
              Option.isSome_iff_ne_none.mp present]
  | overwritten superseded other held =>
      have outcome := rollback_of_overwritten storable other held
      have present := isSome_value? held
      constructor <;>
        simp [outcome, superseded, present,
          Option.isSome_iff_ne_none.mp present]
  | gone deleted absent =>
      have outcome := rollback_of_gone storable absent
      have missing := value?_eq_none_iff.mpr absent
      have nothingStands :
          ¬ event.IsSuperseded log → event.value.isSome = false := by
        intro latest
        simp [deleted.resolve_left latest]
      constructor
      case restored | deleted =>
        simp only [outcome, reduceCtorEq, false_iff]
        rintro ⟨latest, wrote, _⟩
        simp [nothingStands latest] at wrote
      all_goals simp [outcome, missing, eq_comm]

end MemoryStore

namespace Reading

open MemoryStore

theorem IsTurnedAway.changes_run {reading : Reading}
    (turnedAway : reading.IsTurnedAway) (moves : List Move) :
    (reading.run moves).changes = [] := by
  obtain ⟨requested, oldest, always⟩ := turnedAway
  rw [changes, always, List.filterMap_eq_nil_iff]
  intro arrival member
  rcases List.mem_cons.mp (List.mem_of_mem_take member) with rfl | ended
  · rfl
  · rw [List.eq_of_mem_replicate ended]
    rfl

/-- Whatever a watch yielded, and whatever others did to the store before the
watch was opened, before the mutation was taken and since then: what the outcome
of undoing the mutation says is settled by its fate. -/
theorem accounts_of_taken (limit : Nat) (earlier : List Act) (path : String)
    (options : WatchOptions) (moves : List Move) :
    let opened := begun ((empty limit).actAll earlier) path options
    ∀ event ∈ (opened.run moves).changes, (opened.run moves).store.Accounts
      ((empty limit).mutations earlier ++ opened.mutations moves) event := by
  intro opened event taken
  have traces := (Traces.empty limit).mutations earlier
  by_cases lost : ((empty limit).actAll earlier).Forgets options.after
  · rw [(isTurnedAway_of_forgets lost path).changes_run moves] at taken
    cases taken
  · have start := DeliversTo.begun traces path options
      (watch_follows traces lost path)
    obtain ⟨cursor, delivers⟩ := start.run moves
    exact delivers.traces.accounts (delivers.wanted event taken).1

/-- A reader takes a value that somebody else has replaced by the time it is
undone. -/
def replacing : List Move :=
  [.act (.write (.set "/c/a" "1" none)), .act (.write (.set "/c/a" "on" none)),
    .take, .take, .act (.write (.set "/c/a" "2" none))]

theorem replacing_accounts :
    let event : ChangeEvent := ⟨.set, "/c/a", some "on", false, 2, some "1"⟩
    let store := ((begun (empty 8) "/c/" ⟨0, true⟩).run replacing).store
    (rollback event store).1 = .conflict ∧
      (rollback event store).2 = store := by
  intro event store
  have accounts := accounts_of_taken 8 [] "/c/" ⟨0, true⟩ replacing
    event (by decide +kernel)
  have outcome := accounts.conflict.mpr (by decide +kernel)
  exact ⟨outcome, accounts.untouched (.inl outcome)⟩

/-- A reader takes a value that somebody else has deleted by the time it is
undone. -/
def vanishing : List Move :=
  [.act (.write (.set "/c/a" "on" none)), .take,
    .act (.write (.delete "/c/a" none))]

/-- The value is gone, and the key has changed again; yet this is no conflict,
and undoing counts as failed. -/
theorem vanishing_fails :
    let event : ChangeEvent := ⟨.set, "/c/a", some "on", false, 1, none⟩
    let opened := begun (empty 8) "/c/" ⟨0, true⟩
    let store := (opened.run vanishing).store
    event ∈ (opened.run vanishing).changes ∧
      event.IsSuperseded (opened.mutations vanishing) ∧
      store.value? "/c/a" = none ∧
      (rollback event store).1 = .failed (.keyNotFound "/c/a") ∧
      ¬ ((rollback event store).1 = .conflict ↔
        event.IsSuperseded (opened.mutations vanishing)) := by
  decide +kernel

end Reading

end LiveFlags
