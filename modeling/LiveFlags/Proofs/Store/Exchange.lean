import LiveFlags.Proofs.Store.Chronicle
import LiveFlags.Proofs.Store.Delivery

/-!
# Conditional writes

A write that is conditioned on an index is accepted just if the last command
that the store accepted for its key was a set and was answered with this index.
The index of a key never comes back, so of all commands that are conditioned on
the same one a single one is accepted, whoever sends them.  A command that is
turned down leaves no trace in the store or in any watch.
-/

namespace LiveFlags

/-- The last command for a key among those that were accepted. -/
def lastFor (key : String) (accepted : List (WriteCommand × Nat)) :
    Option (WriteCommand × Nat) :=
  (accepted.filter fun done => done.1.key = key).getLast?

/-- The accepted commands that were conditioned on an index of a key. -/
def exchanges (key : String) (expected : Nat)
    (accepted : List (WriteCommand × Nat)) : List (WriteCommand × Nat) :=
  accepted.filter fun done =>
    done.1.key = key ∧ done.1.condition = some expected

theorem lastFor_concat (key : String) (accepted : List (WriteCommand × Nat))
    (done : WriteCommand × Nat) :
    lastFor key (accepted ++ [done]) =
      if done.1.key = key then some done else lastFor key accepted := by
  by_cases same : done.1.key = key <;> simp [lastFor, same]

theorem exchanges_concat (key : String) (expected : Nat)
    (accepted : List (WriteCommand × Nat)) (done : WriteCommand × Nat) :
    exchanges key expected (accepted ++ [done]) =
      exchanges key expected accepted ++
        if done.1.key = key ∧ done.1.condition = some expected then [done]
        else [] := by
  by_cases same : done.1.key = key ∧ done.1.condition = some expected <;>
    simp [exchanges, same]

namespace MemoryStore

section Deciding

variable {store : MemoryStore} {command : WriteCommand}

/-- The answer to a conditional command, by the index that its key has. -/
theorem refusal?_of_condition {expected : Nat}
    (storable : Key.isStorable command.key = true)
    (condition : command.condition = some expected) :
    store.refusal? command = match store.index? command.key with
      | none => some (.keyNotFound command.key)
      | some actual =>
          if actual = expected then none
          else some (.conditionFailed command.key expected actual) := by
  simp only [refusal?, storable, if_true, condition]
  cases store.index? command.key <;> rfl

theorem index?_of_accepted {expected : Nat}
    (passed : store.refusal? command = none)
    (condition : command.condition = some expected) :
    store.index? command.key = some expected := by
  rw [refusal?_of_condition (isStorable_of_accepted passed) condition] at passed
  cases held : store.index? command.key with
  | none => simp [held] at passed
  | some actual => simpa [held] using passed

theorem get?_commit (event : ChangeEvent) (key : String) :
    (store.commit event).entries.get? key =
      if key = event.key then
        event.value.map fun value => ⟨value, event.index⟩
      else store.entries.get? key :=
  event.get?_apply store.entries key

end Deciding

/-- A key holds what the last command that was accepted for it wrote there,
under the index that this command was answered with. -/
theorem get?_actAll (limit : Nat) (acts : List Act) (key : String) :
    ((empty limit).actAll acts).entries.get? key =
      (lastFor key ((empty limit).accepted acts)).bind fun done =>
        done.1.value?.map fun value => ⟨value, done.2⟩ := by
  induction acts using List.reverseRecOn with
  | nil => rfl
  | append_singleton acts act induction =>
      rw [actAll_concat, accepted_concat]
      rcases accepted?_cases ((empty limit).actAll acts) act with
        ⟨silent, same⟩ | ⟨command, rfl, passed⟩
      · simpa [silent, same] using induction
      · obtain ⟨answered, committed⟩ := act_of_accepted passed
        rw [answered, committed, Option.toList_some, lastFor_concat,
          get?_commit]
        by_cases same : command.key = key
        · simp [same, WriteCommand.event]
        · simpa [same, Ne.symm same, WriteCommand.event] using induction

/-- What became of the commands that are conditioned on an index of a key: at
most one of them was accepted, and then the index is gone. -/
structure Spends (store : MemoryStore) (key : String) (expected : Nat)
    (accepted : List (WriteCommand × Nat)) : Prop where
  once : (exchanges key expected accepted).length ≤ 1
  gone : exchanges key expected accepted ≠ [] →
    expected ≤ store.index ∧ store.index? key ≠ some expected

namespace Spends

variable {store : MemoryStore} {key : String} {expected : Nat}
variable {accepted : List (WriteCommand × Nat)}

theorem act (spends : store.Spends key expected accepted) {act : Act}
    (unrelated : ∀ done ∈ store.accepted? act,
      ¬ (done.1.key = key ∧ done.1.condition = some expected)) :
    (store.act act).Spends key expected
      (accepted ++ (store.accepted? act).toList) := by
  have same : exchanges key expected
      (accepted ++ (store.accepted? act).toList) =
        exchanges key expected accepted := by
    cases answered : store.accepted? act with
    | none => simp
    | some done =>
        simp [exchanges_concat, unrelated done answered]
  constructor
  · simpa [same] using spends.once
  · rw [same]
    intro spent
    obtain ⟨past, gone⟩ := spends.gone spent
    exact ⟨past.trans (store.index_le_act act), index?_act_ne past gone act⟩

/-- A command that is accepted under a condition spends it. -/
theorem accept {log : List ChangeEvent}
    (spends : store.Spends key expected accepted) (traces : store.Traces log)
    {command : WriteCommand} (passed : store.refusal? command = none)
    (sameKey : command.key = key)
    (condition : command.condition = some expected) :
    (store.act (.write command)).Spends key expected
      (accepted ++ (store.accepted? (.write command)).toList) := by
  obtain ⟨answered, committed⟩ := act_of_accepted passed
  have held : store.index? key = some expected :=
    sameKey ▸ index?_of_accepted passed condition
  -- The condition holds now, so nobody has spent it: its index would be gone.
  have unspent : exchanges key expected accepted = [] := by
    by_contra spent
    exact (spends.gone spent).2 held
  have past : expected ≤ store.index := by
    obtain ⟨entry, found, rfl⟩ := Option.map_eq_some_iff.mp held
    obtain ⟨event, member, _, _, index, _⟩ := traces.entry found
    have bound := (traces.numbered.bounds member).2
    have total := traces.index
    omega
  constructor
  · simp [answered, exchanges_concat, unspent, sameKey, condition]
  · intro _
    have grown : (store.act (.write command)).index = store.index + 1 := by
      rw [committed]
      rfl
    refine ⟨by omega, ?_⟩
    rw [committed, index?, get?_commit]
    cases command.value? <;> simp [WriteCommand.event, sameKey] <;> omega

theorem run (limit : Nat) (acts : List Act) (key : String) (expected : Nat) :
    ((MemoryStore.empty limit).actAll acts).Spends key expected
      ((MemoryStore.empty limit).accepted acts) := by
  induction acts using List.reverseRecOn with
  | nil => exact ⟨by simp [exchanges, MemoryStore.accepted], by
      simp [exchanges, MemoryStore.accepted]⟩
  | append_singleton acts act induction =>
      have traces := (Recounts.run limit acts).traces
      rw [actAll_concat, accepted_concat]
      rcases accepted?_cases ((MemoryStore.empty limit).actAll acts) act with
        ⟨silent, _⟩ | ⟨command, rfl, passed⟩
      · exact induction.act (by simp [silent])
      · by_cases related :
            command.key = key ∧ command.condition = some expected
        · exact induction.accept traces passed related.1 related.2
        · refine induction.act ?_
          simpa [act_of_accepted passed] using related

end Spends

/-- How a store answers a command that is conditioned on an index, when `last`
is what it accepted last for the key of the command. -/
structure Swaps (store : MemoryStore) (last : Option (WriteCommand × Nat))
    (command : WriteCommand) (expected : Nat) : Prop where
  accepted : (∃ index, (store.run command).1 = .ok index) ↔
    ∃ made, last = some (made, expected) ∧ made.value?.isSome = true
  absent : store.value? command.key = none →
    (store.run command).1 = .error (.keyNotFound command.key)
  present : ∀ value, store.value? command.key = some value →
    ∃ made actual, last = some (made, actual) ∧ made.value? = some value ∧
      (actual ≠ expected → (store.run command).1 =
        .error (.conditionFailed command.key expected actual))

/-- A command changes nothing: not the store, and not what any watch yields,
whether it is open by then or opened later. -/
structure LeavesNoTrace (store : MemoryStore) (command : WriteCommand) :
    Prop where
  unchanged : (store.run command).2 = store
  already : ∀ reading : Reading, reading.store = store → ∀ moves,
    reading.run (.act (.write command) :: moves) = reading.run moves
  later : ∀ acts path options moves,
    (Reading.begun (store.actAll (.write command :: acts)) path options).run
        moves =
      (Reading.begun (store.actAll acts) path options).run moves

theorem leavesNoTrace_of_error {store : MemoryStore} {command : WriteCommand}
    {error : StoreError} (failed : (store.run command).1 = .error error) :
    store.LeavesNoTrace command := by
  have same : (store.run command).2 = store := by
    rcases store.run_cases command with ⟨_, turnedDown⟩ | ⟨event, _, done⟩
    · rw [turnedDown]
    · simp [done] at failed
  refine ⟨same, ?_, ?_⟩
  · rintro reading rfl moves
    rw [Reading.run_cons, Reading.step, act, same]
  · intro acts path options moves
    simp [actAll, act, same]

theorem swaps_of_condition (limit : Nat) (acts : List Act)
    {command : WriteCommand} {expected : Nat}
    (storable : Key.isStorable command.key = true)
    (condition : command.condition = some expected) :
    ((empty limit).actAll acts).Swaps
      (lastFor command.key ((empty limit).accepted acts)) command expected := by
  have held := get?_actAll limit acts command.key
  have ran := ((empty limit).actAll acts).run_eq command
  rw [refusal?_of_condition storable condition] at ran
  generalize (empty limit).actAll acts = store at held ran ⊢
  generalize lastFor command.key ((empty limit).accepted acts) = last at held ⊢
  cases found : store.entries.get? command.key with
  | none =>
      have answer : (store.run command).1 =
          .error (.keyNotFound command.key) := by
        simp [ran, index?, found]
      rw [found] at held
      refine ⟨?_, fun _ => answer, by simp [value?, found]⟩
      constructor
      · simp [answer]
      · rintro ⟨made, rfl, written⟩
        obtain ⟨value, wrote⟩ := Option.isSome_iff_exists.mp written
        simp [wrote] at held
  | some entry =>
      rw [found] at held
      obtain ⟨⟨made, actual⟩, rfl, written⟩ :=
        Option.bind_eq_some_iff.mp held.symm
      obtain ⟨value, wrote, rfl⟩ := Option.map_eq_some_iff.mp written
      have wrote : made.value? = some value := wrote
      refine ⟨?_, by simp [value?, found], ?_⟩
      · by_cases same : actual = expected <;>
          simp [ran, index?, found, same, wrote]
      · rintro _ present
        refine ⟨made, actual, rfl, ?_, fun other => ?_⟩
        · simpa [value?, found, wrote] using present
        · simp [ran, index?, found, other]

/-- Conditional writes are a sound exchange on every store that a run leads to:
each is answered by what was accepted last for its key, each index of a key is
spent at most once in the run, and whatever is turned down leaves no trace. -/
theorem exchanges_atomically (limit : Nat) (acts : List Act) :
    (∀ command expected, Key.isStorable command.key = true →
      command.condition = some expected →
        ((empty limit).actAll acts).Swaps
          (lastFor command.key ((empty limit).accepted acts)) command
            expected) ∧
    (∀ key expected,
      (exchanges key expected ((empty limit).accepted acts)).length ≤ 1) ∧
    ∀ command error,
      (((empty limit).actAll acts).run command).1 = .error error →
        ((empty limit).actAll acts).LeavesNoTrace command := by
  refine ⟨?_, ?_, ?_⟩
  · intro command expected storable condition
    exact swaps_of_condition limit acts storable condition
  · intro key expected
    exact (Spends.run limit acts key expected).once
  · intro command error failed
    exact leavesNoTrace_of_error failed

/-- A key that was exchanged, deleted and set again takes its latest index for
a condition, and turns its earlier ones down. -/
theorem exchanges_atomically_recreated :
    let acts : List Act := [.write (.set "/a" "1" none),
      .write (.set "/a" "2" (some 1)), .write (.delete "/a" (some 2)),
      .write (.set "/a" "3" none)]
    let store := (empty 2).actAll acts
    let stale : WriteCommand := .set "/a" "5" (some 1)
    (∃ index, (store.run (.set "/a" "5" (some 4))).1 = .ok index) ∧
      (store.run stale).1 = .error (.conditionFailed "/a" 1 4) ∧
      (exchanges "/a" 1 ((empty 2).accepted acts)).length ≤ 1 ∧
      store.LeavesNoTrace stale := by
  intro acts store stale
  obtain ⟨exchange, spent, failing⟩ := exchanges_atomically 2 acts
  have last : lastFor "/a" ((empty 2).accepted acts) =
      some (.set "/a" "3" none, 4) := by decide +kernel
  have storable : Key.isStorable "/a" = true := by decide +kernel
  have failed : (store.run stale).1 =
      .error (.conditionFailed "/a" 1 4) := by
    obtain ⟨made, actual, same, -, answer⟩ :=
      (exchange stale 1 storable rfl).present "3" (by decide +kernel)
    obtain ⟨-, rfl⟩ : .set "/a" "3" none = made ∧ 4 = actual := by
      simpa [WriteCommand.key, stale, last] using same
    exact answer (by decide)
  exact ⟨(exchange (.set "/a" "5" (some 4)) 4 storable rfl).accepted.mpr
    ⟨_, last, rfl⟩, failed, spent "/a" 1, failing stale _ failed⟩

end MemoryStore

end LiveFlags
