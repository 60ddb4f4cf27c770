import LiveFlags.Proofs.Store.Log
import Mathlib.Data.List.DropRight

/-!
# A store as the replay of what it accepted

Clients see of a store only how it answers them.  The commands that it
accepted, one after the other, spell a log of mutations, and after any run all
that the store holds is read off from this log: the entries are its replay, the
history is its end, and the index is its length.
-/

namespace LiveFlags

namespace WriteCommand

/-- The kind of the mutation that a command makes. -/
def action : WriteCommand → Action
  | set _ _ condition => if condition.isSome then .compareAndSwap else .set
  | delete _ condition =>
      if condition.isSome then .compareAndDelete else .delete

/-- The mutation that a command makes at an index, over the value that its key
has until then. -/
def event (command : WriteCommand) (index : Nat)
    (previous : Option String) : ChangeEvent :=
  { action := command.action, key := command.key, value := command.value?,
    index, previous }

/-- The log of commands that are carried out in order, the first of them on an
empty store. -/
def chronicle (commands : List WriteCommand) : List ChangeEvent :=
  commands.foldl (fun log command =>
    log ++ [command.event (log.length + 1)
      (((replay .empty log).get? command.key).map Entry.value)]) []

@[simp] theorem chronicle_nil : chronicle [] = [] := rfl

@[simp] theorem chronicle_concat (commands : List WriteCommand)
    (command : WriteCommand) :
    chronicle (commands ++ [command]) = chronicle commands ++
      [command.event ((chronicle commands).length + 1)
        (((replay .empty (chronicle commands)).get? command.key).map
          Entry.value)] := by
  simp [chronicle]

@[simp] theorem length_chronicle (commands : List WriteCommand) :
    (chronicle commands).length = commands.length := by
  induction commands using List.reverseRecOn with
  | nil => rfl
  | append_singleton commands command induction => simp [induction]

/-- A mutation holds the value that the mutations before it leave under its
key. -/
theorem previous_of_mem_chronicle {commands : List WriteCommand}
    {event : ChangeEvent} (member : event ∈ chronicle commands) :
    ∃ earlier later, chronicle commands = earlier ++ event :: later ∧
      event.previous =
        ((replay .empty earlier).get? event.key).map Entry.value := by
  induction commands using List.reverseRecOn with
  | nil => simp at member
  | append_singleton commands command induction =>
      obtain ⟨last, grown⟩ : ∃ last, chronicle (commands ++ [command]) =
          chronicle commands ++ [last] := ⟨_, chronicle_concat _ _⟩
      rw [grown, List.mem_append] at member
      rcases member with older | latest
      · obtain ⟨earlier, later, parted, previous⟩ := induction older
        exact ⟨earlier, later ++ [last], by simp [grown, parted], previous⟩
      · obtain rfl := List.mem_singleton.mp latest
        refine ⟨chronicle commands, [], grown, ?_⟩
        rw [chronicle_concat] at grown
        obtain rfl := List.singleton_inj.mp (List.append_cancel_left grown)
        rfl

end WriteCommand

theorem NumberedFrom.map_index {before : Nat} {log : List ChangeEvent}
    (numbered : NumberedFrom before log) :
    log.map ChangeEvent.index = List.range' (before + 1) log.length := by
  induction log generalizing before with
  | nil => rfl
  | cons event later induction =>
      obtain ⟨first, rest⟩ := numbered
      simp [List.range'_succ, first, induction rest]

namespace MemoryStore

section Ends

variable {α : Type}

theorem lastOf_concat (count : Nat) (items : List α) (item : α) :
    lastOf (count + 1) (items ++ [item]) = lastOf count items ++ [item] := by
  have within : items.length - count ≤ items.length := Nat.sub_le _ _
  simp [lastOf, List.drop_append_of_le_length within]

theorem lastOf_lastOf (outer inner : Nat) (items : List α) :
    lastOf outer (lastOf inner items) = lastOf (min outer inner) items := by
  simp only [lastOf, List.drop_drop, List.length_drop]
  congr 1
  omega

theorem length_lastOf (count : Nat) (items : List α) :
    (lastOf count items).length = min count items.length := by
  simp only [lastOf, List.length_drop]
  omega

theorem mem_of_mem_lastOf {count : Nat} {items : List α} {item : α}
    (member : item ∈ lastOf count items) : item ∈ items :=
  List.mem_of_mem_drop member

end Ends

/-- Why a store turns a command down, if it does.  The key is looked at before
the condition, and the condition before whether there is anything to delete. -/
def refusal? (store : MemoryStore) (command : WriteCommand) :
    Option StoreError :=
  if Key.isStorable command.key then
    match command.condition, store.index? command.key with
    | none, some _ => none
    | none, none =>
        if command.value?.isSome then none else some (.keyNotFound command.key)
    | some _, none => some (.keyNotFound command.key)
    | some expected, some actual =>
        if actual = expected then none
        else some (.conditionFailed command.key expected actual)
  else some (.other s!"invalid key: {Text.quoted command.key}")

theorem write_eq_commit (store : MemoryStore) (key value : String)
    (condition : Option Nat) :
    store.write key value condition.isSome =
      store.commit ((WriteCommand.set key value condition).event
        (store.index + 1) (store.value? key)) := rfl

theorem remove_eq_commit (store : MemoryStore) (key previous : String)
    (condition : Option Nat) :
    store.remove key previous condition.isSome =
      store.commit ((WriteCommand.delete key condition).event
        (store.index + 1) (some previous)) := rfl

/-- What a store answers to a command and what becomes of it. -/
theorem run_eq (store : MemoryStore) (command : WriteCommand) :
    store.run command = match store.refusal? command with
      | some error => (.error error, store)
      | none => (.ok (store.index + 1), store.commit (command.event
          (store.index + 1) (store.value? command.key))) := by
  cases command with
  | set key value condition =>
      by_cases storable : Key.isStorable key = true
      · simp only [run, set, checkKey, checkCondition, write_eq_commit,
          refusal?, WriteCommand.key, WriteCommand.condition,
          WriteCommand.value?, index?, storable, if_true]
        cases condition with
        | none => cases store.entries.get? key <;> rfl
        | some expected =>
            cases store.entries.get? key with
            | none => rfl
            | some entry =>
                by_cases same : entry.index = expected
                · simp [same]
                  rfl
                · simp [same]
      · simp [run, set, checkKey, refusal?, storable, WriteCommand.key]
  | delete key condition =>
      by_cases storable : Key.isStorable key = true
      · simp only [run, delete, checkKey, checkCondition, remove_eq_commit,
          refusal?, WriteCommand.key, WriteCommand.condition,
          WriteCommand.value?, index?, value?, storable, if_true]
        cases condition with
        | none => cases store.entries.get? key <;> rfl
        | some expected =>
            cases store.entries.get? key with
            | none => rfl
            | some entry =>
                by_cases same : entry.index = expected
                · simp [same]
                  rfl
                · simp [same]
      · simp [run, delete, checkKey, refusal?, storable, WriteCommand.key]

/-- The command that an act has the store accept, with the index that it is
answered with. -/
def accepted? (store : MemoryStore) : Act → Option (WriteCommand × Nat)
  | .write command =>
      (store.run command).1.toOption.map fun index => (command, index)
  | .compact => none

/-- The commands that a store accepts in a run, with the indices that they are
answered with. -/
def accepted (store : MemoryStore) : List Act → List (WriteCommand × Nat)
  | [] => []
  | act :: later =>
      (store.accepted? act).toList ++ (store.act act).accepted later

/-- How many commands were accepted in a run since the history was dropped. -/
def acceptedSinceCompaction (store : MemoryStore) (acts : List Act) : Nat :=
  ((store.actAll (acts.rdropWhile (· ≠ .compact))).accepted
    (acts.rtakeWhile (· ≠ .compact))).length

theorem actAll_concat (store : MemoryStore) (acts : List Act) (act : Act) :
    store.actAll (acts ++ [act]) = (store.actAll acts).act act := by
  simp [actAll]

theorem accepted_concat (store : MemoryStore) (acts : List Act) (act : Act) :
    store.accepted (acts ++ [act]) =
      store.accepted acts ++ ((store.actAll acts).accepted? act).toList := by
  induction acts generalizing store with
  | nil => simp [accepted, actAll]
  | cons first later induction => simp [accepted, actAll, induction]

theorem acceptedSinceCompaction_compact (store : MemoryStore)
    (acts : List Act) :
    store.acceptedSinceCompaction (acts ++ [.compact]) = 0 := by
  simp [acceptedSinceCompaction, accepted]

theorem acceptedSinceCompaction_write (store : MemoryStore)
    (acts : List Act) (command : WriteCommand) :
    store.acceptedSinceCompaction (acts ++ [.write command]) =
      store.acceptedSinceCompaction acts +
        ((store.actAll acts).accepted? (.write command)).toList.length := by
  have parted : (store.actAll (acts.rdropWhile (· ≠ .compact))).actAll
      (acts.rtakeWhile (· ≠ .compact)) = store.actAll acts := by
    rw [actAll, actAll, ← List.foldl_append, List.rdropWhile_append_rtakeWhile,
      actAll]
  simp [acceptedSinceCompaction, accepted_concat, ← parted]

section Deciding

variable {store : MemoryStore} {command : WriteCommand}

theorem act_of_refused {error : StoreError}
    (refused : store.refusal? command = some error) :
    store.accepted? (.write command) = none ∧
      store.act (.write command) = store := by
  have ran := store.run_eq command
  simp only [refused] at ran
  simp [accepted?, act, ran, Except.toOption]

theorem act_of_accepted (passed : store.refusal? command = none) :
    store.accepted? (.write command) = some (command, store.index + 1) ∧
      store.act (.write command) = store.commit (command.event
        (store.index + 1) (store.value? command.key)) := by
  have ran := store.run_eq command
  simp only [passed] at ran
  simp [accepted?, act, ran, Except.toOption]

theorem isStorable_of_accepted (passed : store.refusal? command = none) :
    Key.isStorable command.key = true := by
  by_contra refused
  simp [refusal?, refused] at passed

end Deciding

/-- An act has the store accept a command, or leaves its entries alone. -/
theorem accepted?_cases (store : MemoryStore) (act : Act) :
    store.accepted? act = none ∧ (store.act act).entries = store.entries ∨
      ∃ command, act = .write command ∧ store.refusal? command = none := by
  cases act with
  | compact => exact .inl ⟨rfl, rfl⟩
  | write command =>
      cases decided : store.refusal? command with
      | some error =>
          obtain ⟨silent, same⟩ := act_of_refused decided
          exact .inl ⟨silent, congrArg entries same⟩
      | none => exact .inr ⟨command, rfl, decided⟩

/-- What holds of a store that went through the mutations of `log` and dropped
its history before the last `kept` of them. -/
structure Recounts (store : MemoryStore) (limit kept : Nat)
    (log : List ChangeEvent) : Prop where
  traces : store.Traces log
  limited : store.limit = max limit 1
  history : store.history = lastOf (min (max limit 1) kept) log

namespace Recounts

variable {store : MemoryStore} {limit kept : Nat} {log : List ChangeEvent}

theorem empty (limit : Nat) :
    (MemoryStore.empty limit).Recounts limit 0 [] where
  traces := .empty limit
  limited := rfl
  history := by simp [MemoryStore.empty, lastOf]

theorem compact (recounts : store.Recounts limit kept log) :
    store.compact.Recounts limit 0 log where
  traces := recounts.traces.compact
  limited := recounts.limited
  history := by simp [MemoryStore.compact, lastOf]

/-- The mutation of a command that is accepted next is the next one of the
chronicle. -/
theorem accept {commands : List WriteCommand} {command : WriteCommand}
    (recounts : store.Recounts limit kept (WriteCommand.chronicle commands))
    (passed : store.refusal? command = none) :
    (store.act (.write command)).Recounts limit (kept + 1)
      (WriteCommand.chronicle (commands ++ [command])) := by
  let event := command.event (store.index + 1) (store.value? command.key)
  have committed : store.act (.write command) = store.commit event :=
    (act_of_accepted passed).2
  have next : WriteCommand.chronicle (commands ++ [command]) =
      WriteCommand.chronicle commands ++ [event] := by
    simp [event, value?, recounts.traces.index, recounts.traces.entries]
  rw [committed, next]
  constructor
  · exact recounts.traces.commit rfl (isStorable_of_accepted passed) rfl
  · exact recounts.limited
  · have cut : min (max limit 1) (min (max limit 1) kept + 1) =
        min (max limit 1) (kept + 1) := by omega
    change lastOf store.limit (store.history ++ [event]) = _
    rw [recounts.history, recounts.limited, ← lastOf_concat, lastOf_lastOf, cut]

/-- The chronicle of what was accepted is the log of every run. -/
theorem run (limit : Nat) (acts : List Act) :
    ((MemoryStore.empty limit).actAll acts).Recounts limit
      ((MemoryStore.empty limit).acceptedSinceCompaction acts)
      (WriteCommand.chronicle
        (((MemoryStore.empty limit).accepted acts).map Prod.fst)) := by
  induction acts using List.reverseRecOn with
  | nil => exact empty limit
  | append_singleton acts act induction =>
      rw [actAll_concat, accepted_concat]
      cases act with
      | compact =>
          rw [acceptedSinceCompaction_compact]
          simpa [accepted?, act] using induction.compact
      | write command =>
          rw [acceptedSinceCompaction_write]
          cases decided :
              ((MemoryStore.empty limit).actAll acts).refusal? command with
          | some error =>
              obtain ⟨silent, same⟩ := act_of_refused decided
              simpa [silent, same] using induction
          | none =>
              obtain ⟨answered, _⟩ := act_of_accepted decided
              simpa [answered] using induction.accept decided

end Recounts

/-- The store holds just what a log of mutations comes to, and of the log
itself the end that was neither dropped nor pushed out. -/
structure IsReplayOf (store : MemoryStore) (limit kept : Nat)
    (log : List ChangeEvent) : Prop where
  index : store.index = log.length
  history : store.history = lastOf (min (max limit 1) kept) log
  numbered : store.history.map ChangeEvent.index = List.range'
    (store.index + 1 - store.history.length) store.history.length
  entries : store.entries = replay .empty log
  latest : ∀ key entry, store.entries.get? key = some entry →
    ∃ event ∈ log, event.key = key ∧ event.value = some entry.value ∧
      event.index = entry.index ∧
        ∀ other ∈ log, other.key = key → other.index ≤ event.index
  distinct : ∀ left right leftEntry rightEntry,
    store.entries.get? left = some leftEntry →
      store.entries.get? right = some rightEntry →
        leftEntry.index = rightEntry.index → left = right
  previous : ∀ event ∈ store.history, ∃ earlier later,
    log = earlier ++ event :: later ∧
      event.previous = ((replay .empty earlier).get? event.key).map Entry.value
  storable : ∀ key entry, store.entries.get? key = some entry →
    key ≠ "" ∧ key.toList.getLast? ≠ some '/'

theorem accepted_indices (limit : Nat) (acts : List Act) :
    ((empty limit).accepted acts).map Prod.snd =
      List.range' 1 ((empty limit).accepted acts).length := by
  induction acts using List.reverseRecOn with
  | nil => rfl
  | append_singleton acts act induction =>
      rw [accepted_concat]
      rcases accepted?_cases ((empty limit).actAll acts) act with
        ⟨silent, _⟩ | ⟨command, rfl, passed⟩
      · simpa [silent] using induction
      · have total := (Recounts.run limit acts).traces.index
        simp only [WriteCommand.length_chronicle, List.length_map] at total
        simp only [act_of_accepted passed, Option.toList_some, List.map_append,
          induction, List.map_singleton, total, List.length_append,
          List.length_singleton]
        rw [List.range'_concat, Nat.one_mul, Nat.add_comm 1]

/-- After any run a store is the replay of the commands that it accepted: they
were answered with the numbers from one on, and entries, history and index are
those of the log that they spell. -/
theorem isReplayOf_accepted (limit : Nat) (acts : List Act) :
    ((empty limit).actAll acts).IsReplayOf limit
        ((empty limit).acceptedSinceCompaction acts)
        (WriteCommand.chronicle (((empty limit).accepted acts).map Prod.fst)) ∧
      ((empty limit).accepted acts).map Prod.snd =
        List.range' 1 ((empty limit).accepted acts).length := by
  have recounts := Recounts.run limit acts
  have traces := recounts.traces
  have numbered := traces.numbered
  refine ⟨⟨traces.index, recounts.history, ?_, traces.entries, ?_, ?_, ?_, ?_⟩,
    accepted_indices limit acts⟩
  · rw [recounts.history, length_lastOf, lastOf, List.map_drop,
      numbered.map_index, List.drop_range', traces.index]
    congr 1 <;> omega
  · intro key entry found
    obtain ⟨event, member, sameKey, value, index, last⟩ := traces.entry found
    exact ⟨event, member, sameKey, value, index, fun other otherMember same =>
      index ▸ last other otherMember same⟩
  · intro left right leftEntry rightEntry leftFound rightFound same
    obtain ⟨first, firstMember, rfl, _, firstIndex, _⟩ := traces.entry leftFound
    obtain ⟨second, secondMember, rfl, _, secondIndex, _⟩ :=
      traces.entry rightFound
    have equal := numbered.unique firstMember secondMember
      (firstIndex.trans (same.trans secondIndex.symm))
    exact congrArg ChangeEvent.key equal
  · intro event member
    rw [recounts.history] at member
    exact WriteCommand.previous_of_mem_chronicle (mem_of_mem_lastOf member)
  · intro key entry found
    have storable := traces.isStorable_of_entry found
    simp only [Key.isStorable, Bool.and_eq_true, decide_eq_true_eq] at storable
    exact storable

end MemoryStore

end LiveFlags
