import LiveFlags.Proofs.Store.Log

/-!
# Stores that keep a log

A store of this kind keeps a growing log of its changes, and a watch of a
directory yields those after an index in the order of the log.  At any time it
may report a failure instead, or end.  A failure that passes leaves the watch
where it was; about a watch that failed otherwise or ended nothing is said, so
that a new one has to be opened.
-/

namespace LiveFlags

namespace Arrival

/-- Whether a watch goes on after an item. -/
def keepsWatch : Arrival → Bool
  | event _ | pending | failure .timeout | failure (.clusterUnavailable _) =>
      true
  | _ => false

/-- Whether a new watch has to be opened after an item. -/
def reopens : Arrival → Bool
  | failure (.conditionFailed ..) | failure (.keyNotFound _)
  | failure (.other _) | ended => true
  | _ => false

theorem not_reopens_of_keepsWatch {arrival : Arrival}
    (keeps : arrival.keepsWatch = true) : arrival.reopens = false := by
  cases arrival with
  | failure error => cases error <;> first | rfl | cases keeps
  | ended => cases keeps
  | _ => rfl

/-- What an item says of the changes that a watch owes, of which those after
`cursor` remain. -/
def Continues (changes : List ChangeEvent) (cursor : Nat)
    (owes : Nat → Prop) : Arrival → Prop
  | event change =>
      (changes.find? fun other => cursor < other.index) = some change ∧
        owes change.index
  | pending | failure .timeout | failure (.clusterUnavailable _) => owes cursor
  | failure (.compacted ..) => False
  | _ => True

end Arrival

/-- The index of the last change of a list, or the one it starts from. -/
def lastIndex (start : Nat) (changes : List ChangeEvent) : Nat :=
  (changes.getLast?.map ChangeEvent.index).getD start

@[simp] theorem lastIndex_concat (start : Nat) (changes : List ChangeEvent)
    (change : ChangeEvent) :
    lastIndex start (changes ++ [change]) = change.index := by
  simp [lastIndex]

theorem index_le_lastIndex {changes : List ChangeEvent}
    (increasing : changes.Pairwise fun earlier later =>
      earlier.index < later.index) {change : ChangeEvent}
    (member : change ∈ changes) (start : Nat) :
    change.index ≤ lastIndex start changes := by
  induction changes using List.reverseRecOn with
  | nil => cases member
  | append_singleton changes last induction =>
      rw [lastIndex_concat]
      obtain ⟨_, _, before⟩ := List.pairwise_append.mp increasing
      rcases List.mem_append.mp member with earlier | latest
      · exact Nat.le_of_lt
          (before change earlier last (List.mem_singleton_self _))
      · obtain rfl := List.mem_singleton.mp latest
        exact Nat.le_refl _

/-- A store of type `S` that keeps a log which watches of a directory follow. -/
structure KeepsLog (S W : Type) [KeyValueStore S W] (directory : String) where
  log : S → List ChangeEvent
  increasing : ∀ store, (log store).Pairwise fun earlier later =>
    earlier.index < later.index
  /-- One store may come after another. -/
  Grows : S → S → Prop
  refl : ∀ store, Grows store store
  grown : ∀ {store later}, Grows store later → log store <+: log later
  /-- A watch has passed the changes up to an index and owes the later ones. -/
  Owes : S → W → Nat → Prop
  owes_grown : ∀ {store later watch cursor}, Grows store later →
    Owes store watch cursor → Owes later watch cursor
  watch : ∀ store after opened later,
    KeyValueStore.watch store directory ⟨after, true⟩ = (opened, later) →
      Grows store later ∧ Owes later opened after
  next : ∀ {store watch cursor arrival left later}, Owes store watch cursor →
    KeyValueStore.next store watch = (arrival, left, later) →
      Grows store later ∧ arrival.Continues
        ((log later).filter fun change => Key.isBelow directory change.key)
        cursor (Owes later left)
  write : ∀ store command answer later,
    KeyValueStore.write store command = (answer, later) → Grows store later

namespace KeepsLog

variable {S W : Type} [KeyValueStore S W] {directory : String}

/-- The changes of the directory. -/
def changes (keeps : KeepsLog S W directory) (store : S) :
    List ChangeEvent :=
  (keeps.log store).filter fun change => Key.isBelow directory change.key

theorem changes_increasing (keeps : KeepsLog S W directory) (store : S) :
    (keeps.changes store).Pairwise fun earlier later =>
      earlier.index < later.index :=
  (keeps.increasing store).filter _

theorem changes_grown (keeps : KeepsLog S W directory) {store later : S}
    (grows : keeps.Grows store later) :
    keeps.changes store <+: keeps.changes later :=
  (keeps.grown grows).filter _

end KeepsLog

/-- When the first changes of a list after an index were handled, the next one
is the first that lies after the last of them. -/
theorem handled_concat {changes handled : List ChangeEvent} {initial : Nat}
    {change : ChangeEvent}
    (increasing : changes.Pairwise fun earlier later =>
      earlier.index < later.index)
    (ordered : handled <+: changes.filter fun change => initial < change.index)
    (next : (changes.find? fun other =>
      lastIndex initial handled < other.index) = some change) :
    handled ++ [change] <+:
      changes.filter fun change => initial < change.index := by
  obtain ⟨rest, parted⟩ := ordered
  have sorted : (handled ++ rest).Pairwise fun earlier later =>
      earlier.index < later.index := by
    rw [parted]
    exact increasing.filter _
  obtain ⟨handledSorted, _, apart⟩ := List.pairwise_append.mp sorted
  have late : ∀ other ∈ handled ++ rest, initial < other.index := by
    intro other member
    rw [parted] at member
    simpa using (List.mem_filter.mp member).2
  have reached : initial ≤ lastIndex initial handled ∧
      ∀ other ∈ rest, lastIndex initial handled < other.index := by
    rcases List.eq_nil_or_concat handled with rfl | ⟨before, last, rfl⟩
    · exact ⟨Nat.le_refl _, late⟩
    · rw [List.concat_eq_append, lastIndex_concat]
      exact ⟨Nat.le_of_lt (late last (by simp)),
        fun other member => apart last (by simp) other member⟩
  have remaining : (changes.filter fun other =>
      lastIndex initial handled < other.index) = rest := by
    have narrowed : (changes.filter fun other =>
        lastIndex initial handled < other.index) =
          (handled ++ rest).filter fun other =>
            lastIndex initial handled < other.index := by
      rw [parted, List.filter_filter]
      apply List.filter_congr
      intro other _
      rw [← Bool.decide_and, decide_eq_decide]
      have passed := reached.1
      omega
    have passed : (handled.filter fun other =>
        lastIndex initial handled < other.index) = [] := by
      rw [List.filter_eq_nil_iff]
      intro other member
      have within := index_le_lastIndex handledSorted member initial
      simpa using within
    rw [narrowed, List.filter_append, passed, List.nil_append,
      List.filter_eq_self]
    intro other member
    simpa using reached.2 other member
  rw [← List.head?_filter, remaining] at next
  obtain ⟨later, rfl⟩ := List.head?_eq_some_iff.mp next
  exact ⟨later, by rw [← parted]; simp⟩

/-- Something other than a change that a watch has to report. -/
inductive Interruption where
  | failure (error : StoreError)
      (survivable : ∀ requested oldest, error ≠ .compacted requested oldest)
  | ended

/-- A store with a log, and a script of what interrupts its watches. -/
structure RehearsedStore where
  log : List ChangeEvent
  increasing : log.Pairwise fun earlier later => earlier.index < later.index
  /-- What comes when watches are asked for items, time after time. -/
  script : List (Option Interruption)

namespace RehearsedStore

/-- The store after one more change. -/
def record (store : RehearsedStore) (action : Action) (key : String)
    (value : Option String) : RehearsedStore where
  log := store.log ++ [{
    action, key, value
    index := lastIndex 0 store.log + 1
    previous := none }]
  increasing := by
    rw [List.pairwise_append]
    refine ⟨store.increasing, List.pairwise_singleton _ _, ?_⟩
    intro earlier member last lastMember
    rw [List.mem_singleton.mp lastMember]
    exact Nat.lt_succ_of_le (index_le_lastIndex store.increasing member 0)
  script := store.script

def write (store : RehearsedStore) :
    WriteCommand → Except StoreError Nat × RehearsedStore
  | .set key value _ =>
      (.ok (lastIndex 0 store.log + 1), store.record .set key (some value))
  | .delete key _ =>
      (.ok (lastIndex 0 store.log + 1), store.record .delete key none)

/-- The next change for a watch, which is a directory and the index of the
last change that was yielded. -/
def yield (store : RehearsedStore) (watch : String × Nat) :
    Arrival × (String × Nat) :=
  match (store.log.filter fun change => Key.isBelow watch.1 change.key).find?
      fun change => watch.2 < change.index with
  | some change => (.event change, (watch.1, change.index))
  | none => (.pending, watch)

def next (store : RehearsedStore) (watch : String × Nat) :
    Arrival × (String × Nat) × RehearsedStore :=
  match store.script with
  | some (.failure error _) :: script =>
      (.failure error, watch, { store with script })
  | some .ended :: script => (.ended, watch, { store with script })
  | none :: script =>
      let (arrival, left) := store.yield watch
      (arrival, left, { store with script })
  | [] =>
      let (arrival, left) := store.yield watch
      (arrival, left, store)

instance : KeyValueStore RehearsedStore (String × Nat) where
  get store _ _ := .ok { index := lastIndex 0 store.log }
  watch store path options := ((path, options.after), store)
  ready _ _ := true
  supply _ _ := .live 1
  next := next
  write := write

theorem write_log (store : RehearsedStore) (command : WriteCommand) :
    store.log <+: (store.write command).2.log := by
  cases command <;> exact List.prefix_append ..

theorem yield_continues (store : RehearsedStore) (directory : String)
    (cursor : Nat) :
    (store.yield (directory, cursor)).1.Continues
      (store.log.filter fun change => Key.isBelow directory change.key) cursor
      fun index =>
        (store.yield (directory, cursor)).2 = (directory, index) := by
  unfold yield
  split
  · rename_i change found
    exact ⟨found, rfl⟩
  · rfl

/-- A rehearsed store keeps its log, whatever its script is. -/
def keepsLog (directory : String) :
    KeepsLog RehearsedStore (String × Nat) directory where
  log := log
  increasing := increasing
  Grows store later := store.log <+: later.log
  refl store := List.prefix_refl _
  grown grows := grows
  Owes _ watch cursor := watch = (directory, cursor)
  owes_grown _ owes := owes
  watch := by
    rintro store after opened later ⟨⟩
    exact ⟨List.prefix_refl _, rfl⟩
  next := by
    rintro store watch cursor arrival left later rfl yielded
    have continues := store.yield_continues directory cursor
    change store.next (directory, cursor) = _ at yielded
    unfold next at yielded
    split at yielded
    · rename_i error survivable script _
      cases yielded
      refine ⟨List.prefix_refl _, ?_⟩
      cases error with
      | compacted requested oldest => exact absurd rfl (survivable _ _)
      | timeout => exact rfl
      | clusterUnavailable detail => exact rfl
      | _ => trivial
    · cases yielded
      exact ⟨List.prefix_refl _, trivial⟩
    · cases yielded
      exact ⟨List.prefix_refl _, continues⟩
    · cases yielded
      exact ⟨List.prefix_refl _, continues⟩
  write := by
    rintro store command answer later written
    have grown := store.write_log command
    change store.write command = _ at written
    rwa [written] at grown

end RehearsedStore

end LiveFlags
