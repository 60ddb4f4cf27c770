import LiveFlags.Config
import LiveFlags.Flag.Setting
import LiveFlags.Proofs.Store.Lag
import LiveFlags.Proofs.Sync.Applying

/-!
# The names of flags and their keys

The registry, the reading of keys, the check of a store and the match of a watch
each have their own idea of what belongs to a flag, and they agree.  A name is
one non-empty segment, its key is the directory followed by it, and a value that
is written there comes up in a read and in a watch of the directory.
-/

namespace LiveFlags

/-- What a flag can be called. -/
def IsName (name : String) : Prop :=
  name ≠ "" ∧ '/' ∉ name.toList

namespace Key

theorem isFlagName_iff {name : String} :
    isFlagName name = true ↔ IsName name := by
  simp [isFlagName, hasSeparator, separator, IsName]

theorem isStorable_append {name : String} (valid : IsName name)
    (directory : String) : isStorable (directory ++ name) = true := by
  obtain ⟨nonempty, single⟩ := valid
  have characters : name.toList ≠ [] := by simpa using nonempty
  have last : (directory ++ name).toList.getLast? = name.toList.getLast? := by
    rw [String.toList_append, List.getLast?_append_of_ne_nil _ characters]
  simp only [isStorable, Bool.and_eq_true, decide_eq_true_eq, last]
  refine ⟨?_, ?_⟩
  · simp [nonempty]
  · intro ends
    exact single (List.mem_of_getLast? ends)

theorem isBelow_append (directory rest : String) :
    isBelow directory (directory ++ rest) = true :=
  isBelow_iff.mpr ⟨rest, rfl⟩

end Key

namespace FlagSet

variable {V : Type}

theorem register_eq_ok_iff {registry : FlagSet V} {name : String}
    (free : name ∉ registry.names) (flag : Flag V) :
    (∃ next, registry.register name flag = .ok next) ↔ IsName name := by
  constructor
  · rintro ⟨next, registered⟩
    exact Key.isFlagName_iff.mp (register_eq_ok registered).1
  · intro valid
    have absent : registry.contains name = false := by
      cases found : registry.lookup? name with
      | none => simp [contains, found]
      | some held =>
          exact absurd (SortedMap.mem_keys_iff.mpr ⟨held, found⟩) free
    refine ⟨registry.replace name flag, ?_⟩
    simp [register, Key.isFlagName_iff.mpr valid, absent, replace]

variable [FlagValue V]

/-- Registries as a program builds them up, marks flags in them and sets
flags. -/
inductive IsBuilt : FlagSet V → Prop
  | empty : IsBuilt .empty
  | register {registry next : FlagSet V} {name : String} {flag : Flag V}
      (built : IsBuilt registry)
      (registered : registry.register name flag = .ok next) : IsBuilt next
  | markDynamic {registry next : FlagSet V} {name : String}
      (built : IsBuilt registry)
      (marked : registry.markDynamic name = .ok next) : IsBuilt next
  | set {registry next : FlagSet V} {name input : String} {outcome : Outcome}
      (built : IsBuilt registry)
      (done : registry.set? name input = some (outcome, next)) : IsBuilt next

theorem IsBuilt.every {registry : FlagSet V} (built : registry.IsBuilt) :
    registry.Every fun name _ => Key.isFlagName name = true := by
  induction built with
  | empty =>
      intro name flag found
      cases found
  | register built registered induction => exact induction.register registered
  | @markDynamic registry next name built marked induction =>
      cases found : registry.lookup? name with
      | none => simp [FlagSet.markDynamic, setDynamic?, found] at marked
      | some flag =>
          simp only [FlagSet.markDynamic, setDynamic?, found, Option.map_some,
            Except.ok.injEq] at marked
          subst marked
          exact induction.replace (induction name flag found)
  | @set registry next name input outcome built done induction =>
      unfold set? at done
      obtain ⟨flag, found, same⟩ := Option.map_eq_some_iff.mp done
      obtain rfl := (Prod.mk.inj same).2
      exact induction.replace (induction name flag found)

theorem IsBuilt.isName {registry : FlagSet V} (built : registry.IsBuilt)
    {name : String} (member : name ∈ registry.names) : IsName name := by
  obtain ⟨flag, found⟩ := SortedMap.mem_keys_iff.mp member
  exact Key.isFlagName_iff.mp (built.every name flag found)

end FlagSet

namespace MemoryStore

variable {store : MemoryStore} {log : List ChangeEvent}

theorem Reachable.limit_pos (reachable : store.Reachable) :
    0 < store.limit := by
  induction reachable with
  | empty limit => exact Nat.lt_of_lt_of_le Nat.one_pos (Nat.le_max_right _ _)
  | @act store act _ induction =>
      cases act with
      | compact => exact induction
      | write command =>
          rcases store.run_cases command with ⟨error, failed⟩ |
            ⟨event, _, done⟩
          · simpa [MemoryStore.act, failed] using induction
          · rw [MemoryStore.act, done]
            exact induction

/-- A history keeps at least the newest mutation. -/
theorem mem_history_commit (positive : 0 < store.limit)
    (event : ChangeEvent) : event ∈ (store.commit event).history := by
  have short : (store.history ++ [event]).length - store.limit ≤
      store.history.length := by
    simp
    omega
  change event ∈ lastOf store.limit (store.history ++ [event])
  rw [lastOf, List.drop_append_of_le_length short]
  simp

/-- The next mutation of a store, if it is a value for a key. -/
def announcement (store : MemoryStore) (key value : String) : ChangeEvent :=
  .set key value (store.index + 1) (store.value? key)

theorem set_eq_commit {key : String} (storable : Key.isStorable key = true)
    (store : MemoryStore) (value : String) :
    store.set key value none =
      (.ok (store.index + 1), store.commit (store.announcement key value)) := by
  simp only [set, checkKey, storable, if_true, checkCondition]
  rfl

theorem Traces.announce (traces : store.Traces log) {key : String}
    (storable : Key.isStorable key = true) (value : String) :
    (store.commit (store.announcement key value)).Traces
      (log ++ [store.announcement key value]) :=
  traces.commit rfl storable rfl

/-- Every mutation after the latest one is the next one. -/
theorem Traces.eq_announcement (traces : store.Traces log) {key value : String}
    {other : ChangeEvent}
    (member : other ∈ log ++ [store.announcement key value])
    (fresh : store.index < other.index) :
    other = store.announcement key value := by
  rcases List.mem_append.mp member with older | latest
  · have upper := (traces.numbered.bounds older).2
    have total := traces.index
    omega
  · exact List.mem_singleton.mp latest

theorem Traces.not_forgets (traces : store.Traces log)
    (positive : 0 < store.limit) {key : String}
    (storable : Key.isStorable key = true) (value : String) :
    ¬ (store.commit (store.announcement key value)).Forgets store.index := by
  rw [(traces.announce storable value).forgets_iff]
  rintro ⟨other, member, fresh, missing⟩
  rw [traces.eq_announcement member fresh] at missing
  exact missing (mem_history_commit positive _)

end MemoryStore

namespace Reading

variable {reading : Reading} {path : String} {options : WatchOptions}
variable {log : List ChangeEvent} {origin cursor : Nat}
variable {passed : List Passage}

/-- A watch that has looked at all but the newest mutation yields that one
next. -/
theorem Tracks.next_newest
    (tracks : reading.Tracks path options log origin cursor passed)
    (near : log.length ≤ origin + passed.length + 1) {event : ChangeEvent}
    (member : event ∈ log) (covered : reading.watch.covers event.key = true)
    (fresh : cursor < event.index)
    (newest : ∀ other ∈ log, cursor < other.index → other = event) :
    (reading.store.next reading.watch).1 = .event event := by
  have traces := tracks.delivers.traces
  rcases MemoryStore.next_cases traces tracks.delivers.follows with
    ⟨other, later, yielded, next, _⟩ | ⟨requested, oldest, later, yielded⟩ |
      ⟨later, yielded, nothing, _⟩
  · rw [yielded, newest other next.member next.fresh]
  · obtain ⟨position, live, behind, _⟩ :=
      tracks.behind_of_failure (by rw [yielded])
    obtain ⟨here, hereLive, next, _⟩ := tracks.position
    obtain rfl := Option.some.inj (live.symm.trans hereLive)
    have oldestHeld := traces.oldestHeld
    have positive := reading.store.capacity_pos
    omega
  · have seen := nothing event member covered
    omega

/-- A watch comes to a mutation: it is the next one that it yields, and however
the reading of the watch is interleaved with what others do, the mutation was
yielded, reported as lost, or is still to come. -/
structure ComesTo (reading : Reading) (event : ChangeEvent) : Prop where
  next : (reading.store.next reading.watch).1 = .event event
  accounted : ∀ moves, event ∈ (reading.run moves).changes ∨
    (reading.run moves).Reports event ∨ (reading.run moves).Owes event

theorem Tracks.comesTo
    (tracks : reading.Tracks path options log origin cursor passed)
    (near : log.length ≤ origin + passed.length + 1) {event : ChangeEvent}
    (member : event ∈ log)
    (covered : Key.isWatched path options.recursive event.key = true)
    (fresh : cursor < event.index)
    (newest : ∀ other ∈ log, cursor < other.index → other = event) :
    reading.ComesTo event := by
  have delivers := tracks.delivers
  constructor
  · refine tracks.next_newest near member ?_ fresh newest
    rwa [MemoryWatch.covers, delivers.path, delivers.recursive]
  · intro moves
    obtain ⟨further, later⟩ := delivers.run moves
    have after : options.after ≤ cursor := by
      obtain ⟨_, follows⟩ := delivers.follows
      have := follows.after
      rwa [delivers.after] at this
    exact later.delivers.accounted event (List.mem_append_left _ member)
      (by omega) covered

end Reading

namespace MemoryStore

variable {store : MemoryStore} {log : List ChangeEvent}

/-- A watch that was opened after the latest mutation, before the next one or
behind it, comes to the next one. -/
theorem Traces.comesTo_announcement (traces : store.Traces log)
    (positive : 0 < store.limit) {path key : String}
    (storable : Key.isStorable key = true)
    (watched : Key.isWatched path true key = true) (value : String) :
    let written := store.commit (store.announcement key value)
    let options : WatchOptions := ⟨store.index, true⟩
    Reading.ComesTo { store := written, watch := store.watch path options }
        (store.announcement key value) ∧
      Reading.ComesTo { store := written, watch := written.watch path options }
        (store.announcement key value) := by
  intro written options
  have extended := traces.announce storable value
  have total := traces.index
  have length : (log ++ [store.announcement key value]).length =
      store.index + 1 := by
    simp [total]
  constructor
  · have begun := Reading.Tracks.begun traces path options
      fun lost => Nat.lt_irrefl _ lost.1
    have acted := begun.act (.write (.set key value none))
    have stored : store.act (.write (.set key value none)) = written := by
      rw [MemoryStore.act, MemoryStore.run, set_eq_commit storable]
    have stepped : (Reading.begun store path options).step
        (.act (.write (.set key value none))) =
          { store := written, watch := store.watch path options } := by
      simp only [Reading.step, Reading.begun, stored]
    have grown : (Reading.begun store path options).store.growth written =
        [store.announcement key value] := growth_commit rfl
    rw [stepped, grown] at acted
    refine acted.comesTo ?_ (by simp) watched (Nat.lt_succ_self _) ?_
    · omega
    · exact fun other member fresh => traces.eq_announcement member fresh
  · have begun := Reading.Tracks.begun extended path options
      (traces.not_forgets positive storable value)
    have later : (store.commit (store.announcement key value)).index =
        store.index + 1 := rfl
    refine begun.comesTo ?_ (by simp) watched (Nat.lt_succ_self _) ?_
    · omega
    · exact fun other member fresh => traces.eq_announcement member fresh

/-- What a write to the key of a flag does: the store takes it, a read of the
directory shows it as the one leaf of its key, and watches of the directory come
to it, those that were there before and those that resume behind it. -/
structure Publishes (store written : MemoryStore)
    (directory key value : String) : Prop where
  stored : store.set key value none = (.ok (store.index + 1), written)
  listed : ∀ sorted,
    ((written.get directory ⟨true, sorted⟩).nodes.filter fun node =>
        !node.isDirectory && decide (node.key = key)) =
      [.leaf key value (store.index + 1)]
  followed : Reading.ComesTo
    { store := written, watch := store.watch directory ⟨store.index, true⟩ }
    (store.announcement key value)
  replayed : Reading.ComesTo
    { store := written, watch := written.watch directory ⟨store.index, true⟩ }
    (store.announcement key value)

theorem Reachable.publishes (reachable : store.Reachable)
    {directory name : String} (isDirectory : Key.IsDirectory directory)
    (valid : IsName name) (value : String) :
    ∃ written, store.Publishes written directory (directory ++ name) value := by
  obtain ⟨log, traces⟩ := reachable.traces
  have storable := Key.isStorable_append valid directory
  have below := Key.isBelow_append directory name
  have watched : Key.isWatched directory true (directory ++ name) = true := by
    rwa [Key.isWatched_directory isDirectory storable]
  obtain ⟨followed, replayed⟩ :=
    traces.comesTo_announcement reachable.limit_pos storable watched value
  refine ⟨_, set_eq_commit storable store value, ?_, followed, replayed⟩
  intro sorted
  have found : (store.commit (store.announcement (directory ++ name)
      value)).entries.get? (directory ++ name) =
        some ⟨value, store.index + 1⟩ := by
    change (ChangeEvent.apply _ store.entries).get? _ = _
    rw [ChangeEvent.get?_apply]
    exact if_pos rfl
  rw [get_leaf (traces.announce storable value) isDirectory below, found]
  rfl

end MemoryStore

/-- All parts agree on the names of flags under a directory. -/
structure NamesAgree (V : Type) [FlagValue V] (directory : String) : Prop where
  read : ∀ key isDirectory name,
    flagName directory key isDirectory = .ok name ↔
      isDirectory = false ∧ key = directory ++ name ∧ IsName name
  registered : ∀ registry : FlagSet V, registry.IsBuilt →
    (∀ name ∉ registry.names, ∀ flag,
        (∃ next, registry.register name flag = .ok next) ↔ IsName name) ∧
      ∀ name ∈ registry.names, IsName name
  apart : Function.Injective fun name => directory ++ name
  restored : ∀ name, IsName name →
    flagName directory (directory ++ name) false = .ok name
  published : ∀ store : MemoryStore, store.Reachable →
    ∀ name, IsName name → ∀ value, ∃ written,
      store.Publishes written directory (directory ++ name) value

/-- Under any directory, the names that keys are read as, the names that can be
registered and the names whose keys carry values from a write to a read or a
watch are the same. -/
theorem namesAgree (V : Type) [FlagValue V] (config : Config) :
    NamesAgree V config.normalized where
  read key isDirectory name := by
    rw [flagName_eq_ok_iff, Key.isFlagName_iff]
  registered registry built :=
    ⟨fun _ free flag => FlagSet.register_eq_ok_iff free flag,
      fun _ member => built.isName member⟩
  apart left right same := (String.append_right_inj config.normalized).mp same
  restored name valid :=
    flagName_of_isFlagName config.normalized (Key.isFlagName_iff.mpr valid)
  published store reachable name valid value :=
    reachable.publishes (Key.isDirectory_asDirectory config.directory) valid
      value

/-- A store that keeps one mutation, and none of those it went through. -/
def forgetful : MemoryStore :=
  ((MemoryStore.empty 1).act (.write (.set "/c-d" "1" none))).act .compact

theorem namesAgree_forgetful :
    ∃ written, forgetful.Publishes written "/c//" "/c//é b" "on" := by
  have agree := namesAgree Setting { directory := "/c//" }
  have normalized : ({ directory := "/c//" } : Config).normalized = "/c//" := by
    decide +kernel
  have key : "/c//" ++ "é b" = "/c//é b" := by decide +kernel
  have reachable : forgetful.Reachable := .act _ (.act _ (.empty 1))
  have valid : IsName "é b" := ⟨by decide +kernel, by decide +kernel⟩
  have published := agree.published forgetful reachable "é b" valid "on"
  rwa [normalized, key] at published

end LiveFlags
