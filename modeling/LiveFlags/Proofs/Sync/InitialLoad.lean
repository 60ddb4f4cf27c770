import LiveFlags.Proofs.Flag.Setting
import LiveFlags.Store.Scripted
import LiveFlags.Sync.Synchronizer

/-!
# The initial load

The first load hands to every flag what the store holds under its key.  What a
flag does not take, and what is meant for no flag at all, is collected in the
order of the keys and reported at the end; nothing else keeps a flag from what
the store offers to it, and nothing else is ever reported.
-/

namespace LiveFlags

/-- A store holds a text for a flag: under the directory followed by the name
of the flag, and not an empty one. -/
structure MemoryStore.Offers (store : MemoryStore)
    (directory name text : String) : Prop where
  named : Key.isFlagName name = true
  held : store.value? (directory ++ name) = some text
  filled : text ≠ ""

variable {V : Type} [FlagValue V]

/-- What there is to report when a text is handed to the flag with a name. -/
inductive FlagSet.Misses (flags : FlagSet V) (name text : String) :
    Error → Prop where
  | unregistered (absent : flags.lookup? name = none) :
      flags.Misses name text (.flagLookupFailed name)
  | refused {flag : Flag V} {source : Error}
      (found : flags.lookup? name = some flag)
      (failed : (flag.set text).1 = .failed source) :
      flags.Misses name text (.flagRejected name source)

theorem FlagSet.Misses.congr {left right : FlagSet V} {name text : String}
    {error : Error} (same : left.lookup? name = right.lookup? name)
    (misses : left.Misses name text error) : right.Misses name text error := by
  cases misses with
  | unregistered absent => exact .unregistered (same.symm.trans absent)
  | refused found failed => exact .refused (same.symm.trans found) failed

namespace Load

/-- What a node adds to the failures of an initial load, with the name of the
flag that its key stands for. -/
def complaint? (directory : String) (flags : FlagSet V) (node : Node) :
    Option (String × Error) :=
  match flagName directory node.key node.isDirectory with
  | .error _ => none
  | .ok name =>
      if node.value = "" then none
      else
        match flags.lookup? name with
        | none => some (name, .flagLookupFailed name)
        | some flag =>
            match (flag.set node.value).1 with
            | .failed source => some (name, .flagRejected name source)
            | _ => none

variable {directory : String}

theorem complaint?_eq_some_iff {flags : FlagSet V} {node : Node}
    {name : String} {error : Error} :
    complaint? directory flags node = some (name, error) ↔
      flagName directory node.key node.isDirectory = .ok name ∧
        node.value ≠ "" ∧ flags.Misses name node.value error := by
  constructor
  · intro complains
    unfold complaint? at complains
    split at complains
    · cases complains
    · rename_i other named
      split at complains
      · cases complains
      · rename_i filled
        split at complains
        · rename_i absent
          cases complains
          exact ⟨named, filled, .unregistered absent⟩
        · rename_i flag found
          split at complains
          · rename_i source failed
            cases complains
            exact ⟨named, filled, .refused found failed⟩
          · cases complains
  · rintro ⟨named, filled, misses⟩
    cases misses with
    | unregistered absent => simp [complaint?, named, filled, absent]
    | refused found failed => simp [complaint?, named, filled, found, failed]

variable {load : Load V}

theorem failures_visit (running : load.crash = none) (node : Node) :
    (load.visit directory false node).failures = load.failures ++
      ((complaint? directory load.flags node).map Prod.snd).toList := by
  unfold complaint?
  cases named : flagName directory node.key node.isDirectory with
  | error reason => simp [visit, running, named]
  | ok name =>
      have visited : (load.visit directory false node).failures =
          (load.applyNode false name node).failures := by
        simp [visit, running, named]
      rw [visited, applyNode]
      by_cases empty : node.value = ""
      · simp [FlagSet.apply, Option.filter, empty]
      · cases found : load.flags.lookup? name with
        | none => simp [FlagSet.apply, Option.filter, empty, found, fail]
        | some flag =>
            have reaches : load.flags.Reaches false name node.value flag :=
              ⟨found, by simp, empty⟩
            rw [FlagSet.apply_of_reaches reaches]
            cases outcome : (flag.set node.value).1 <;>
              simp [Outcome.ofFlag, empty, found, outcome, fail]

/-- A leaf is no concern of the nodes with other keys. -/
theorem complaint?_visit (running : load.crash = none) {node other : Node}
    (apart : node.isDirectory = false → other.isDirectory = false →
      node.key ≠ other.key) :
    complaint? directory (load.visit directory false node).flags other =
      complaint? directory load.flags other := by
  have same : ∀ name, flagName directory other.key other.isDirectory =
      .ok name → (load.visit directory false node).flags.lookup? name =
        load.flags.lookup? name := by
    intro name named
    apply lookup?_visit_other running
    intro sameName
    obtain ⟨leaf, key, _⟩ := flagName_eq_ok_iff.mp sameName
    obtain ⟨otherLeaf, otherKey, _⟩ := flagName_eq_ok_iff.mp named
    exact apart leaf otherLeaf (key.trans otherKey.symm)
  apply Option.ext
  rintro ⟨name, error⟩
  rw [complaint?_eq_some_iff, complaint?_eq_some_iff]
  constructor
  · rintro ⟨named, filled, misses⟩
    exact ⟨named, filled, misses.congr (same name named)⟩
  · rintro ⟨named, filled, misses⟩
    exact ⟨named, filled, misses.congr (same name named).symm⟩

/-- A load fails with what its nodes complain about when the flags are as they
were at the beginning. -/
theorem failures_foldl_visit
    (sturdy : load.flags.Every fun _ flag => FlagValue.Sturdy flag.value)
    (running : load.crash = none) {nodes : List Node}
    (apart : nodes.Pairwise fun earlier later =>
      earlier.isDirectory = false → later.isDirectory = false →
        earlier.key ≠ later.key) :
    (nodes.foldl (visit directory false) load).failures = load.failures ++
      (nodes.filterMap (complaint? directory load.flags)).map Prod.snd := by
  induction nodes generalizing load with
  | nil => simp
  | cons node later induction =>
      obtain ⟨first, rest⟩ := List.pairwise_cons.mp apart
      -- The flags of later nodes are still as they were at the beginning.
      have untouched : later.filterMap (complaint? directory
          (load.visit directory false node).flags) =
            later.filterMap (complaint? directory load.flags) :=
        List.filterMap_congr fun other member =>
          complaint?_visit running (first other member)
      rw [List.foldl_cons, induction (visit_every sturdy_isStable sturdy node)
        (visit_crash sturdy running node) rest, failures_visit running,
        untouched]
      cases complains : complaint? directory load.flags node <;>
        simp [complains]

/-- A name that is not the name of a flag is left alone by every node. -/
theorem lookup?_foldl_visit_unnamed
    (sturdy : load.flags.Every fun _ flag => FlagValue.Sturdy flag.value)
    (running : load.crash = none) {name : String}
    (unnamed : Key.isFlagName name ≠ true) (nodes : List Node) :
    (nodes.foldl (visit directory false) load).flags.lookup? name =
      load.flags.lookup? name := by
  induction nodes generalizing load with
  | nil => rfl
  | cons node later induction =>
      rw [List.foldl_cons, induction (visit_every sturdy_isStable sturdy node)
        (visit_crash sturdy running node)]
      apply lookup?_visit_other running
      intro named
      exact unnamed (flagName_eq_ok_iff.mp named).2.2

end Load

/-- The failures of flags, each with the name of its flag, that a load of a
directory reports: one for each text that is offered and not taken, in the
order of the keys. -/
structure FlagSet.Reports (flags : FlagSet V) (store : MemoryStore)
    (directory : String) (failing : List (String × Error)) : Prop where
  ordered : failing.Pairwise fun earlier later =>
    directory ++ earlier.1 < directory ++ later.1
  complete : ∀ name error, (name, error) ∈ failing ↔
    ∃ text, store.Offers directory name text ∧ flags.Misses name text error

section Reading

variable {store : MemoryStore} {log : List ChangeEvent} {directory : String}

/-- The complaints of a snapshot are those of the entries below the
directory. -/
theorem Load.filterMap_complaint? (traces : store.Traces log)
    (isDirectory : Key.IsDirectory directory) (flags : FlagSet V) :
    (store.get directory .everything).nodes.filterMap
        (Load.complaint? directory flags) =
      ((store.entries.filterKeys (Key.isBelow directory)).toList.map
        Node.ofEntry).filterMap (Load.complaint? directory flags) := by
  rw [← MemoryStore.get_leaves traces isDirectory, List.filterMap_filter]
  apply List.filterMap_congr
  intro node _
  cases marked : node.isDirectory with
  | false => rfl
  | true => simp [Load.complaint?, flagName, marked]

theorem FlagSet.reports_complaints (traces : store.Traces log)
    (isDirectory : Key.IsDirectory directory) (flags : FlagSet V) :
    flags.Reports store directory
      ((store.get directory .everything).nodes.filterMap
        (Load.complaint? directory flags)) := by
  rw [Load.filterMap_complaint? traces isDirectory]
  let below := store.entries.filterKeys (Key.isBelow directory)
  have increasing : (below.toList.map Node.ofEntry).Pairwise
      fun earlier later => earlier.key < later.key :=
    List.pairwise_map.mpr below.sorted
  constructor
  · apply increasing.filterMap
    rintro earlier later less ⟨name, error⟩ complains ⟨other, _⟩ otherComplains
    obtain ⟨named, _⟩ := Load.complaint?_eq_some_iff.mp complains
    obtain ⟨otherNamed, _⟩ := Load.complaint?_eq_some_iff.mp otherComplains
    rwa [(flagName_eq_ok_iff.mp named).2.1,
      (flagName_eq_ok_iff.mp otherNamed).2.1] at less
  · intro name error
    rw [List.mem_filterMap]
    constructor
    · rintro ⟨node, listed, complains⟩
      obtain ⟨⟨key, entry⟩, held, rfl⟩ := List.mem_map.mp listed
      obtain ⟨named, filled, misses⟩ :=
        Load.complaint?_eq_some_iff.mp complains
      obtain ⟨_, rfl, valid⟩ := flagName_eq_ok_iff.mp named
      have found := SortedMap.get?_eq_some_iff.mpr held
      simp only [SortedMap.get?_filterKeys, Option.ite_none_right_eq_some]
        at found
      have offered : store.Offers directory name entry.value :=
        ⟨valid, Option.map_eq_some_iff.mpr ⟨entry, found.2, rfl⟩, filled⟩
      exact ⟨entry.value, offered, misses⟩
    · rintro ⟨text, ⟨valid, held, filled⟩, misses⟩
      obtain ⟨entry, found, rfl⟩ := Option.map_eq_some_iff.mp held
      have member : below.get? (directory ++ name) = some entry := by
        simpa [below, Key.isBelow_iff] using found
      refine ⟨Node.ofEntry (directory ++ name, entry), List.mem_map_of_mem
        (SortedMap.get?_eq_some_iff.mp member), ?_⟩
      exact Load.complaint?_eq_some_iff.mpr
        ⟨flagName_eq_ok_iff.mpr ⟨rfl, rfl, valid⟩, filled, misses⟩

end Reading

/-- What the first load of a synchronizer does. -/
structure InitialLoad (before : Synchronizer MemoryWatch)
    (world : World V MemoryStore) (outcome : Outcome)
    (after : Synchronizer MemoryWatch)
    (later : World V MemoryStore) : Prop where
  untouched : later.store = world.store
  reached : after =
    { before with initialized := true, cursor := world.store.index }
  taken : ∀ name text flag, world.store.Offers before.directory name text →
    world.flags.lookup? name = some flag → (flag.set text).1 = .done →
      later.flags.lookup? name = some (flag.set text).2
  kept : ∀ name,
    (∀ text flag, world.store.Offers before.directory name text →
      world.flags.lookup? name = some flag → (flag.set text).1 ≠ .done) →
        later.flags.lookup? name = world.flags.lookup? name
  answered : ∃ failing,
    world.flags.Reports world.store before.directory failing ∧
      outcome = if failing = [] then .done
        else .failed (.initialLoad (failing.map Prod.snd))

namespace World

variable {world : World V MemoryStore} {directory name : String}
variable {log : List ChangeEvent}

theorem lookup?_loading_of_offers (traces : world.store.Traces log)
    (isDirectory : Key.IsDirectory directory)
    (sturdy : world.flags.Every fun _ flag => FlagValue.Sturdy flag.value)
    {text : String} {flag : Flag V}
    (offered : world.store.Offers directory name text)
    (found : world.flags.lookup? name = some flag) :
    (world.loading directory false).flags.lookup? name =
      some (flag.set text).2 := by
  obtain ⟨entry, held, rfl⟩ := Option.map_eq_some_iff.mp offered.held
  simp [lookup?_loading traces isDirectory sturdy offered.named false, found,
    held, Flag.absorb, offered.filled]

theorem lookup?_loading_of_not_offers (traces : world.store.Traces log)
    (isDirectory : Key.IsDirectory directory)
    (sturdy : world.flags.Every fun _ flag => FlagValue.Sturdy flag.value)
    (withheld : ∀ text flag, world.store.Offers directory name text →
      world.flags.lookup? name ≠ some flag) :
    (world.loading directory false).flags.lookup? name =
      world.flags.lookup? name := by
  by_cases valid : Key.isFlagName name = true
  · rw [lookup?_loading traces isDirectory sturdy valid]
    cases found : world.flags.lookup? name with
    | none => rfl
    | some flag =>
        cases held : world.store.entries.get? (directory ++ name) with
        | none => rfl
        | some entry =>
            have empty : entry.value = "" := by
              by_contra filled
              have present : world.store.value? (directory ++ name) =
                  some entry.value :=
                Option.map_eq_some_iff.mpr ⟨entry, held, rfl⟩
              exact withheld _ flag ⟨valid, present, filled⟩ found
            simp [Flag.absorb, empty]
  · exact Load.lookup?_foldl_visit_unnamed sturdy rfl valid _

theorem failures_loading (traces : world.store.Traces log)
    (isDirectory : Key.IsDirectory directory)
    (sturdy : world.flags.Every fun _ flag => FlagValue.Sturdy flag.value) :
    (world.loading directory false).failures =
      ((world.store.get directory .everything).nodes.filterMap
        (Load.complaint? directory world.flags)).map Prod.snd := by
  have apart : (world.store.get directory .everything).nodes.Pairwise
      fun earlier later => earlier.isDirectory = false →
        later.isDirectory = false → earlier.key ≠ later.key := by
    let below := world.store.entries.filterKeys (Key.isBelow directory)
    have distinct : (below.toList.map Node.ofEntry).Pairwise
        fun earlier later => earlier.key ≠ later.key :=
      List.pairwise_map.mpr (below.sorted.imp String.ne_of_lt)
    rw [← MemoryStore.get_leaves traces isDirectory, List.pairwise_filter]
      at distinct
    simpa using distinct
  have failures : (world.loading directory false).failures = [] ++ _ :=
    Load.failures_foldl_visit sturdy rfl apart
  simpa using failures

end World

namespace Synchronizer

variable {sync : Synchronizer MemoryWatch} {world : World V MemoryStore}

/-- An initial load comes down to the load of what the directory holds. -/
theorem loadInitially_eq (fresh : sync.initialized = false)
    (sturdy : world.flags.Every fun _ flag => FlagValue.Sturdy flag.value) :
    ∃ later, sync.loadInitially world =
        (if (world.loading sync.directory false).failures = [] then .done
          else .failed (.initialLoad
            (world.loading sync.directory false).failures),
          { sync with initialized := true, cursor := world.store.index },
          later) ∧
      later.store = world.store ∧
        later.flags = (world.loading sync.directory false).flags := by
  have safe : (world.loading sync.directory false).crash = none :=
    Load.foldl_visit_crash sturdy rfl _
  have loaded : world.load sync.directory false =
      (.loaded world.store.index (world.loading sync.directory false).applied
        (world.loading sync.directory false).failures,
        (world.load sync.directory false).2) := by
    rw [World.load, World.read]
    dsimp only [KeyValueStore.get]
    rw [MemoryStore.get_index]
    split
    · rename_i detail crash
      cases safe.symm.trans crash
    · rfl
  rw [loadInitially, loaded]
  simp only [fresh, Bool.false_eq_true, if_false, List.isEmpty_iff]
  exact ⟨_, rfl, world.load_store sync.directory false,
    world.load_flags sync.directory false⟩

theorem initialLoad_of_traces {log : List ChangeEvent}
    (fresh : sync.initialized = false) (traces : world.store.Traces log)
    (sturdy : world.flags.Every fun _ flag => FlagValue.Sturdy flag.value)
    (atomic : world.flags.Every fun _ flag => FlagValue.Atomic flag.value) :
    InitialLoad sync world (sync.loadInitially world).1
      (sync.loadInitially world).2.1 (sync.loadInitially world).2.2 := by
  have isDirectory : Key.IsDirectory sync.directory :=
    Key.isDirectory_asDirectory _
  obtain ⟨later, loaded, store, flags⟩ := loadInitially_eq fresh sturdy
  rw [loaded]
  refine ⟨store, rfl, ?_, ?_, ?_⟩
  · intro name text flag offered found _
    rw [flags]
    exact World.lookup?_loading_of_offers traces isDirectory sturdy offered
      found
  · intro name missed
    rw [flags]
    by_cases given : ∃ text flag,
        world.store.Offers sync.directory name text ∧
          world.flags.lookup? name = some flag
    · obtain ⟨text, flag, offered, found⟩ := given
      have unchanged : (flag.set text).2 = flag := by
        cases outcome : (flag.set text).1 with
        | done => exact absurd outcome (missed text flag offered found)
        | failed error =>
            have same := atomic name flag found text error outcome
            exact congrArg (fun value => { flag with value }) same
        | crashed detail =>
            exact absurd outcome
              ((sturdy name flag found).not_crashed text detail)
      rw [World.lookup?_loading_of_offers traces isDirectory sturdy offered
        found, found, unchanged]
    · push Not at given
      exact World.lookup?_loading_of_not_offers traces isDirectory sturdy given
  · refine ⟨_, FlagSet.reports_complaints traces isDirectory world.flags, ?_⟩
    simp [World.failures_loading traces isDirectory sturdy]

theorem loadInitially_of_unreadable {S W : Type} [KeyValueStore S W]
    {sync : Synchronizer W} {world : World V S} {error : StoreError}
    (fresh : sync.initialized = false)
    (unreadable : KeyValueStore.get world.store sync.directory .everything =
      .error error) :
    sync.loadInitially world =
      (.failed (.store error), sync, world.enter
        (.read sync.directory .everything)) := by
  simp [loadInitially, fresh, World.load, World.read, unreadable]

/-- The first load takes every text that the store offers and reports what is
not taken, unless the store cannot be read: then it reports this and leaves
everything but its journal as it was. -/
theorem initialLoad_unless_unreadable (V : Type) [FlagValue V] :
    (∀ (sync : Synchronizer MemoryWatch) (world : World V MemoryStore),
      sync.initialized = false → world.store.Reachable →
      (world.flags.Every fun _ flag => FlagValue.Sturdy flag.value) →
      (world.flags.Every fun _ flag => FlagValue.Atomic flag.value) →
        InitialLoad sync world (sync.loadInitially world).1
          (sync.loadInitially world).2.1 (sync.loadInitially world).2.2) ∧
    ∀ (S W : Type) [KeyValueStore S W] (sync : Synchronizer W)
      (world : World V S) (error : StoreError), sync.initialized = false →
      KeyValueStore.get world.store sync.directory .everything =
        .error error →
          sync.loadInitially world = (.failed (.store error), sync,
            world.enter (.read sync.directory .everything)) := by
  constructor
  · intro sync world fresh reachable sturdy atomic
    obtain ⟨log, traces⟩ := reachable.traces
    exact initialLoad_of_traces fresh traces sturdy atomic
  · intro S W _ sync world error fresh unreadable
    exact loadInitially_of_unreadable fresh unreadable

/-- A switch is turned on although a flag after it refuses its text and a key
between them stands for no flag. -/
theorem initialLoad_unless_unreadable_mixed :
    let flags := (FlagSet.switch "a").replace "c"
      { value := .refusing (.other "full") }
    let store := (MemoryStore.empty 4).actAll
      [.write (.set "/p/c" "1" none), .write (.set "/p/b" "1" none),
        .write (.set "/p/a" "true" none), .write (.set "/p/a/b" "1" none)]
    let sync : Synchronizer MemoryWatch := { config := { directory := "/p" } }
    let unread : World Setting ScriptedStore :=
      { flags, store := { readFailure := some .timeout } }
    let idle : Synchronizer Nat := { config := { directory := "/p" } }
    InitialLoad sync { flags, store } (sync.loadInitially { flags, store }).1
        (sync.loadInitially { flags, store }).2.1
        (sync.loadInitially { flags, store }).2.2 ∧
      store.Offers sync.directory "a" "true" ∧
      (idle.loadInitially unread).1 = .failed (.store .timeout) := by
  intro flags store sync unread idle
  have reachable : store.Reachable := .actAll (.empty 4) _
  have sturdy : flags.Every fun _ flag => FlagValue.Sturdy flag.value :=
    (FlagSet.switch_sturdy "a").replace (Setting.sturdy rfl)
  have atomic : flags.Every fun _ flag => FlagValue.Atomic flag.value :=
    fun _ flag _ => flag.value.atomic
  have offered : store.Offers sync.directory "a" "true" :=
    ⟨by decide +kernel, by decide +kernel, by decide⟩
  obtain ⟨loads, fails⟩ := initialLoad_unless_unreadable Setting
  refine ⟨loads sync { flags, store } rfl reachable sturdy atomic, offered, ?_⟩
  rw [fails ScriptedStore Nat idle unread .timeout rfl rfl]

end Synchronizer

end LiveFlags
