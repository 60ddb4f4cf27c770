import LiveFlags.Proofs.Key
import LiveFlags.Proofs.Store.Listing
import LiveFlags.Sync.Loop

/-!
# What reaches a flag

A text is handed to a flag only if it is not empty, the flag is registered and
it may change.  Everything else that a mutation or a snapshot holds leaves all
flags as they are.  A load hands to each flag the text of its own leaf and
nothing else, so that after it a flag depends on a single entry of the store.
-/

namespace LiveFlags

namespace FlagValue

variable {V : Type} [FlagValue V]

/-- A value after it was set from several inputs in order. -/
def afterInputs (value : V) (inputs : List String) : V :=
  inputs.foldl (fun value input => (set value input).2) value

def Refuses (value : V) (input : String) : Prop :=
  ∃ error, (set value input).1 = .failed error

instance (value : V) (input : String) : Decidable (Refuses value input) :=
  match outcome : (set value input).1 with
  | .failed error => isTrue ⟨error, outcome⟩
  | .done => isFalse fun ⟨_, failed⟩ => by
      rw [outcome] at failed
      cases failed
  | .crashed _ => isFalse fun ⟨_, failed⟩ => by
      rw [outcome] at failed
      cases failed

/-- A value that no inputs make crash. -/
def Sturdy (value : V) : Prop :=
  ∀ inputs input detail,
    (set (afterInputs value inputs) input).1 ≠ .crashed detail

/-- A value that refuses an input or not, whatever it was set from before. -/
def Steady (value : V) : Prop :=
  ∀ inputs input, Refuses (afterInputs value inputs) input ↔ Refuses value input

/-- A value that is as before after an input that it refused. -/
def Atomic (value : V) : Prop :=
  ∀ input error, (set value input).1 = .failed error →
    (set value input).2 = value

theorem Sturdy.not_crashed {value : V} (sturdy : Sturdy value)
    (input detail : String) : (set value input).1 ≠ .crashed detail :=
  sturdy [] input detail

theorem Sturdy.set {value : V} (sturdy : Sturdy value) (input : String) :
    Sturdy (set value input).2 :=
  fun inputs => sturdy (input :: inputs)

theorem Steady.refuses_set {value : V} (steady : Steady value)
    (input other : String) :
    Refuses (FlagValue.set value input).2 other ↔ Refuses value other :=
  steady [input] other

theorem Steady.set {value : V} (steady : Steady value) (input : String) :
    Steady (FlagValue.set value input).2 := by
  intro inputs other
  exact (steady (input :: inputs) other).trans
    (steady.refuses_set input other).symm

end FlagValue

variable {V : Type}

/-- A property of named flags that setting them does not break. -/
def Flag.IsStable [FlagValue V] (holds : String → Flag V → Prop) : Prop :=
  ∀ name flag input, holds name flag → holds name (flag.set input).2

/-- What the outcome of setting a flag amounts to for the synchronizer. -/
def Outcome.ofFlag (name : String) : Outcome → Outcome
  | .failed error => .failed (.flagRejected name error)
  | outcome => outcome

/-- What became of a mutation that was handed to a flag. -/
def Verdict.ofFlag (name : String) : Outcome → Verdict
  | .done => .settled
  | .failed _ => .refused name
  | .crashed detail => .crashed detail

namespace FlagSet

/-- What holds of every flag under its name. -/
def Every (registry : FlagSet V) (holds : String → Flag V → Prop) : Prop :=
  ∀ name flag, registry.lookup? name = some flag → holds name flag

/-- A text is handed to a registered flag. -/
structure Reaches (registry : FlagSet V) (onlyDynamic : Bool)
    (name text : String) (flag : Flag V) : Prop where
  found : registry.lookup? name = some flag
  allowed : onlyDynamic = true → flag.dynamic = true
  filled : text ≠ ""

theorem Every.replace {registry : FlagSet V}
    {holds : String → Flag V → Prop} (every : registry.Every holds)
    {name : String} {flag : Flag V} (fresh : holds name flag) :
    (registry.replace name flag).Every holds := by
  intro other otherFlag found
  rw [lookup?_replace] at found
  by_cases same : other = name
  · rw [if_pos same] at found
    cases found
    exact same ▸ fresh
  · rw [if_neg same] at found
    exact every other otherFlag found

theorem register_eq_ok {registry next : FlagSet V} {name : String}
    {flag : Flag V} (registered : registry.register name flag = .ok next) :
    Key.isFlagName name = true ∧ next = registry.replace name flag := by
  unfold register at registered
  split at registered
  · cases registered
  · rename_i valid
    split at registered
    · cases registered
    · cases registered
      exact ⟨by simpa using valid, rfl⟩

/-- Only names that can name a flag are ever registered. -/
theorem Every.register {registry next : FlagSet V} {name : String}
    {flag : Flag V}
    (valid : registry.Every fun name _ => Key.isFlagName name = true)
    (registered : registry.register name flag = .ok next) :
    next.Every fun name _ => Key.isFlagName name = true := by
  obtain ⟨validName, rfl⟩ := register_eq_ok registered
  exact valid.replace validName

variable [FlagValue V]

theorem apply_of_reaches {registry : FlagSet V} {onlyDynamic : Bool}
    {name text : String} {flag : Flag V}
    (reaches : registry.Reaches onlyDynamic name text flag) :
    registry.apply name (some text) onlyDynamic =
      (.ofFlag name (flag.set text).1,
        registry.replace name (flag.set text).2) := by
  have unlocked : (onlyDynamic && !flag.dynamic) = false := by
    cases onlyDynamic with
    | false => rfl
    | true => simp [reaches.allowed rfl]
  simp only [apply, Option.filter_some, reaches.filled, ne_eq,
    not_false_eq_true,
    decide_true, if_true, reaches.found, unlocked, Bool.false_eq_true, if_false]
  rfl

/-- A text that reaches no flag leaves all flags as they are, and says why. -/
theorem apply_of_not_reaches {registry : FlagSet V} {onlyDynamic : Bool}
    {name : String} {value : Option String}
    (missed : ∀ text flag, value = some text →
      ¬ registry.Reaches onlyDynamic name text flag) :
    ∃ error, registry.apply name value onlyDynamic =
        (.failed error, registry) ∧
      (error = .noValuePresent name ∨ error = .flagLookupFailed name ∨
        onlyDynamic = true ∧ error = .flagNotDynamic name) := by
  unfold apply
  split
  · exact ⟨_, rfl, .inl rfl⟩
  · rename_i text filled
    obtain ⟨given, nonempty⟩ := Option.filter_eq_some_iff.mp filled
    split
    · exact ⟨_, rfl, .inr (.inl rfl)⟩
    · rename_i flag found
      split
      · rename_i locked
        simp only [Bool.and_eq_true] at locked
        exact ⟨_, rfl, .inr (.inr ⟨locked.1, rfl⟩)⟩
      · rename_i unlocked
        refine absurd ⟨found, ?_, by simpa using nonempty⟩
          (missed text flag given)
        rintro rfl
        simpa using unlocked

end FlagSet

variable [FlagValue V]

/-- A mutation brings a text to a flag that may change. -/
structure ChangeEvent.Concerns (event : ChangeEvent) (directory : String)
    (flags : FlagSet V) (name text : String) (flag : Flag V) : Prop where
  named : flagName directory event.key event.isDirectory = .ok name
  brings : event.value = some text
  reaches : flags.Reaches true name text flag

theorem handleEvent_of_concerns {directory : String} {flags : FlagSet V}
    {event : ChangeEvent} {name text : String} {flag : Flag V}
    (concerns : event.Concerns directory flags name text flag) :
    (handleEvent directory flags event).verdict =
        .ofFlag name (flag.set text).1 ∧
      (handleEvent directory flags event).flags =
        flags.replace name (flag.set text).2 := by
  rw [handleEvent, concerns.named, concerns.brings]
  dsimp only
  rw [FlagSet.apply_of_reaches concerns.reaches]
  cases (flag.set text).1 <;> exact ⟨rfl, rfl⟩

theorem handleEvent_of_not_concerns {directory : String} {flags : FlagSet V}
    {event : ChangeEvent}
    (missed : ∀ name text flag,
      ¬ event.Concerns directory flags name text flag) :
    (handleEvent directory flags event).verdict = .settled ∧
      (handleEvent directory flags event).flags = flags := by
  unfold handleEvent
  split
  · exact ⟨rfl, rfl⟩
  · rename_i name named
    have unreached : ∀ text flag, event.value = some text →
        ¬ flags.Reaches true name text flag := fun text flag brings reaches =>
      missed name text flag ⟨named, brings, reaches⟩
    obtain ⟨error, applied, reason⟩ := FlagSet.apply_of_not_reaches unreached
    rw [applied]
    rcases reason with rfl | rfl | ⟨_, rfl⟩ <;> exact ⟨rfl, rfl⟩

/-- A mutation is refused exactly when the flag that it concerns refuses the
text that it brings. -/
theorem handleEvent_refused {directory : String} {flags : FlagSet V}
    {event : ChangeEvent} {name : String} :
    (handleEvent directory flags event).verdict = .refused name ↔
      ∃ text flag, event.Concerns directory flags name text flag ∧
        FlagValue.Refuses flag.value text := by
  constructor
  · intro refused
    by_cases concerned : ∃ other text flag,
        event.Concerns directory flags other text flag
    · obtain ⟨other, text, flag, concerns⟩ := concerned
      rw [(handleEvent_of_concerns concerns).1] at refused
      cases outcome : (flag.set text).1 with
      | done =>
          rw [outcome] at refused
          cases refused
      | failed error =>
          rw [outcome] at refused
          cases refused
          exact ⟨text, flag, concerns, error, outcome⟩
      | crashed detail =>
          rw [outcome] at refused
          cases refused
    · push Not at concerned
      rw [(handleEvent_of_not_concerns concerned).1] at refused
      cases refused
  · rintro ⟨text, flag, concerns, error, refuses⟩
    have outcome : (flag.set text).1 = .failed error := refuses
    rw [(handleEvent_of_concerns concerns).1, outcome]
    rfl

theorem handleEvent_every {directory : String} {flags : FlagSet V}
    {holds : String → Flag V → Prop} (stable : Flag.IsStable holds)
    (every : flags.Every holds) (event : ChangeEvent) :
    (handleEvent directory flags event).flags.Every holds := by
  by_cases concerned : ∃ name text flag,
      event.Concerns directory flags name text flag
  · obtain ⟨name, text, flag, concerns⟩ := concerned
    rw [(handleEvent_of_concerns concerns).2]
    exact every.replace (stable name flag text
      (every name flag concerns.reaches.found))
  · push Not at concerned
    rw [(handleEvent_of_not_concerns concerned).2]
    exact every

theorem handleEvent_not_crashed {directory : String} {flags : FlagSet V}
    (sturdy : flags.Every fun _ flag => FlagValue.Sturdy flag.value)
    (event : ChangeEvent) (detail : String) :
    (handleEvent directory flags event).verdict ≠ .crashed detail := by
  by_cases concerned : ∃ name text flag,
      event.Concerns directory flags name text flag
  · obtain ⟨name, text, flag, concerns⟩ := concerned
    have flagSturdy := sturdy name flag concerns.reaches.found
    have safe := flagSturdy.not_crashed text
    change ∀ detail, (flag.set text).1 ≠ .crashed detail at safe
    rw [(handleEvent_of_concerns concerns).1]
    cases outcome : (flag.set text).1 with
    | crashed detail => exact absurd outcome (safe detail)
    | _ => exact nofun
  · push Not at concerned
    rw [(handleEvent_of_not_concerns concerned).1]
    exact nofun

/-- A mutation adds no flag and does not change which flags are dynamic. -/
theorem lookup?_handleEvent {directory : String} {flags : FlagSet V}
    {event : ChangeEvent} {name : String} {flag : Flag V}
    (found : (handleEvent directory flags event).flags.lookup? name =
      some flag) :
    ∃ before, flags.lookup? name = some before ∧
      before.dynamic = flag.dynamic := by
  have every : flags.Every fun name flag => ∃ before,
      flags.lookup? name = some before ∧ before.dynamic = flag.dynamic :=
    fun name flag found => ⟨flag, found, rfl⟩
  exact handleEvent_every (fun _ _ _ held => held) every event name flag found

/-- A mutation that does not concern a flag leaves it as it is. -/
theorem lookup?_handleEvent_other {directory : String} {flags : FlagSet V}
    {event : ChangeEvent} {name : String}
    (missed : event.key ≠ directory ++ name) :
    (handleEvent directory flags event).flags.lookup? name =
      flags.lookup? name := by
  by_cases concerned : ∃ other text flag,
      event.Concerns directory flags other text flag
  · obtain ⟨other, text, flag, concerns⟩ := concerned
    rw [(handleEvent_of_concerns concerns).2, FlagSet.lookup?_replace, if_neg]
    rintro rfl
    exact missed (flagName_eq_ok_iff.mp concerns.named).2.1
  · push Not at concerned
    rw [(handleEvent_of_not_concerns concerned).2]

/-- A flag after a load handed it a text, unless it may not be changed. -/
def Flag.absorb (onlyDynamic : Bool) (flag : Flag V) (text : String) : Flag V :=
  if text ≠ "" ∧ (onlyDynamic = true → flag.dynamic = true) then
    (flag.set text).2
  else flag

namespace Load

/-- Whether a node is the leaf of a flag. -/
def isLeafOf (directory name : String) (node : Node) : Bool :=
  !node.isDirectory && decide (node.key = directory ++ name)

variable {directory : String} {onlyDynamic : Bool} {load : Load V}

theorem visit_of_reaches {node : Node} {name : String} {flag : Flag V}
    (running : load.crash = none)
    (named : flagName directory node.key node.isDirectory = .ok name)
    (reaches : load.flags.Reaches onlyDynamic name node.value flag) :
    (load.visit directory onlyDynamic node).flags =
        load.flags.replace name (flag.set node.value).2 ∧
      ((∀ detail, (flag.set node.value).1 ≠ .crashed detail) →
        (load.visit directory onlyDynamic node).crash = none) := by
  rw [visit, running, named]
  dsimp only [Option.isSome]
  rw [if_neg Bool.false_ne_true, applyNode, FlagSet.apply_of_reaches reaches]
  cases (flag.set node.value).1 with
  | done => exact ⟨rfl, fun _ => running⟩
  | failed error => exact ⟨rfl, fun _ => running⟩
  | crashed detail => exact ⟨rfl, fun sturdy => absurd rfl (sturdy detail)⟩

theorem visit_of_not_reaches {node : Node} (running : load.crash = none)
    (missed : ∀ name flag,
      flagName directory node.key node.isDirectory = .ok name →
        ¬ load.flags.Reaches onlyDynamic name node.value flag) :
    (load.visit directory onlyDynamic node).flags = load.flags ∧
      (load.visit directory onlyDynamic node).crash = none := by
  unfold visit
  rw [running]
  dsimp only [Option.isSome]
  rw [if_neg Bool.false_ne_true]
  split
  · exact ⟨rfl, rfl⟩
  · rename_i name named
    have unreached : ∀ text flag, some node.value = some text →
        ¬ load.flags.Reaches onlyDynamic name text flag := by
      intro text flag brings reaches
      cases brings
      exact missed name flag named reaches
    obtain ⟨error, applied, reason⟩ := FlagSet.apply_of_not_reaches unreached
    rw [applyNode, applied]
    rcases reason with rfl | rfl | ⟨rfl, rfl⟩ <;> exact ⟨rfl, running⟩

theorem visit_of_crashed {node : Node} {detail : String}
    (crashed : load.crash = some detail) :
    load.visit directory onlyDynamic node = load := by
  rw [visit, crashed]
  exact if_pos rfl

theorem visit_every {holds : String → Flag V → Prop}
    (stable : Flag.IsStable holds) (every : load.flags.Every holds)
    (node : Node) :
    (load.visit directory onlyDynamic node).flags.Every holds := by
  cases crash : load.crash with
  | some detail =>
      rw [visit_of_crashed crash]
      exact every
  | none =>
      by_cases reached : ∃ name flag,
          flagName directory node.key node.isDirectory = .ok name ∧
            load.flags.Reaches onlyDynamic name node.value flag
      · obtain ⟨name, flag, named, reaches⟩ := reached
        rw [(visit_of_reaches crash named reaches).1]
        exact every.replace (stable name flag node.value
          (every name flag reaches.found))
      · push Not at reached
        rw [(visit_of_not_reaches crash reached).1]
        exact every

theorem foldl_visit_every {holds : String → Flag V → Prop}
    (stable : Flag.IsStable holds) (every : load.flags.Every holds)
    (nodes : List Node) :
    (nodes.foldl (visit directory onlyDynamic) load).flags.Every holds := by
  induction nodes generalizing load with
  | nil => exact every
  | cons node later induction => exact induction (visit_every stable every node)

theorem lookup?_visit_other (running : load.crash = none) {name : String}
    {node : Node}
    (other : flagName directory node.key node.isDirectory ≠ .ok name) :
    (load.visit directory onlyDynamic node).flags.lookup? name =
      load.flags.lookup? name := by
  by_cases reached : ∃ named flag,
      flagName directory node.key node.isDirectory = .ok named ∧
        load.flags.Reaches onlyDynamic named node.value flag
  · obtain ⟨named, flag, found, reaches⟩ := reached
    rw [(visit_of_reaches running found reaches).1, FlagSet.lookup?_replace,
      if_neg]
    rintro rfl
    exact other found
  · push Not at reached
    rw [(visit_of_not_reaches running reached).1]

/-- A node that is a leaf of a flag changes this flag, and no other node
does. -/
theorem lookup?_visit (running : load.crash = none) {name : String}
    (valid : Key.isFlagName name = true) (node : Node) :
    (load.visit directory onlyDynamic node).flags.lookup? name =
      (load.flags.lookup? name).map fun flag =>
        if isLeafOf directory name node then
          flag.absorb onlyDynamic node.value
        else flag := by
  by_cases leaf : isLeafOf directory name node = true
  · have parts := leaf
    simp only [isLeafOf, Bool.and_eq_true, Bool.not_eq_true',
      decide_eq_true_eq] at parts
    obtain ⟨notDirectory, key⟩ := parts
    have named : flagName directory node.key node.isDirectory = .ok name :=
      flagName_eq_ok_iff.mpr ⟨notDirectory, key, valid⟩
    simp only [leaf, if_true]
    by_cases reached : ∃ flag,
        load.flags.Reaches onlyDynamic name node.value flag
    · obtain ⟨flag, reaches⟩ := reached
      rw [(visit_of_reaches running named reaches).1, reaches.found,
        FlagSet.lookup?_replace, if_pos rfl, Option.map_some, Flag.absorb,
        if_pos ⟨reaches.filled, reaches.allowed⟩]
    · push Not at reached
      have missed : ∀ other flag,
          flagName directory node.key node.isDirectory = .ok other →
            ¬ load.flags.Reaches onlyDynamic other node.value flag := by
        intro other flag otherNamed
        rw [named] at otherNamed
        cases otherNamed
        exact reached flag
      rw [(visit_of_not_reaches running missed).1]
      cases found : load.flags.lookup? name with
      | none => rfl
      | some flag =>
          rw [Option.map_some, Flag.absorb, if_neg]
          rintro ⟨filled, allowed⟩
          exact reached flag ⟨found, allowed, filled⟩
  · have other : flagName directory node.key node.isDirectory ≠ .ok name := by
      intro named
      obtain ⟨notDirectory, key, _⟩ := flagName_eq_ok_iff.mp named
      simp [isLeafOf, notDirectory, key] at leaf
    simp [leaf, lookup?_visit_other running other]

/-- A load of sturdy flags is not cut short by a crash. -/
theorem visit_crash (sturdy : load.flags.Every fun _ flag =>
      FlagValue.Sturdy flag.value) (running : load.crash = none) (node : Node) :
    (load.visit directory onlyDynamic node).crash = none := by
  by_cases reached : ∃ name flag,
      flagName directory node.key node.isDirectory = .ok name ∧
        load.flags.Reaches onlyDynamic name node.value flag
  · obtain ⟨name, flag, named, reaches⟩ := reached
    have flagSturdy := sturdy name flag reaches.found
    exact (visit_of_reaches running named reaches).2
      fun detail => flagSturdy.not_crashed node.value detail
  · push Not at reached
    exact (visit_of_not_reaches running reached).2

theorem sturdy_isStable : Flag.IsStable fun _ (flag : Flag V) =>
    FlagValue.Sturdy flag.value :=
  fun _ _ input sturdy => sturdy.set input

theorem foldl_visit_crash (sturdy : load.flags.Every fun _ flag =>
      FlagValue.Sturdy flag.value) (running : load.crash = none)
    (nodes : List Node) :
    (nodes.foldl (visit directory onlyDynamic) load).crash = none := by
  induction nodes generalizing load with
  | nil => exact running
  | cons node later induction =>
      exact induction (visit_every sturdy_isStable sturdy node)
        (visit_crash sturdy running node)

/-- After a load each flag absorbed the texts of its own leaves in order. -/
theorem lookup?_foldl_visit (sturdy : load.flags.Every fun _ flag =>
      FlagValue.Sturdy flag.value) (running : load.crash = none)
    {name : String} (valid : Key.isFlagName name = true) (nodes : List Node) :
    (nodes.foldl (visit directory onlyDynamic) load).flags.lookup? name =
      (load.flags.lookup? name).map fun flag =>
        (nodes.filter (isLeafOf directory name)).foldl
          (fun flag node => flag.absorb onlyDynamic node.value) flag := by
  induction nodes generalizing load with
  | nil => simp
  | cons node later induction =>
      rw [List.foldl_cons, induction (visit_every sturdy_isStable sturdy node)
        (visit_crash sturdy running node), lookup?_visit running valid,
        Option.map_map]
      congr 1
      funext flag
      by_cases leaf : isLeafOf directory name node = true
      · simp [leaf]
      · simp [leaf]

end Load

namespace World

section Journal

omit [FlagValue V]

variable {S : Type}

@[simp] theorem tellAll_flags (world : World V S) (notices : List Notice) :
    (world.tellAll notices).flags = world.flags := by
  induction notices generalizing world with
  | nil => rfl
  | cons notice later induction => exact induction (world.tell notice)

@[simp] theorem tellAll_store (world : World V S) (notices : List Notice) :
    (world.tellAll notices).store = world.store := by
  induction notices generalizing world with
  | nil => rfl
  | cons notice later induction => exact induction (world.tell notice)

end Journal

/-- The load that reading a directory of a memory store amounts to. -/
def loading (world : World V MemoryStore) (directory : String)
    (onlyDynamic : Bool) : Load V :=
  .ofNodes directory onlyDynamic world.flags
    (world.store.get directory .everything).nodes

theorem load_flags (world : World V MemoryStore) (directory : String)
    (onlyDynamic : Bool) :
    (world.load directory onlyDynamic).2.flags =
      (world.loading directory onlyDynamic).flags := by
  rw [load, read]
  dsimp only [KeyValueStore.get]
  split <;> exact tellAll_flags _ _

/-- Loading only reads from the store, whatever store it is. -/
theorem load_store {S W : Type} [KeyValueStore S W] (world : World V S)
    (directory : String) (onlyDynamic : Bool) :
    (world.load directory onlyDynamic).2.store = world.store := by
  rw [load, read]
  cases KeyValueStore.get world.store directory .everything with
  | error error => rfl
  | ok snapshot =>
      dsimp only
      split <;> exact tellAll_store _ _

/-- A load of sturdy flags that can read the store reaches the index of the
snapshot. -/
theorem load_of_read {S W : Type} [KeyValueStore S W] {world : World V S}
    {directory : String} {snapshot : Snapshot}
    (read : KeyValueStore.get world.store directory .everything = .ok snapshot)
    (sturdy : world.flags.Every fun _ flag => FlagValue.Sturdy flag.value)
    (onlyDynamic : Bool) :
    ∃ applied failures later, world.load directory onlyDynamic =
        (.loaded snapshot.index applied failures, later) ∧
      later.flags.Every fun _ flag => FlagValue.Sturdy flag.value := by
  have safe : (Load.ofNodes directory onlyDynamic world.flags
      snapshot.nodes).crash = none :=
    Load.foldl_visit_crash sturdy rfl snapshot.nodes
  rw [load, World.read, read]
  dsimp only
  split
  · rename_i detail crash
    cases safe.symm.trans crash
  · refine ⟨_, _, _, rfl, ?_⟩
    rw [tellAll_flags]
    exact Load.foldl_visit_every Load.sturdy_isStable sturdy snapshot.nodes

/-- A load of a memory store is cut short by a crash or reaches the index of
the store. -/
theorem load_result (world : World V MemoryStore) (directory : String)
    (onlyDynamic : Bool) :
    (∃ applied failures, (world.load directory onlyDynamic).1 =
        .loaded world.store.index applied failures) ∨
      ∃ detail, (world.load directory onlyDynamic).1 = .crashed detail ∧
        (world.loading directory onlyDynamic).crash = some detail := by
  rw [load, read]
  dsimp only [KeyValueStore.get]
  rw [MemoryStore.get_index]
  split
  · rename_i detail crash
    exact .inr ⟨detail, rfl, crash⟩
  · exact .inl ⟨_, _, rfl⟩

theorem loading_every {world : World V MemoryStore}
    {holds : String → Flag V → Prop} (stable : Flag.IsStable holds)
    (every : world.flags.Every holds) (directory : String)
    (onlyDynamic : Bool) :
    (world.loading directory onlyDynamic).flags.Every holds :=
  Load.foldl_visit_every stable every _

/-- A load hands to each flag what the store holds under the key of the flag,
and nothing else. -/
theorem lookup?_loading {world : World V MemoryStore} {log : List ChangeEvent}
    (traces : world.store.Traces log) {directory : String}
    (isDirectory : Key.IsDirectory directory)
    (sturdy : world.flags.Every fun _ flag => FlagValue.Sturdy flag.value)
    {name : String} (valid : Key.isFlagName name = true) (onlyDynamic : Bool) :
    (world.loading directory onlyDynamic).flags.lookup? name =
      (world.flags.lookup? name).map fun flag =>
        match world.store.entries.get? (directory ++ name) with
        | some entry => flag.absorb onlyDynamic entry.value
        | none => flag := by
  have below : Key.isBelow directory (directory ++ name) = true :=
    Key.isBelow_iff.mpr ⟨name, rfl⟩
  have leaves := MemoryStore.get_leaf traces isDirectory below true
  rw [loading, Load.ofNodes, Load.lookup?_foldl_visit sturdy rfl valid]
  congr 1
  funext flag
  unfold Load.isLeafOf
  rw [ReadOptions.everything, leaves]
  cases world.store.entries.get? (directory ++ name) with
  | none => rfl
  | some entry => rfl

end World

end LiveFlags
