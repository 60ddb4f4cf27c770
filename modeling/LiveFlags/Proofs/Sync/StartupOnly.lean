import LiveFlags.Proofs.Sync.Applying
import LiveFlags.Store.Scripted

/-!
# Flags for start-up only

A change and a load for dynamic flags leave a flag that is for start-up only as
it is.  Such a load passes over the entries of these flags: it does, tells and
reports what a full load does with the rest of the snapshot.
-/

namespace LiveFlags

variable {V : Type}

namespace FlagSet

/-- The dynamic marker of the flag with a name. -/
def mark? (flags : FlagSet V) (name : String) : Option Bool :=
  (flags.lookup? name).map Flag.dynamic

theorem mark?_eq_some_iff {flags : FlagSet V} {name : String} {mark : Bool} :
    flags.mark? name = some mark ↔
      ∃ flag, flags.lookup? name = some flag ∧ flag.dynamic = mark :=
  Option.map_eq_some_iff

theorem mark?_replace_set [FlagValue V] {flags : FlagSet V} {name : String}
    {flag : Flag V} (found : flags.lookup? name = some flag) (text : String) :
    (flags.replace name (flag.set text).2).mark? = flags.mark? := by
  funext sought
  rw [mark?, lookup?_replace, mark?]
  split
  · rename_i same
    rw [same, found]
    rfl
  · rfl

/-- The flag with a name, if there is one, is for start-up only. -/
def IsFixed (flags : FlagSet V) (name : String) : Prop :=
  flags.mark? name ≠ some true

instance (flags : FlagSet V) (name : String) : Decidable (flags.IsFixed name) :=
  inferInstanceAs (Decidable (flags.mark? name ≠ some true))

theorem IsFixed.not_reaches {flags : FlagSet V} {name : String}
    (fixed : flags.IsFixed name) (text : String) (flag : Flag V) :
    ¬ flags.Reaches true name text flag := by
  intro reaches
  have marker := reaches.allowed rfl
  exact fixed (mark?_eq_some_iff.mpr ⟨flag, reaches.found, marker⟩)

theorem IsFixed.lookup?_replace {flags : FlagSet V} {name other text : String}
    (fixed : flags.IsFixed name) {flag : Flag V}
    (reaches : flags.Reaches true other text flag) (next : Flag V) :
    (flags.replace other next).lookup? name = flags.lookup? name := by
  rw [FlagSet.lookup?_replace, if_neg]
  rintro rfl
  exact fixed.not_reaches text flag reaches

theorem apply_of_startupOnly [FlagValue V] {flags : FlagSet V} {name : String}
    (fixed : flags.mark? name = some false) (value : Option String) :
    ∃ error, flags.apply name value true = (.failed error, flags) ∧
      (error = .noValuePresent name ∨ error = .flagNotDynamic name) := by
  obtain ⟨flag, found, marker⟩ := mark?_eq_some_iff.mp fixed
  unfold apply
  split
  · exact ⟨_, rfl, .inl rfl⟩
  · rw [found]
    dsimp only
    rw [marker]
    exact ⟨_, rfl, .inr rfl⟩

/-- A flag that is not for start-up only is treated alike by all loads. -/
theorem apply_of_not_startupOnly [FlagValue V] {flags : FlagSet V}
    {name : String} (other : flags.mark? name ≠ some false)
    (value : Option String) :
    flags.apply name value true = flags.apply name value false := by
  unfold apply
  split
  · rfl
  · split
    · rfl
    · rename_i flag found
      have dynamic : flag.dynamic = true := by
        by_contra fixed
        exact other (mark?_eq_some_iff.mpr
          ⟨flag, found, Bool.eq_false_iff.mpr fixed⟩)
      rw [dynamic]
      rfl

theorem apply_ne_flagNotDynamic [FlagValue V] (flags : FlagSet V)
    (name refusing : String) (value : Option String) :
    (flags.apply name value false).1 ≠ .failed (.flagNotDynamic refusing) := by
  unfold apply
  split
  · exact nofun
  · split
    · exact nofun
    · rename_i text _ _ flag _
      simp only [Bool.false_and, Bool.false_eq_true, if_false]
      cases (flag.set text).1 <;> exact nofun

end FlagSet

/-- Whether a node is an entry of a flag for start-up only. -/
def Node.isFrozen (directory : String) (flags : FlagSet V) (node : Node) :
    Bool :=
  match node.isDirectory, Key.below? directory node.key with
  | false, some name => Key.isFlagName name && flags.mark? name == some false
  | _, _ => false

theorem Node.isFrozen_iff {directory : String} {flags : FlagSet V}
    {node : Node} :
    node.isFrozen directory flags = true ↔
      ∃ name, flagName directory node.key node.isDirectory = .ok name ∧
        flags.mark? name = some false := by
  simp only [flagName_eq_ok_iff, Key.below?_eq_some_iff.symm]
  unfold isFrozen
  constructor
  · intro frozen
    split at frozen
    · rename_i name leaf below
      simp only [Bool.and_eq_true, beq_iff_eq] at frozen
      exact ⟨name, ⟨leaf, below, frozen.1⟩, frozen.2⟩
    · cases frozen
  · rintro ⟨name, ⟨leaf, below, valid⟩, fixed⟩
    simp [leaf, below, valid, fixed]

namespace Load

variable [FlagValue V] {directory : String} {load : Load V}

/-- A node sets the flag that its text reaches, if there is one. -/
theorem visit_flags (load : Load V) (directory : String) (onlyDynamic : Bool)
    (node : Node) :
    (load.visit directory onlyDynamic node).flags = load.flags ∨
      ∃ name flag, load.flags.Reaches onlyDynamic name node.value flag ∧
        (load.visit directory onlyDynamic node).flags =
          load.flags.replace name (flag.set node.value).2 := by
  cases crash : load.crash with
  | some detail =>
      rw [visit_of_crashed crash]
      exact .inl rfl
  | none =>
      by_cases reached : ∃ name flag,
          flagName directory node.key node.isDirectory = .ok name ∧
            load.flags.Reaches onlyDynamic name node.value flag
      · obtain ⟨name, flag, named, reaches⟩ := reached
        exact .inr ⟨name, flag, reaches,
          (visit_of_reaches crash named reaches).1⟩
      · push Not at reached
        exact .inl (visit_of_not_reaches crash reached).1

theorem mark?_visit (onlyDynamic : Bool) (node : Node) :
    (load.visit directory onlyDynamic node).flags.mark? = load.flags.mark? := by
  rcases load.visit_flags directory onlyDynamic node with
    same | ⟨name, flag, reaches, replaced⟩
  · rw [same]
  · rw [replaced]
    exact FlagSet.mark?_replace_set reaches.found node.value

theorem visit_of_isFrozen {node : Node}
    (frozen : node.isFrozen directory load.flags = true) :
    load.visit directory true node = load := by
  obtain ⟨name, named, fixed⟩ := Node.isFrozen_iff.mp frozen
  obtain ⟨error, applied, reason⟩ :=
    FlagSet.apply_of_startupOnly fixed (some node.value)
  unfold visit
  split
  · rfl
  · rw [named]
    dsimp only
    rw [applyNode, applied]
    rcases reason with rfl | rfl <;> rfl

theorem applyNode_of_not_startupOnly {name : String}
    (other : load.flags.mark? name ≠ some false) (node : Node) :
    load.applyNode true name node = load.applyNode false name node := by
  have refuses := load.flags.apply_ne_flagNotDynamic name
  unfold applyNode
  rw [FlagSet.apply_of_not_startupOnly other]
  cases applied : load.flags.apply name (some node.value) false with
  | mk outcome flags =>
      dsimp only
      cases outcome with
      | done => rfl
      | failed error =>
          cases error with
          | flagNotDynamic refusing =>
              exact absurd (congrArg Prod.fst applied) (refuses refusing _)
          | _ => rfl
      | crashed detail => rfl

theorem visit_of_not_isFrozen {node : Node}
    (other : node.isFrozen directory load.flags = false) :
    load.visit directory true node = load.visit directory false node := by
  unfold visit
  split
  · rfl
  · split
    · rfl
    · rename_i name named
      apply applyNode_of_not_startupOnly
      intro fixed
      rw [Node.isFrozen_iff.mpr ⟨name, named, fixed⟩] at other
      cases other

/-- A load that leaves flags for start-up only alone is a full load of what
does not belong to them. -/
theorem ofNodes_onlyDynamic (directory : String) (flags : FlagSet V)
    (nodes : List Node) :
    ofNodes directory true flags nodes =
      ofNodes directory false flags
        (nodes.filter fun node => !node.isFrozen directory flags) := by
  suffices general : ∀ load : Load V, load.flags.mark? = flags.mark? →
      nodes.foldl (visit directory true) load =
        (nodes.filter fun node => !node.isFrozen directory flags).foldl
          (visit directory false) load from general _ rfl
  induction nodes with
  | nil => exact fun load _ => rfl
  | cons node later induction =>
      intro load marks
      have same : node.isFrozen directory load.flags =
          node.isFrozen directory flags := by
        unfold Node.isFrozen
        rw [marks]
      rw [List.filter_cons, List.foldl_cons]
      cases frozen : node.isFrozen directory flags with
      | true =>
          rw [visit_of_isFrozen (same.trans frozen)]
          exact induction load marks
      | false =>
          rw [visit_of_not_isFrozen (same.trans frozen)]
          exact induction _ ((mark?_visit false node).trans marks)

end Load

section Turning

variable [FlagValue V] {name directory : String}

theorem lookup?_handleEvent_of_isFixed {flags : FlagSet V}
    (fixed : flags.IsFixed name) (event : ChangeEvent) :
    (handleEvent directory flags event).flags.lookup? name =
      flags.lookup? name := by
  by_cases concerned : ∃ other text flag,
      event.Concerns directory flags other text flag
  · obtain ⟨other, text, flag, concerns⟩ := concerned
    rw [(handleEvent_of_concerns concerns).2]
    exact fixed.lookup?_replace concerns.reaches _
  · push Not at concerned
    rw [(handleEvent_of_not_concerns concerned).2]

theorem key_ne_of_refused {flags : FlagSet V} (fixed : flags.IsFixed name)
    {event : ChangeEvent} {refusing : String}
    (refused : (handleEvent directory flags event).verdict =
      .refused refusing) : event.key ≠ directory ++ name := by
  obtain ⟨text, flag, concerns, _⟩ := handleEvent_refused.mp refused
  have key := (flagName_eq_ok_iff.mp concerns.named).2.1
  intro same
  have equal : refusing = name :=
    (String.append_right_inj _).mp (key.symm.trans same)
  exact fixed.not_reaches text flag (equal ▸ concerns.reaches)

namespace Load

variable {load : Load V}

theorem lookup?_visit_of_isFixed (fixed : load.flags.IsFixed name)
    (node : Node) :
    (load.visit directory true node).flags.lookup? name =
      load.flags.lookup? name := by
  rcases load.visit_flags directory true node with
    same | ⟨other, flag, reaches, replaced⟩
  · rw [same]
  · rw [replaced]
    exact fixed.lookup?_replace reaches _

theorem lookup?_foldl_visit_of_isFixed (fixed : load.flags.IsFixed name)
    (nodes : List Node) :
    (nodes.foldl (visit directory true) load).flags.lookup? name =
      load.flags.lookup? name := by
  induction nodes generalizing load with
  | nil => rfl
  | cons node later induction =>
      have same : (load.visit directory true node).flags.lookup? name =
          load.flags.lookup? name := lookup?_visit_of_isFixed fixed node
      have kept : (load.visit directory true node).flags.IsFixed name := by
        rw [FlagSet.IsFixed, mark?_visit]
        exact fixed
      exact (induction kept).trans same

end Load

end Turning

/-- What there is to say of a load of a snapshot. -/
def Load.result (load : Load V) (index : Nat) : LoadResult :=
  match load.crash with
  | some detail => .crashed detail
  | none => .loaded index load.applied load.failures

namespace World

variable {S W : Type}

/-- What was told so far. -/
def told (world : World V S) : List Notice :=
  world.journal.filterMap fun entry => match entry.2 with
    | .notice notice => some notice
    | _ => none

@[simp] theorem told_tell (world : World V S) (notice : Notice) :
    (world.tell notice).told = world.told ++ [notice] := by
  simp [told, tell, enter]

@[simp] theorem told_tellAll (world : World V S) (notices : List Notice) :
    (world.tellAll notices).told = world.told ++ notices := by
  induction notices generalizing world with
  | nil => exact (List.append_nil _).symm
  | cons notice later induction =>
      refine (induction (world.tell notice)).trans ?_
      rw [told_tell, List.append_assoc, List.singleton_append]

/-- A world with a store that answers every read with a snapshot. -/
def offering (flags : FlagSet V) (snapshot : Snapshot) :
    World V ScriptedStore :=
  { flags, store := { snapshot } }

variable [FlagValue V] [KeyValueStore S W]

theorem load_of_get {world : World V S} {directory : String}
    {snapshot : Snapshot}
    (read : KeyValueStore.get world.store directory .everything = .ok snapshot)
    (onlyDynamic : Bool) :
    let load :=
      Load.ofNodes directory onlyDynamic world.flags snapshot.nodes
    world.load directory onlyDynamic =
      (load.result snapshot.index,
        ({ world.enter (.read directory .everything) with
          flags := load.flags } : World V S).tellAll load.notices) := by
  intro load
  rw [World.load, World.read, read]
  change (match load.crash with | some detail => _ | none => _) = _
  rw [Load.result]
  cases load.crash <;> rfl

/-- A load for dynamic flags is a full load of what is left of the snapshot
without the entries of flags for start-up only. -/
theorem load_onlyDynamic {world : World V S} {directory : String}
    {snapshot : Snapshot}
    (read : KeyValueStore.get world.store directory .everything =
      .ok snapshot) :
    let others := snapshot.nodes.filter fun node =>
      !node.isFrozen directory world.flags
    let full := (offering world.flags { snapshot with nodes := others }).load
      directory false
    (world.load directory true).1 = full.1 ∧
      (world.load directory true).2.flags = full.2.flags ∧
      (world.load directory true).2.told = world.told ++ full.2.told := by
  intro others full
  have loaded := load_of_get read true
  have offered : KeyValueStore.get
      (offering world.flags { snapshot with nodes := others }).store directory
        .everything = .ok { snapshot with nodes := others } := rfl
  have fully : full = _ := load_of_get offered false
  rw [Load.ofNodes_onlyDynamic] at loaded
  rw [loaded, fully]
  refine ⟨rfl, ?_, ?_⟩
  · rw [tellAll_flags, tellAll_flags]
    rfl
  · rw [told_tellAll, told_tellAll]
    simp [told, enter, offering, others]

end World

end LiveFlags
