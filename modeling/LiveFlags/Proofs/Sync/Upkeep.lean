import LiveFlags.Proofs.SortedMap
import LiveFlags.Proofs.Sync.Applying
import LiveFlags.Proofs.Sync.Fleet

/-!
# Flags that are kept up to date

Keeping flags up to date is to load snapshots into them and to handle changes.
Two runs of this that agree on a flag go on agreeing on it, in its state, in
what is reported about it and in what is written to undo changes of it, as long
as they take in the same leaves and the same changes of its key, whatever else
they take in and wherever it comes in between.  The nodes of one snapshot can be
loaded in any order.
-/

namespace LiveFlags

/-- Whether a failure is about the flag with a name. -/
def Error.isAbout (name : String) : Error → Bool
  | .flagLookupFailed flag | .flagNotDynamic flag | .flagRejected flag _ =>
      flag = name
  | _ => false

/-- What a load reports of an entry, by the outcome of applying it. -/
def Outcome.complaints (onlyDynamic : Bool) : Outcome → List Error
  | .failed (.noValuePresent _) => []
  | .failed (.flagNotDynamic flag) =>
      if onlyDynamic then [] else [.flagNotDynamic flag]
  | .failed error => [error]
  | _ => []

/-- What a load counts of an entry, by the outcome of applying it. -/
def Outcome.count : Outcome → Nat
  | .done => 1
  | _ => 0

variable {V : Type} [FlagValue V]

namespace FlagSet

variable {left right : FlagSet V} {name other : String}

omit [FlagValue V] in
theorem ext_lookup? (same : ∀ name, left.lookup? name = right.lookup? name) :
    left = right :=
  congrArg FlagSet.mk (SortedMap.ext_get? same)

/-- Applying a value depends on no flag but the one that it is for. -/
theorem apply_congr (same : left.lookup? name = right.lookup? name)
    (value : Option String) (onlyDynamic : Bool) :
    (left.apply name value onlyDynamic).1 =
        (right.apply name value onlyDynamic).1 ∧
      (left.apply name value onlyDynamic).2.lookup? name =
        (right.apply name value onlyDynamic).2.lookup? name := by
  unfold apply
  rw [same]
  cases value.filter fun text => text ≠ "" with
  | none => exact ⟨rfl, same⟩
  | some text =>
      cases found : right.lookup? name with
      | none => exact ⟨rfl, same⟩
      | some flag =>
          by_cases locked : (onlyDynamic && !flag.dynamic) = true
          · simp [locked, same]
          · simp [locked]

theorem lookup?_apply_other (different : other ≠ name)
    (registry : FlagSet V) (value : Option String) (onlyDynamic : Bool) :
    (registry.apply name value onlyDynamic).2.lookup? other =
      registry.lookup? other := by
  by_cases reached : ∃ text flag, value = some text ∧
      registry.Reaches onlyDynamic name text flag
  · obtain ⟨text, flag, rfl, reaches⟩ := reached
    rw [apply_of_reaches reaches, lookup?_replace, if_neg different]
  · push Not at reached
    obtain ⟨error, applied, _⟩ := apply_of_not_reaches reached
    rw [applied]

/-- The values of two flags can be applied in either order. -/
theorem apply_comm (different : name ≠ other) (registry : FlagSet V)
    (value otherValue : Option String) (onlyDynamic : Bool) :
    ((registry.apply name value onlyDynamic).2.apply other otherValue
        onlyDynamic).1 = (registry.apply other otherValue onlyDynamic).1 ∧
      ((registry.apply name value onlyDynamic).2.apply other otherValue
          onlyDynamic).2 =
        ((registry.apply other otherValue onlyDynamic).2.apply name value
          onlyDynamic).2 := by
  have otherKept :=
    lookup?_apply_other different.symm registry value onlyDynamic
  have nameKept :=
    lookup?_apply_other different registry otherValue onlyDynamic
  obtain ⟨otherOutcome, otherFlag⟩ :=
    apply_congr otherKept otherValue onlyDynamic
  obtain ⟨_, nameFlag⟩ := apply_congr nameKept value onlyDynamic
  refine ⟨otherOutcome, ext_lookup? fun sought => ?_⟩
  by_cases isName : sought = name
  · subst isName
    rw [nameFlag, lookup?_apply_other different]
  · by_cases isOther : sought = other
    · subst isOther
      rw [otherFlag, lookup?_apply_other isName]
    · rw [lookup?_apply_other isOther, lookup?_apply_other isName,
        lookup?_apply_other isName, lookup?_apply_other isOther]

/-- Whatever is reported of an entry is about the flag that it is for. -/
theorem filter_complaints_other (different : name ≠ other)
    (registry : FlagSet V) (value : Option String) (onlyDynamic : Bool) :
    ((registry.apply name value onlyDynamic).1.complaints onlyDynamic).filter
      (Error.isAbout other) = [] := by
  by_cases reached : ∃ text flag, value = some text ∧
      registry.Reaches onlyDynamic name text flag
  · obtain ⟨text, flag, rfl, reaches⟩ := reached
    rw [apply_of_reaches reaches]
    cases (flag.set text).1 <;>
      simp [Outcome.ofFlag, Outcome.complaints, Error.isAbout, different]
  · push Not at reached
    obtain ⟨error, applied, reason⟩ := apply_of_not_reaches reached
    rw [applied]
    rcases reason with rfl | rfl | ⟨rfl, rfl⟩ <;>
      simp [Outcome.complaints, Error.isAbout, different]

end FlagSet

namespace Load

variable {directory name : String} {onlyDynamic : Bool}

/-- What visiting an entry does, by what applying it does. -/
theorem visit_of_named {load : Load V} (onlyDynamic : Bool)
    (running : load.crash = none) {node : Node}
    (named : flagName directory node.key node.isDirectory = .ok name) :
    let applied := load.flags.apply name (some node.value) onlyDynamic
    (load.visit directory onlyDynamic node).flags = applied.2 ∧
      (load.visit directory onlyDynamic node).applied =
        load.applied + applied.1.count ∧
      (load.visit directory onlyDynamic node).failures =
        load.failures ++ applied.1.complaints onlyDynamic := by
  intro applied
  have visited : load.visit directory onlyDynamic node =
      load.applyNode onlyDynamic name node := by
    simp [visit, running, named]
  have parted : applied = (applied.1, applied.2) := rfl
  rw [visited, applyNode]
  change load.flags.apply name (some node.value) onlyDynamic = _ at parted
  rw [parted]
  generalize applied.1 = outcome
  cases outcome with
  | failed error =>
      cases error <;> cases onlyDynamic <;>
        simp [Outcome.count, Outcome.complaints, fail]
  | _ => simp [Outcome.count, Outcome.complaints]

theorem visit_of_unnamed {load : Load V} (onlyDynamic : Bool)
    (running : load.crash = none) {node : Node}
    (unnamed : ∀ name,
      flagName directory node.key node.isDirectory ≠ .ok name) :
    (load.visit directory onlyDynamic node).flags = load.flags ∧
      (load.visit directory onlyDynamic node).applied = load.applied ∧
      (load.visit directory onlyDynamic node).failures = load.failures := by
  cases named : flagName directory node.key node.isDirectory with
  | error reason => simp [visit, running, named]
  | ok name => exact absurd named (unnamed name)

/-- A load of flags that do not crash, which has not been cut short. -/
structure IsSafe (load : Load V) : Prop where
  running : load.crash = none
  sturdy : load.flags.Every fun _ flag => FlagValue.Sturdy flag.value

theorem IsSafe.visit {load : Load V} (safe : load.IsSafe) (directory : String)
    (onlyDynamic : Bool) (node : Node) :
    (load.visit directory onlyDynamic node).IsSafe where
  running := visit_crash safe.sturdy safe.running node
  sturdy := visit_every sturdy_isStable safe.sturdy node

/-- Two loads agree on the flag with a name and on what failed for it. -/
structure AgreesOn (name : String) (left right : Load V) : Prop where
  flag : left.flags.lookup? name = right.flags.lookup? name
  failures : left.failures.filter (Error.isAbout name) =
    right.failures.filter (Error.isAbout name)

namespace AgreesOn

variable {left right : Load V}

omit [FlagValue V] in
theorem begin {left right : FlagSet V}
    (same : left.lookup? name = right.lookup? name) :
    AgreesOn name { flags := left } { flags := right } :=
  ⟨same, rfl⟩

/-- A node that is no leaf of a flag does nothing for it. -/
theorem visit_left (agrees : AgreesOn name left right)
    (running : left.crash = none) {node : Node}
    (other : isLeafOf directory name node = false) :
    AgreesOn name (left.visit directory onlyDynamic node) right := by
  have different : flagName directory node.key node.isDirectory ≠ .ok name := by
    intro named
    obtain ⟨leaf, key, _⟩ := flagName_eq_ok_iff.mp named
    simp [isLeafOf, leaf, key] at other
  constructor
  · rw [lookup?_visit_other running different]
    exact agrees.flag
  · by_cases named : ∃ actual,
        flagName directory node.key node.isDirectory = .ok actual
    · obtain ⟨actual, named⟩ := named
      obtain ⟨_, _, failures⟩ := visit_of_named onlyDynamic running named
      have apart : actual ≠ name := fun same => different (same ▸ named)
      rw [failures, List.filter_append,
        FlagSet.filter_complaints_other apart, List.append_nil]
      exact agrees.failures
    · push Not at named
      rw [(visit_of_unnamed onlyDynamic running named).2.2]
      exact agrees.failures

/-- A node does the same for a flag in both loads. -/
theorem visit (agrees : AgreesOn name left right)
    (leftRunning : left.crash = none) (rightRunning : right.crash = none)
    {node : Node} (leaf : isLeafOf directory name node = true) :
    AgreesOn name (left.visit directory onlyDynamic node)
      (right.visit directory onlyDynamic node) := by
  by_cases named : ∃ actual,
      flagName directory node.key node.isDirectory = .ok actual
  · obtain ⟨actual, named⟩ := named
    obtain ⟨leftFlags, _, leftFailures⟩ :=
      visit_of_named onlyDynamic leftRunning named
    obtain ⟨rightFlags, _, rightFailures⟩ :=
      visit_of_named onlyDynamic rightRunning named
    obtain rfl : actual = name := by
      simp only [isLeafOf, Bool.and_eq_true, decide_eq_true_eq] at leaf
      have key := (flagName_eq_ok_iff.mp named).2.1
      exact (String.append_right_inj _).mp (key.symm.trans leaf.2)
    obtain ⟨outcome, flag⟩ :=
      FlagSet.apply_congr agrees.flag (some node.value) onlyDynamic
    constructor
    · rw [leftFlags, rightFlags]
      exact flag
    · rw [leftFailures, rightFailures, List.filter_append, List.filter_append,
        agrees.failures, outcome]
  · push Not at named
    obtain ⟨leftFlags, _, leftFailures⟩ :=
      visit_of_unnamed onlyDynamic leftRunning named
    obtain ⟨rightFlags, _, rightFailures⟩ :=
      visit_of_unnamed onlyDynamic rightRunning named
    constructor
    · rw [leftFlags, rightFlags]
      exact agrees.flag
    · rw [leftFailures, rightFailures]
      exact agrees.failures

theorem foldl_filter (agrees : AgreesOn name left right)
    (leftSafe : left.IsSafe) (rightSafe : right.IsSafe) (nodes : List Node) :
    AgreesOn name (nodes.foldl (Load.visit directory onlyDynamic) left)
      ((nodes.filter (isLeafOf directory name)).foldl
        (Load.visit directory onlyDynamic) right) := by
  induction nodes generalizing left right with
  | nil => exact agrees
  | cons node later induction =>
      have visited := IsSafe.visit leftSafe directory onlyDynamic node
      by_cases leaf : isLeafOf directory name node = true
      · rw [List.filter_cons_of_pos leaf]
        exact induction (agrees.visit leftSafe.running rightSafe.running leaf)
          visited (IsSafe.visit rightSafe directory onlyDynamic node)
      · rw [List.filter_cons_of_neg leaf]
        have other : isLeafOf directory name node = false := by simpa using leaf
        exact induction (agrees.visit_left leftSafe.running other) visited
          rightSafe

end AgreesOn

theorem IsSafe.begin {flags : FlagSet V}
    (sturdy : flags.Every fun _ flag => FlagValue.Sturdy flag.value) :
    ({ flags } : Load V).IsSafe :=
  ⟨rfl, sturdy⟩

end Load

namespace Load

/-- Two loads come to the same, the order of what failed aside. -/
structure Matches (left right : Load V) : Prop where
  flags : left.flags = right.flags
  applied : left.applied = right.applied
  failures : left.failures.Perm right.failures

/-- Two nodes are not leaves of one key. -/
def AreApart (first second : Node) : Prop :=
  first.isDirectory = false → second.isDirectory = false →
    first.key ≠ second.key

omit [FlagValue V] in
theorem AreApart.symm {first second : Node} (apart : AreApart first second) :
    AreApart second first :=
  fun secondLeaf firstLeaf => (apart firstLeaf secondLeaf).symm

namespace Matches

variable {directory : String} {onlyDynamic : Bool}
variable {left right last load : Load V}

omit [FlagValue V] in
theorem refl (load : Load V) : Matches load load :=
  ⟨rfl, rfl, .refl _⟩

omit [FlagValue V] in
theorem symm (same : Matches left right) : Matches right left :=
  ⟨same.flags.symm, same.applied.symm, same.failures.symm⟩

omit [FlagValue V] in
theorem trans (first : Matches left right) (second : Matches right last) :
    Matches left last :=
  ⟨first.flags.trans second.flags, first.applied.trans second.applied,
    first.failures.trans second.failures⟩

theorem of_unnamed (onlyDynamic : Bool) (running : load.crash = none)
    {node : Node}
    (unnamed : ∀ name,
      flagName directory node.key node.isDirectory ≠ .ok name) :
    Matches (load.visit directory onlyDynamic node) load := by
  obtain ⟨flags, applied, failures⟩ :=
    visit_of_unnamed onlyDynamic running unnamed
  exact ⟨flags, applied, .of_eq failures⟩

theorem visit (same : Matches left right) (leftRunning : left.crash = none)
    (rightRunning : right.crash = none) (node : Node) :
    Matches (left.visit directory onlyDynamic node)
      (right.visit directory onlyDynamic node) := by
  by_cases named : ∃ name,
      flagName directory node.key node.isDirectory = .ok name
  · obtain ⟨name, named⟩ := named
    obtain ⟨leftFlags, leftApplied, leftFailures⟩ :=
      visit_of_named onlyDynamic leftRunning named
    obtain ⟨rightFlags, rightApplied, rightFailures⟩ :=
      visit_of_named onlyDynamic rightRunning named
    refine ⟨?_, ?_, ?_⟩
    · rw [leftFlags, rightFlags, same.flags]
    · rw [leftApplied, rightApplied, same.applied, same.flags]
    · rw [leftFailures, rightFailures, same.flags]
      exact same.failures.append_right _
  · push Not at named
    exact (of_unnamed onlyDynamic leftRunning named).trans
      (same.trans (of_unnamed onlyDynamic rightRunning named).symm)

/-- Two nodes that are not leaves of one key can be visited in either
order. -/
theorem swap (safe : load.IsSafe) {first second : Node}
    (apart : AreApart first second) :
    Matches
      ((load.visit directory onlyDynamic first).visit directory onlyDynamic
        second)
      ((load.visit directory onlyDynamic second).visit directory onlyDynamic
        first) := by
  have afterFirst := (IsSafe.visit safe directory onlyDynamic first).running
  have afterSecond := (IsSafe.visit safe directory onlyDynamic second).running
  by_cases firstNamed : ∃ name,
      flagName directory first.key first.isDirectory = .ok name
  · by_cases secondNamed : ∃ name,
        flagName directory second.key second.isDirectory = .ok name
    · obtain ⟨name, firstNamed⟩ := firstNamed
      obtain ⟨other, secondNamed⟩ := secondNamed
      have different : name ≠ other := by
        rintro rfl
        obtain ⟨firstLeaf, firstKey, _⟩ := flagName_eq_ok_iff.mp firstNamed
        obtain ⟨secondLeaf, secondKey, _⟩ := flagName_eq_ok_iff.mp secondNamed
        exact apart firstLeaf secondLeaf (firstKey.trans secondKey.symm)
      obtain ⟨flagsFirst, countFirst, failedFirst⟩ :=
        visit_of_named onlyDynamic safe.running firstNamed
      obtain ⟨flagsSecond, countSecond, failedSecond⟩ :=
        visit_of_named onlyDynamic safe.running secondNamed
      obtain ⟨flagsThen, countThen, failedThen⟩ :=
        visit_of_named onlyDynamic afterFirst secondNamed
      obtain ⟨flagsElse, countElse, failedElse⟩ :=
        visit_of_named onlyDynamic afterSecond firstNamed
      obtain ⟨otherOutcome, flags⟩ := FlagSet.apply_comm different load.flags
        (some first.value) (some second.value) onlyDynamic
      obtain ⟨nameOutcome, _⟩ := FlagSet.apply_comm different.symm load.flags
        (some second.value) (some first.value) onlyDynamic
      rw [flagsFirst] at flagsThen countThen failedThen
      rw [flagsSecond] at flagsElse countElse failedElse
      rw [otherOutcome] at countThen failedThen
      rw [nameOutcome] at countElse failedElse
      refine ⟨?_, ?_, ?_⟩
      · rw [flagsThen, flagsElse, flags]
      · rw [countThen, countElse, countFirst, countSecond, Nat.add_right_comm]
      · rw [failedThen, failedElse, failedFirst, failedSecond,
          List.append_assoc, List.append_assoc]
        exact List.perm_append_comm.append_left _
    · push Not at secondNamed
      have skipped := of_unnamed onlyDynamic safe.running
        secondNamed
      exact (of_unnamed onlyDynamic afterFirst secondNamed).trans
        (skipped.symm.visit safe.running afterSecond first)
  · push Not at firstNamed
    have skipped := of_unnamed onlyDynamic safe.running
      firstNamed
    exact (skipped.visit afterFirst safe.running second).trans
      (of_unnamed onlyDynamic afterSecond firstNamed).symm

theorem foldl (same : Matches left right) (leftSafe : left.IsSafe)
    (rightSafe : right.IsSafe) (nodes : List Node) :
    Matches (nodes.foldl (Load.visit directory onlyDynamic) left)
      (nodes.foldl (Load.visit directory onlyDynamic) right) := by
  induction nodes generalizing left right with
  | nil => exact same
  | cons node later induction =>
      exact induction (same.visit leftSafe.running rightSafe.running node)
        (IsSafe.visit leftSafe directory onlyDynamic node)
        (IsSafe.visit rightSafe directory onlyDynamic node)

theorem foldl_perm {nodes others : List Node} (permutation : nodes.Perm others)
    (apart : nodes.Pairwise AreApart) (same : Matches left right)
    (leftSafe : left.IsSafe) (rightSafe : right.IsSafe) :
    Matches (nodes.foldl (Load.visit directory onlyDynamic) left)
      (others.foldl (Load.visit directory onlyDynamic) right) := by
  induction permutation generalizing left right with
  | nil => exact same
  | cons node _ induction =>
      exact induction (List.pairwise_cons.mp apart).2
        (same.visit leftSafe.running rightSafe.running node)
        (IsSafe.visit leftSafe directory onlyDynamic node)
        (IsSafe.visit rightSafe directory onlyDynamic node)
  | swap second first later =>
      have leftFirst := IsSafe.visit leftSafe directory onlyDynamic first
      have rightSecond := IsSafe.visit rightSafe directory onlyDynamic second
      have leftSecond := IsSafe.visit leftSafe directory onlyDynamic second
      have different :=
        (List.pairwise_cons.mp apart).1 second List.mem_cons_self
      have reordered := (swap leftSafe different).trans
        ((same.visit leftSafe.running rightSafe.running second).visit
          leftSecond.running rightSecond.running first)
      exact reordered.foldl
        (IsSafe.visit leftFirst directory onlyDynamic second)
        (IsSafe.visit rightSecond directory onlyDynamic first) later
  | trans first _ firstInduction secondInduction =>
      have middle := (first.pairwise_iff AreApart.symm).mp apart
      exact (firstInduction apart same leftSafe rightSafe).trans
        (secondInduction middle (refl right) rightSafe rightSafe)

end Matches

end Load

/-- The write that undoes a change, if it was refused. -/
def ChangeEvent.undoing (event : ChangeEvent) : Verdict → List WriteCommand
  | .refused _ => [event.undo]
  | _ => []

omit [FlagValue V] in
theorem ChangeEvent.Concerns.congr {event : ChangeEvent}
    {directory name text : String} {left right : FlagSet V} {flag : Flag V}
    (same : left.lookup? name = right.lookup? name)
    (concerns : event.Concerns directory left name text flag) :
    event.Concerns directory right name text flag :=
  ⟨concerns.named, concerns.brings, same ▸ concerns.reaches.found,
    concerns.reaches.allowed, concerns.reaches.filled⟩

/-- A change of the key of a flag is handled by what the flag is. -/
theorem handleEvent_congr {directory name : String} {left right : FlagSet V}
    (same : left.lookup? name = right.lookup? name) {event : ChangeEvent}
    (key : event.key = directory ++ name) :
    (handleEvent directory left event).verdict =
        (handleEvent directory right event).verdict ∧
      (handleEvent directory left event).flags.lookup? name =
        (handleEvent directory right event).flags.lookup? name := by
  have onlyName : ∀ {flags : FlagSet V} {other text flag},
      event.Concerns directory flags other text flag → other = name := by
    intro flags other text flag concerns
    have there := (flagName_eq_ok_iff.mp concerns.named).2.1
    exact (String.append_right_inj _).mp (there.symm.trans key)
  by_cases concerned : ∃ text flag,
      event.Concerns directory left name text flag
  · obtain ⟨text, flag, concerns⟩ := concerned
    obtain ⟨leftVerdict, leftFlags⟩ := handleEvent_of_concerns concerns
    obtain ⟨rightVerdict, rightFlags⟩ :=
      handleEvent_of_concerns (concerns.congr same)
    simp [leftVerdict, leftFlags, rightVerdict, rightFlags]
  · push Not at concerned
    have leftMissed : ∀ other text flag,
        ¬ event.Concerns directory left other text flag :=
      fun other text flag concerns =>
        concerned text flag (onlyName concerns ▸ concerns)
    have rightMissed : ∀ other text flag,
        ¬ event.Concerns directory right other text flag :=
      fun other text flag concerns =>
        concerned text flag ((onlyName concerns ▸ concerns).congr same.symm)
    obtain ⟨leftVerdict, leftFlags⟩ := handleEvent_of_not_concerns leftMissed
    obtain ⟨rightVerdict, rightFlags⟩ := handleEvent_of_not_concerns rightMissed
    simp [leftVerdict, leftFlags, rightVerdict, rightFlags, same]

/-- What a synchronizer takes in: a snapshot that it loads, or a change that it
handles. -/
inductive Intake where
  | snapshot (onlyDynamic : Bool) (nodes : List Node)
  | change (event : ChangeEvent)
deriving DecidableEq, Repr

/-- What of an intake is about the flag with a name. -/
def Intake.about? (directory name : String) : Intake → Option Intake
  | .snapshot onlyDynamic nodes =>
      some (.snapshot onlyDynamic (nodes.filter (Load.isLeafOf directory name)))
  | .change event =>
      if event.key = directory ++ name then some (.change event) else none

/-- Flags that are kept up to date. -/
structure Upkeep (V : Type) where
  flags : FlagSet V
  /-- What failed in each of the loads. -/
  failures : List (List Error) := []
  /-- The writes that undo what was refused. -/
  writes : List WriteCommand := []

namespace Upkeep

/-- Flags are loaded from a snapshot, or a change is handled. -/
def step (directory : String) (upkeep : Upkeep V) : Intake → Upkeep V
  | .snapshot onlyDynamic nodes =>
      let load := Load.ofNodes directory onlyDynamic upkeep.flags nodes
      { upkeep with
        flags := load.flags
        failures := upkeep.failures ++ [load.failures] }
  | .change event =>
      let handling := handleEvent directory upkeep.flags event
      { upkeep with
        flags := handling.flags
        writes := upkeep.writes ++ event.undoing handling.verdict }

def run (directory : String) (upkeep : Upkeep V) (intakes : List Intake) :
    Upkeep V :=
  intakes.foldl (step directory) upkeep

/-- Two upkeeps agree on the flag with a name: on its state, on what each load
reported about it and on the writes to its key. -/
structure AgreesOn (directory name : String) (left right : Upkeep V) :
    Prop where
  flag : left.flags.lookup? name = right.flags.lookup? name
  failures : left.failures.map (List.filter (Error.isAbout name)) =
    right.failures.map (List.filter (Error.isAbout name))
  writes : (left.writes.filter fun command => command.key = directory ++ name) =
    right.writes.filter fun command => command.key = directory ++ name

theorem sturdy_step (directory : String) {upkeep : Upkeep V}
    (sturdy : upkeep.flags.Every fun _ flag => FlagValue.Sturdy flag.value)
    (intake : Intake) :
    (upkeep.step directory intake).flags.Every fun _ flag =>
      FlagValue.Sturdy flag.value := by
  cases intake with
  | snapshot onlyDynamic nodes =>
      exact Load.foldl_visit_every Load.sturdy_isStable sturdy nodes
  | change event => exact handleEvent_every Load.sturdy_isStable sturdy event

theorem filter_undoing_other {directory name : String} {event : ChangeEvent}
    (other : event.key ≠ directory ++ name) (verdict : Verdict) :
    ((event.undoing verdict).filter fun command =>
      command.key = directory ++ name) = [] := by
  cases verdict <;> simp [ChangeEvent.undoing, MemoryStore.undo_key, other]

namespace AgreesOn

variable {directory name : String} {left right last : Upkeep V}

omit [FlagValue V] in
theorem refl (directory name : String) (upkeep : Upkeep V) :
    AgreesOn directory name upkeep upkeep :=
  ⟨rfl, rfl, rfl⟩

omit [FlagValue V] in
theorem begin (directory : String) {left right : FlagSet V}
    (same : left.lookup? name = right.lookup? name) :
    AgreesOn directory name { flags := left } { flags := right } :=
  ⟨same, rfl, rfl⟩

omit [FlagValue V] in
theorem symm (agrees : AgreesOn directory name left right) :
    AgreesOn directory name right left :=
  ⟨agrees.flag.symm, agrees.failures.symm, agrees.writes.symm⟩

omit [FlagValue V] in
theorem trans (first : AgreesOn directory name left right)
    (second : AgreesOn directory name right last) :
    AgreesOn directory name left last :=
  ⟨first.flag.trans second.flag, first.failures.trans second.failures,
    first.writes.trans second.writes⟩

/-- A run agrees on a flag with the run that takes in nothing but what is about
this flag. -/
theorem run_about (agrees : AgreesOn directory name left right)
    (leftSturdy : left.flags.Every fun _ flag => FlagValue.Sturdy flag.value)
    (rightSturdy : right.flags.Every fun _ flag => FlagValue.Sturdy flag.value)
    (intakes : List Intake) :
    AgreesOn directory name (left.run directory intakes)
      (right.run directory
        (intakes.filterMap (Intake.about? directory name))) := by
  induction intakes generalizing left right with
  | nil => exact agrees
  | cons intake later induction =>
      have leftNext := sturdy_step directory leftSturdy intake
      cases intake with
      | snapshot onlyDynamic nodes =>
          have about : Intake.about? directory name
              (.snapshot onlyDynamic nodes) = some (.snapshot onlyDynamic
                (nodes.filter (Load.isLeafOf directory name))) := rfl
          have loaded : Load.AgreesOn name
              (.ofNodes directory onlyDynamic left.flags nodes)
              (.ofNodes directory onlyDynamic right.flags
                (nodes.filter (Load.isLeafOf directory name))) :=
            (Load.AgreesOn.begin agrees.flag).foldl_filter (.begin leftSturdy)
              (.begin rightSturdy) nodes
          rw [List.filterMap_cons_some about]
          refine induction ⟨loaded.flag, ?_, agrees.writes⟩ leftNext
            (sturdy_step directory rightSturdy _)
          simp only [step, List.map_append, agrees.failures, List.map_cons,
            loaded.failures]
      | change event =>
          by_cases key : event.key = directory ++ name
          · have about : Intake.about? directory name (.change event) =
                some (.change event) := if_pos key
            obtain ⟨verdict, flag⟩ := handleEvent_congr agrees.flag key
            rw [List.filterMap_cons_some about]
            refine induction ⟨flag, agrees.failures, ?_⟩ leftNext
              (sturdy_step directory rightSturdy _)
            simp only [step, List.filter_append, agrees.writes, verdict]
          · have about : Intake.about? directory name (.change event) = none :=
              if_neg key
            rw [List.filterMap_cons_none about]
            refine induction ⟨?_, agrees.failures, ?_⟩ leftNext rightSturdy
            · exact (lookup?_handleEvent_other key).trans agrees.flag
            · simp only [step, List.filter_append, filter_undoing_other key,
                List.append_nil]
              exact agrees.writes

/-- Runs that take in the same about a flag agree on it. -/
theorem run (agrees : AgreesOn directory name left right)
    (leftSturdy : left.flags.Every fun _ flag => FlagValue.Sturdy flag.value)
    (rightSturdy : right.flags.Every fun _ flag => FlagValue.Sturdy flag.value)
    {leftIntakes rightIntakes : List Intake}
    (same : leftIntakes.filterMap (Intake.about? directory name) =
      rightIntakes.filterMap (Intake.about? directory name)) :
    AgreesOn directory name (left.run directory leftIntakes)
      (right.run directory rightIntakes) := by
  have first := agrees.run_about leftSturdy rightSturdy leftIntakes
  have second := (refl directory name right).run_about rightSturdy rightSturdy
    rightIntakes
  rw [same] at first
  exact first.trans second.symm

end AgreesOn

theorem run_append (directory : String) (upkeep : Upkeep V)
    (earlier later : List Intake) :
    upkeep.run directory (earlier ++ later) =
      (upkeep.run directory earlier).run directory later :=
  List.foldl_append

end Upkeep

end LiveFlags
