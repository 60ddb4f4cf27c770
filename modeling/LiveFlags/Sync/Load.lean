import LiveFlags.Sync.World

/-!
# Applying entries to flags

Which flag a key stands for, what it takes to apply a value to a flag, and the
load of a whole snapshot, which attempts every entry and collects what failed.
-/

namespace LiveFlags

/-- The name of the flag that a key stands for: only a direct leaf of the
directory is one. -/
def flagName (directory key : String) (isDirectory : Bool) :
    Except Error String :=
  if isDirectory then .error (.invalidKey key "is a directory entry")
  else
    match Key.below? directory key with
    | none =>
      .error (.invalidKey key s!"doesn't start with prefix '{directory}'")
    | some name =>
      if name = "" then .error (.invalidKey key "has no flag name")
      else if Key.hasSeparator name then
        .error (.invalidKey key s!"isn't a direct leaf of prefix '{directory}'")
      else .ok name

namespace FlagSet

variable {V : Type} [FlagValue V]

/-- Apply a value to the flag with a name; a missing value and an empty one are
the same.  With `onlyDynamic`, a flag for start-up only is left alone. -/
def apply (registry : FlagSet V) (name : String) (value : Option String)
    (onlyDynamic : Bool) : Outcome × FlagSet V :=
  match value.filter fun text => text ≠ "" with
  | none => (.failed (.noValuePresent name), registry)
  | some text =>
    match registry.lookup? name with
    | none => (.failed (.flagLookupFailed name), registry)
    | some flag =>
      if onlyDynamic && !flag.dynamic then
        (.failed (.flagNotDynamic name), registry)
      else
        let (outcome, flag) := flag.set text
        let outcome := match outcome with
          | .failed error => .failed (.flagRejected name error)
          | outcome => outcome
        (outcome, registry.replace name flag)

end FlagSet

/-- The state of a load: the flags so far, how many entries were applied, what
failed and what there is to tell.  A load that crashed goes no further. -/
structure Load (V : Type) where
  flags : FlagSet V
  applied : Nat := 0
  failures : List Error := []
  notices : List Notice := []
  crash : Option String := none

namespace Load

variable {V : Type} [FlagValue V]

omit [FlagValue V] in
def fail (load : Load V) (error : Error) : Load V :=
  { load with
    failures := load.failures ++ [error]
    notices := load.notices ++ [.entryFailed error] }

/-- Apply the value of one node to the flag with a name. -/
def applyNode (onlyDynamic : Bool) (load : Load V) (name : String)
    (node : Node) : Load V :=
  let (outcome, flags) := load.flags.apply name (some node.value) onlyDynamic
  let load := { load with flags }
  match outcome with
  | .done =>
    { load with
      applied := load.applied + 1
      notices := load.notices ++ [.entryApplied name node.index] }
  | .failed (.noValuePresent _) => load
  | .failed (.flagNotDynamic flag) =>
    if onlyDynamic then load else load.fail (.flagNotDynamic flag)
  | .failed error => load.fail error
  | .crashed detail => { load with crash := some detail }

def visit (directory : String) (onlyDynamic : Bool) (load : Load V)
    (node : Node) : Load V :=
  if load.crash.isSome then load
  else
    match flagName directory node.key node.isDirectory with
    | .error reason =>
      { load with notices := load.notices ++ [.entryIgnored reason] }
    | .ok name => load.applyNode onlyDynamic name node

/-- Apply all nodes of a snapshot in order. -/
def ofNodes (directory : String) (onlyDynamic : Bool) (flags : FlagSet V)
    (nodes : List Node) : Load V :=
  nodes.foldl (visit directory onlyDynamic) { flags }

end Load

/-- What came of reading the directory and applying it. -/
inductive LoadResult where
  | loaded (index applied : Nat) (failures : List Error)
  | unreadable (error : StoreError)
  | crashed (detail : String)

/-- Read the whole directory and apply every entry. -/
def World.load {V S W : Type} [FlagValue V] [KeyValueStore S W]
    (world : World V S) (directory : String) (onlyDynamic : Bool) :
    LoadResult × World V S :=
  match world.read directory .everything with
  | (.error error, world) => (.unreadable error, world)
  | (.ok snapshot, world) =>
    let load := Load.ofNodes directory onlyDynamic world.flags snapshot.nodes
    let world :=
      ({ world with flags := load.flags } : World V S).tellAll load.notices
    match load.crash with
    | some detail => (.crashed detail, world)
    | none => (.loaded snapshot.index load.applied load.failures, world)

end LiveFlags
