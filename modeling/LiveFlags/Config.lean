import LiveFlags.Error
import LiveFlags.Json.Diagnosis
import LiveFlags.Json.Printer
import LiveFlags.Json.Reader
import LiveFlags.Key
import LiveFlags.Text.Blank

/-!
# Settings

Which directory of the store holds the flags, and how long a watcher pauses
after each kind of failure.  Settings are read from JSON, where only the
directory must be given.
-/

namespace LiveFlags

/-- Pauses of a watcher, in milliseconds. -/
structure WatchTiming where
  /-- Before everything is read again because the history was compacted. -/
  recoveryDelay : Nat := 200
  /-- Before a retry when no member of the cluster answered. -/
  clusterRetryDelay : Nat := 100
  /-- Before a retry after any other failure. -/
  backoffBase : Nat := 1000
  /-- The greatest random extension of that pause. -/
  backoffJitter : Nat := 500
deriving DecidableEq, Repr, Inhabited

/-- The settings of a synchronizer. -/
structure Config where
  /-- The directory whose direct leaves are flags. -/
  directory : String
  watch : WatchTiming := {}
deriving DecidableEq, Repr, Inhabited

namespace WatchTiming

/-- A watcher must not retry at once after an unknown failure. -/
def validate (timing : WatchTiming) : Except Error Unit :=
  if timing.backoffBase = 0 ∧ timing.backoffJitter = 0 then
    .error (.config "Watch backoff must be > 0 (base or jitter)")
  else .ok ()

/-- The JSON object with the pauses in order. -/
def toJson (timing : WatchTiming) : Json :=
  .record [("recovery_delay_ms", .integer timing.recoveryDelay),
    ("cluster_retry_delay_ms", .integer timing.clusterRetryDelay),
    ("backoff_base_ms", .integer timing.backoffBase),
    ("backoff_jitter_ms", .integer timing.backoffJitter)]

/-- A pause that may be left out. -/
def pause? (default : Nat) : Option Json → Option Nat :=
  Json.fieldOr default (Json.natural? UInt64.size)

/-- Pauses from a JSON record; what is left out has its default. -/
def ofJson? (json : Json) : Option WatchTiming :=
  let standard : WatchTiming := {}
  match json.fields? ["recovery_delay_ms", "cluster_retry_delay_ms",
    "backoff_base_ms", "backoff_jitter_ms"] with
  | some [recovery, cluster, base, jitter] => do
    return {
      recoveryDelay := ← pause? standard.recoveryDelay recovery
      clusterRetryDelay := ← pause? standard.clusterRetryDelay cluster
      backoffBase := ← pause? standard.backoffBase base
      backoffJitter := ← pause? standard.backoffJitter jitter }
  | _ => none

end WatchTiming

namespace Config

/-- The directory with its closing separator. -/
def normalized (config : Config) : String := Key.asDirectory config.directory

/-- The directory must not be blank, and the pauses must be usable. -/
def validate (config : Config) : Except Error Unit :=
  if Text.trim config.directory = "" then
    .error (.config "Store prefix cannot be empty")
  else config.watch.validate

def toJson (config : Config) : Json :=
  .record [("prefix", .text config.directory), ("watch", config.watch.toJson)]

def ofJson? (json : Json) : Option Config :=
  match json.fields? ["prefix", "watch"] with
  | some [directory, watch] => do
    return {
      directory := ← directory.bind Json.text?
      watch := ← Json.fieldOr {} WatchTiming.ofJson? watch }
  | _ => none

def ofText? (text : String) : Except Error Config :=
  match (Json.ofText? text).bind ofJson? with
  | some config => .ok config
  | none => .error (.json ((Json.diagnose? text).getD omittedDetail))

end Config

/-- The words for a span of milliseconds: below a second in milliseconds, from
there in seconds with as many places as needed. -/
def durationText (milliseconds : Nat) : String :=
  if milliseconds = 0 then "0ns"
  else if milliseconds < 1000 then s!"{milliseconds}ms"
  else
    let thousandths := (toString (1000 + milliseconds % 1000)).toList.drop 1
    match (thousandths.reverse.dropWhile (· = '0')).reverse with
    | [] => s!"{milliseconds / 1000}s"
    | places => s!"{milliseconds / 1000}.{String.ofList places}s"

end LiveFlags
