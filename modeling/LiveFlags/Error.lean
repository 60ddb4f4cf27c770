/-!
# Failures

What can go wrong with a store and with the flags kept in step with it.  Each
failure is a cause; `message` gives its words.
-/

namespace LiveFlags

/-- Failures of a key-value store, classed by what a watcher does about them. -/
inductive StoreError where
  /-- The history after `requested` no longer reaches back far enough. -/
  | compacted (requested oldest : Nat)
  /-- No member of the cluster could serve the request. -/
  | clusterUnavailable (detail : String)
  | timeout
  | cancelled
  /-- The index a write was conditioned on is not the key's. -/
  | conditionFailed (key : String) (expected actual : Nat)
  | keyNotFound (key : String)
  | other (detail : String)
deriving DecidableEq, Repr, Inhabited

/-- The words for a failure of a store. -/
def StoreError.message : StoreError → String
  | compacted requested oldest =>
    s!"event index {requested} cleared, oldest retained is {oldest}"
  | clusterUnavailable detail => s!"cluster unavailable: {detail}"
  | timeout => "deadline exceeded"
  | cancelled => "request cancelled"
  | conditionFailed key expected actual =>
    s!"compare failed on '{key}': expected index {expected}, found {actual}"
  | keyNotFound key => s!"key not found: {key}"
  | other detail => detail

/-- Stands for the words of a reader, which are not kept. -/
def omittedDetail : String := "<detail>"

/-- Failures of flags and of keeping them in step with a store. -/
inductive Error where
  /-- The initial load was asked for a second time. -/
  | alreadyInitialized
  /-- Watching was asked for before the initial load. -/
  | notInitialized
  /-- Watching was asked for while a watch loop is active. -/
  | alreadyWatching
  /-- Stopping was asked for without an active watch loop. -/
  | notWatching
  | flagLookupFailed (flag : String)
  /-- The flag may be set at start-up only. -/
  | flagNotDynamic (flag : String)
  /-- The store holds no value for the flag. -/
  | noValuePresent (flag : String)
  /-- A key of the store that stands for no flag. -/
  | invalidKey (key reason : String)
  /-- An input that the type of a flag cannot read. -/
  | parse (detail : String)
  | validation (detail : String)
  /-- A flag that failed to take a value. -/
  | flagRejected (flag : String) (source : Error)
  | initialLoad (failures : List Error)
  | store (source : StoreError)
  | duplicateFlag (flag : String)
  | config (detail : String)
  | json (detail : String)
  | other (detail : String)
deriving Inhabited

namespace Error

mutual

def message : Error → String
  | alreadyInitialized => "flagsync: already initialized"
  | notInitialized => "flagsync: not initialized"
  | alreadyWatching => "flagsync: already watching"
  | notWatching => "flagsync: not watching"
  | flagLookupFailed flag => s!"flag={flag} was not found"
  | flagNotDynamic flag => s!"flag={flag} is not dynamic"
  | noValuePresent flag => s!"no value for flag={flag}"
  | invalidKey key reason => s!"key '{key}' {reason}"
  | parse detail => s!"parse error: {detail}"
  | validation detail => s!"validation error: {detail}"
  | flagRejected flag source => s!"flag={flag} rejected value: {source.message}"
  | initialLoad failures =>
    s!"flagsync: encountered {failures.length} errors " ++
      "while applying flags from store:\n  " ++
      String.intercalate "\n  " (messages failures)
  | store source => s!"store error: {source.message}"
  | duplicateFlag flag => s!"flag={flag} is already registered"
  | config detail => s!"Configuration error: {detail}"
  | json detail => s!"JSON error: {detail}"
  | other detail => detail

def messages : List Error → List String
  | [] => []
  | failure :: rest => failure.message :: messages rest

end

/-- Whether a failure is the refusal of a value by a reader or a validator,
however deeply it is wrapped. -/
def isRejection : Error → Bool
  | parse _ | validation _ => true
  | flagRejected _ source => source.isRejection
  | _ => false

/-- The words for the causes behind a failure, nearest first. -/
def causes : Error → List String
  | flagRejected _ source => source.message :: source.causes
  | store source => [source.message]
  | json detail => [detail]
  | _ => []

end Error

end LiveFlags
