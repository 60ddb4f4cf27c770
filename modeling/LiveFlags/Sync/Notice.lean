import LiveFlags.Error
import LiveFlags.Store.Basic
import LiveFlags.Text.Quoted

/-!
# Notices

What a synchronizer tells its operators, each notice with its level and its
words.
-/

namespace LiveFlags

/-- How much a notice matters. -/
inductive Level where
  | debug
  | info
  | warn
deriving DecidableEq, Repr

def Level.name : Level → String
  | debug => "debug"
  | info => "info"
  | warn => "warn"

/-- The words for a task that crashed; which task it was is not told. -/
def crashText (detail : String) : String :=
  s!"task N panicked with message {Text.quoted detail}"

/-- What there is to tell. -/
inductive Notice where
  | initialized (applied : Nat) (directory : String) (index : Nat)
  | entryIgnored (reason : Error)
  | entryApplied (flag : String) (index : Nat)
  | entryFailed (error : Error)
  | stopping
  /-- The synchronizer went away with a watch loop active. -/
  | droppedWhileWatching
  | watcherStarted (index : Nat)
  | watcherExited (index : Nat)
  | changeIgnored (reason : Error) (index : Nat)
  | updated (flag value : String) (index : Nat)
  | actionIgnored (action : Action) (flag : String) (index : Nat)
  | unknownFlagIgnored (flag : String) (index : Nat)
  | updateIgnored (reason : Error) (index : Nat)
  | updateFailed (flag : String) (error : Error) (index : Nat)
  | rolledBack (flag : String)
  | rolledBackByDeletion (flag : String)
  /-- A change to undo was overtaken by another. -/
  | rollbackOvertaken (flag : String)
  | rollbackFailed (flag : String) (error : StoreError)
  | reread (applied index : Nat)
  | rereadFailed (error : Error) (index : Nat)
  | historyCompacted (error : StoreError) (index : Nat)
  | clusterFailed (error : StoreError) (index : Nat)
  | deadlineExceeded
  | watchCancelled
  | watchFailed (error : StoreError) (index : Nat)
  | watchClosed (index : Nat)
  /-- A notifier crashed on a task of its own. -/
  | notifierFailed (detail : String)
  /-- A notifier crashed on a thread of its own. -/
  | notifierCrashed

namespace Notice

def level : Notice → Level
  | entryApplied .. | droppedWhileWatching | changeIgnored .. | actionIgnored ..
  | unknownFlagIgnored .. | deadlineExceeded => .debug
  | initialized .. | entryIgnored .. | stopping | watcherStarted ..
  | watcherExited .. | updated .. | updateIgnored .. | rolledBack ..
  | rolledBackByDeletion .. | rollbackOvertaken .. | reread ..
  | historyCompacted .. | watchCancelled => .info
  | entryFailed .. | updateFailed .. | rollbackFailed .. | rereadFailed ..
  | clusterFailed .. | watchFailed .. | watchClosed .. | notifierFailed ..
  | notifierCrashed => .warn

/-- The words of a notice behind the name of the program. -/
def body : Notice → String
  | initialized applied directory index =>
    s!"initialized {applied} flag(s) from {directory} at index={index}"
  | entryIgnored reason => s!"ignoring: {reason.message}"
  | entryApplied flag index => s!"set flag={flag} from index={index}"
  | entryFailed error => error.message
  | stopping => "stopping"
  | droppedWhileWatching => "synchronizer dropped while watching, cancelling"
  | watcherStarted index => s!"watcher started at index={index}"
  | watcherExited index => s!"watcher exited at index={index}"
  | changeIgnored reason index => s!"ignoring {reason.message} at index={index}"
  | updated flag value index =>
    s!"updated flag={flag} to value={Text.quoted value} at index={index}"
  | actionIgnored action flag index =>
    s!"ignoring action={action.name} on flag={flag} at index={index}"
  | unknownFlagIgnored flag index =>
    s!"ignoring unknown flag={flag} at index={index}"
  | updateIgnored reason index =>
    s!"ignoring update at index={index}, because of: {reason.message}"
  | updateFailed flag error index =>
    s!"failed updating flag={flag} at index={index}, " ++
      s!"because of: {error.message}"
  | rolledBack flag => s!"rolled back flag={flag} to its previous value"
  | rolledBackByDeletion flag => s!"rolled back flag={flag} by deleting it"
  | rollbackOvertaken flag =>
    s!"rolled back flag={flag} was changed by someone else"
  | rollbackFailed flag error =>
    s!"rolling back flag={flag} failed, left unresolved: {error.message}"
  | reread applied index =>
    s!"re-read {applied} dynamic flag(s), resuming at index={index}"
  | rereadFailed error index =>
    s!"re-reading flags failed, resuming at index={index}: {error.message}"
  | historyCompacted error index =>
    s!"re-reading everything at index={index}: {error.message}"
  | clusterFailed error index =>
    s!"cluster error at index={index}, will retry: {error.message}"
  | deadlineExceeded => "deadline exceeded while watching, continuing"
  | watchCancelled => "watch cancelled by store"
  | watchFailed error index =>
    s!"store error at index={index}, " ++
      s!"restarting watch after backoff: {error.message}"
  | watchClosed index =>
    s!"watch stream closed at index={index}, reopening after backoff"
  | notifierFailed detail =>
    s!"value change notifier failed: {crashText detail}"
  | notifierCrashed => "value change notifier panicked"

def message (notice : Notice) : String := s!"flagsync: {notice.body}"

end Notice

end LiveFlags
