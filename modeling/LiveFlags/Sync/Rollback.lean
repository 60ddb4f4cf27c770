import LiveFlags.Store.Basic

/-!
# Undoing a refused change

A refused change is undone by one write, conditioned on the index of the change
itself, so that a change made by someone else in the meantime is never
overwritten.
-/

namespace LiveFlags

/-- What undoing a change achieved. -/
inductive RollbackOutcome where
  /-- The value before the change was written back. -/
  | restored
  /-- The key that the change created was deleted. -/
  | deleted
  /-- The key has changed again; there is nothing to undo. -/
  | conflict
  | failed (error : StoreError)
deriving DecidableEq, Repr

def ChangeEvent.undo (event : ChangeEvent) : WriteCommand :=
  match event.previous with
  | some previous => .set event.key previous (some event.index)
  | none => .delete event.key (some event.index)

/-- What the answer to the write that undoes a change says. -/
def RollbackOutcome.ofAnswer (event : ChangeEvent) :
    Except StoreError Nat → RollbackOutcome
  | .ok _ => if event.previous.isSome then .restored else .deleted
  | .error (.conditionFailed ..) => .conflict
  | .error error => .failed error

def rollback {S W : Type} [KeyValueStore S W] (event : ChangeEvent)
    (store : S) : RollbackOutcome × S :=
  let (answer, store) := KeyValueStore.write store event.undo
  (.ofAnswer event answer, store)

end LiveFlags
