import LiveFlags.Error

/-!
# Stores of keys and values

What a store shows of itself, nodes, snapshots and change events, and the
operations that a synchronizer asks of any store.  Every mutation has an index,
and writes may be conditioned on the index of the value they replace.
-/

namespace LiveFlags

/-- One node returned by a read. -/
structure Node where
  key : String
  /-- The stored value; empty for a directory. -/
  value : String
  isDirectory : Bool
  /-- The index of the mutation that last touched the node. -/
  index : Nat
deriving DecidableEq, Repr, Inhabited

def Node.leaf (key value : String) (index : Nat) : Node :=
  ⟨key, value, false, index⟩

def Node.directory (key : String) (index : Nat) : Node :=
  ⟨key, "", true, index⟩

/-- The answer to a read: nodes, and the index after which a watch misses
nothing. -/
structure Snapshot where
  index : Nat := 0
  nodes : List Node := []
deriving DecidableEq, Repr, Inhabited

/-- The kind of a mutation. -/
inductive Action where
  | set
  | create
  | update
  | compareAndSwap
  | delete
  | compareAndDelete
  | expire
deriving DecidableEq, Repr, Inhabited

def Action.name : Action → String
  | set => "set"
  | create => "create"
  | update => "update"
  | compareAndSwap => "compareAndSwap"
  | delete => "delete"
  | compareAndDelete => "compareAndDelete"
  | expire => "expire"

/-- One mutation as a watch reports it. -/
structure ChangeEvent where
  action : Action
  key : String
  /-- The new value; absent after a deletion. -/
  value : Option String
  isDirectory : Bool := false
  index : Nat
  /-- The value before this mutation, if the key existed. -/
  previous : Option String
deriving DecidableEq, Repr, Inhabited

def ChangeEvent.set (key value : String) (index : Nat)
    (previous : Option String) : ChangeEvent :=
  { action := .set, key, value := some value, index, previous }

def ChangeEvent.delete (key : String) (index : Nat) (previous : Option String) :
    ChangeEvent :=
  { action := .delete, key, value := none, index, previous }

/-- What a watch yields when it is asked for its next item. -/
inductive Arrival where
  | event (event : ChangeEvent)
  | failure (error : StoreError)
  | pending
  | ended
deriving DecidableEq, Repr, Inhabited

/-- What an item is to the reader of a watch. -/
def Arrival.ofItem : Except StoreError ChangeEvent → Arrival
  | .ok change => .event change
  | .error error => .failure error

/-- Where the next item of a watch comes from, which tells how long taking it
keeps a reader busy. -/
inductive Supply where
  /-- A replay that was made ready when the watch was opened. -/
  | replay
  /-- What arrived since, of which so much has to be looked at; nothing when
  nothing is there. -/
  | live (looks : Nat)
deriving DecidableEq, Repr, Inhabited

/-- Which nodes a read returns and in which order. -/
structure ReadOptions where
  /-- Nodes deeper than one level below the path. -/
  recursive : Bool
  sorted : Bool
deriving DecidableEq, Repr, Inhabited

/-- The read of a whole directory in key order. -/
def ReadOptions.everything : ReadOptions := ⟨true, true⟩

/-- Which mutations a watch reports. -/
structure WatchOptions where
  /-- Only mutations with an index above this one. -/
  after : Nat
  /-- Mutations anywhere below the path. -/
  recursive : Bool
deriving DecidableEq, Repr, Inhabited

/-- A write or a deletion, conditioned on the index of the value it replaces if
one is given. -/
inductive WriteCommand where
  | set (key value : String) (condition : Option Nat)
  | delete (key : String) (condition : Option Nat)
deriving DecidableEq, Repr, Inhabited

/-- The operations of a store with states in `S` whose open watches are values
of `W`.  A watch is read by `next`, which returns what arrived and the watch
from there on; `ready` tells whether there is anything to look at, and `supply`
where it comes from. -/
class KeyValueStore (S : Type) (W : outParam Type) where
  get : S → String → ReadOptions → Except StoreError Snapshot
  watch : S → String → WatchOptions → W × S
  ready : S → W → Bool
  supply : S → W → Supply
  next : S → W → Arrival × W × S
  write : S → WriteCommand → Except StoreError Nat × S

end LiveFlags
