import LiveFlags.Store.Basic

/-!
# A store with a write budget

A limited number of writes and deletions reach the store; later ones fail
without touching it.
-/

namespace LiveFlags

/-- A store and how many more writes may reach it. -/
structure Metered (S : Type) where
  store : S
  writesLeft : Nat
deriving Inhabited

namespace Metered

variable {S W : Type} [KeyValueStore S W]

/-- The failure of a write beyond the budget. -/
def exhausted : StoreError := .other "write budget exhausted"

instance : KeyValueStore (Metered S) W where
  get metered path options := KeyValueStore.get metered.store path options
  watch metered path options :=
    let (watch, store) := KeyValueStore.watch metered.store path options
    (watch, { metered with store })
  ready metered watch := KeyValueStore.ready metered.store watch
  supply metered watch := KeyValueStore.supply metered.store watch
  next metered watch :=
    let (arrival, watch, store) := KeyValueStore.next metered.store watch
    (arrival, watch, { metered with store })
  write metered command :=
    match metered.writesLeft with
    | 0 => (.error exhausted, metered)
    | left + 1 =>
      let (answer, store) := KeyValueStore.write metered.store command
      (answer, ⟨store, left⟩)

end Metered

end LiveFlags
