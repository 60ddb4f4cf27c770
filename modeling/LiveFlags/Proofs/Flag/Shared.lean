import LiveFlags.Proofs.Flag.Input
import LiveFlags.Sync.Notice
import Mathlib.Data.List.Perm.Basic

/-!
# One cell and many callers

Calls that set a cell overlap: each checks its input on its own, replaces the
document in one step, and then leaves a task that calls the notifier.  The
replacements form a chain from the first document to the current one, and each
call that is done stands for one link and one call of the notifier, whatever
the notifier does.
-/

namespace LiveFlags

namespace SharedCell

/-- An input on its way to a cell. -/
inductive Input where
  | bytes (content : List UInt8)
  | text (content : String)
  /-- A text for the cell as the value of a flag. -/
  | flagText (content : String)

/-- How far a call has come. -/
inductive Phase (α : Type) where
  | asked (bytes : List UInt8)
  /-- The input is read and the validator has no complaint. -/
  | checked (document : α)
  /-- The document is replaced and the notifier not yet seen to. -/
  | swapped (previous fresh : α)
  | published (previous fresh : α)
  | refused (error : Error)

/-- A call in progress or over, made with a runtime or without one. -/
structure Call (α : Type) where
  hasRuntime : Bool
  phase : Phase α

/-- One replacement of the document, by a call. -/
structure Swap (α : Type) where
  call : Nat
  previous : Published α
  fresh : Published α

/-- One call of the notifier, left to be made by a call. -/
structure Task (α : Type) where
  call : Nat
  hasRuntime : Bool
  previous : α
  fresh : α

/-- What may happen next around a shared cell. -/
inductive Move where
  | call (input : Input) (hasRuntime : Bool)
  /-- A call goes on by one step. -/
  | advance (index : Nat)
  /-- One of the waiting tasks calls the notifier. -/
  | notify (position : Nat)

end SharedCell

/-- A cell among its callers, with the calls numbered as they begin. -/
structure SharedCell (α : Type) where
  current : Published α
  validator : Option (α → Option String)
  notifier : Option Notifier
  calls : List (SharedCell.Call α) := []
  /-- Every replacement so far, oldest first. -/
  swaps : List (SharedCell.Swap α) := []
  /-- Calls of the notifier that are still to be made. -/
  waiting : List (SharedCell.Task α) := []
  /-- Calls of the notifier that were made, and what came of them. -/
  made : List (SharedCell.Task α × Delivery α) := []
  notices : List Notice := []

namespace SharedCell

variable {α : Type}

def Input.raw : Input → List UInt8
  | bytes content => content
  | text content => Wire.bytesOfText content
  | flagText content => Wire.bytesOfText content

/-- The whole call with nothing else between its steps. -/
def Input.send [Document α] (cell : Cell α) : Input → Outcome × Cell α
  | bytes content => cell.setBytes content
  | text content => cell.set content
  | flagText content => FlagValue.set cell content

theorem Input.send_eq_setBytes [Document α] (cell : Cell α) (input : Input) :
    input.send cell = cell.setBytes input.raw := by
  cases input <;> rfl

/-- What a call has returned, if it has. -/
def Phase.outcome? : Phase α → Option Outcome
  | published .. => some .done
  | refused error => some (.failed error)
  | _ => none

def create (initial : α) (validator : Option (α → Option String))
    (notifier : Option Notifier) : SharedCell α :=
  { current := ⟨initial, 0⟩, validator, notifier }

/-- The cell itself. -/
def cell (shared : SharedCell α) : Cell α :=
  { current := shared.current
    validator := shared.validator
    notifier := shared.notifier
    owed := shared.waiting.map fun task => (task.previous, task.fresh) }

def enter (shared : SharedCell α) (index : Nat) (phase : Phase α) :
    SharedCell α :=
  { shared with calls := shared.calls.modify index ({ · with phase }) }

/-- A call replaces the document, in one step. -/
def swap (shared : SharedCell α) (index : Nat) (document : α) : SharedCell α :=
  let fresh : Published α := ⟨document, shared.current.number + 1⟩
  { shared.enter index (.swapped shared.current.document document) with
    current := fresh
    swaps := shared.swaps ++ [⟨index, shared.current, fresh⟩] }

/-- A call ends and leaves a task for the notifier, if there is one. -/
def finish (shared : SharedCell α) (task : Task α) : SharedCell α :=
  { shared.enter task.call (.published task.previous task.fresh) with
    waiting := if shared.notifier.isSome then shared.waiting ++ [task]
      else shared.waiting }

def advance [Document α] (shared : SharedCell α) (index : Nat) : SharedCell α :=
  match shared.calls[index]? with
  | none => shared
  | some call =>
    match call.phase with
    | .asked bytes =>
      match shared.cell.candidate bytes with
      | .ok document => shared.enter index (.checked document)
      | .error error => shared.enter index (.refused error)
    | .checked document => shared.swap index document
    | .swapped previous fresh =>
      shared.finish ⟨index, call.hasRuntime, previous, fresh⟩
    | .published .. => shared
    | .refused _ => shared

/-- What comes of a call of the notifier. -/
def delivery (notifier : Option Notifier) (task : Task α) : Delivery α :=
  match notifier with
  | some (.crashing detail) => .crashed detail
  | _ => .observed task.previous task.fresh

theorem deliver_cell (shared : SharedCell α) :
    shared.cell.deliver.1 = shared.waiting.map (delivery shared.notifier) := by
  simp only [Cell.deliver, cell, List.map_map]
  rfl

def noticeOf (task : Task α) : Delivery α → Option Notice
  | .observed .. => none
  | .crashed detail =>
    some (if task.hasRuntime then .notifierFailed detail else .notifierCrashed)

def notify (shared : SharedCell α) (position : Nat) : SharedCell α :=
  match shared.waiting[position]? with
  | none => shared
  | some task =>
    { shared with
      waiting := shared.waiting.eraseIdx position
      made := shared.made ++ [(task, delivery shared.notifier task)]
      notices := shared.notices ++
        (noticeOf task (delivery shared.notifier task)).toList }

def step [Document α] (shared : SharedCell α) : Move → SharedCell α
  | .call input hasRuntime =>
    { shared with calls := shared.calls ++ [⟨hasRuntime, .asked input.raw⟩] }
  | .advance index => shared.advance index
  | .notify position => shared.notify position

def run [Document α] (shared : SharedCell α) (moves : List Move) :
    SharedCell α :=
  moves.foldl step shared

/-! ### What a call stands for -/

def Swap.change (swap : Swap α) : α × α :=
  (swap.previous.document, swap.fresh.document)

def Task.change (task : Task α) : α × α := (task.previous, task.fresh)

/-- The replacements that a call has made. -/
def swapsOf (shared : SharedCell α) (index : Nat) : List (Swap α) :=
  shared.swaps.filter fun swap => swap.call = index

/-- The calls of the notifier that were made for a call or will be. -/
def tasksOf (shared : SharedCell α) (index : Nat) : List (Task α) :=
  (shared.made.map Prod.fst ++ shared.waiting).filter fun task =>
    task.call = index

def Phase.changes : Phase α → List (α × α)
  | swapped previous fresh => [(previous, fresh)]
  | published previous fresh => [(previous, fresh)]
  | _ => []

def Phase.notified (notifier : Option Notifier) : Phase α → List (α × α)
  | published previous fresh =>
    if notifier.isSome then [(previous, fresh)] else []
  | _ => []

def Phase.candidates : Phase α → List α
  | checked document => [document]
  | _ => []

/-- What holds of the phase of a call, and of no call at all if there is none
with this number. -/
def ofCall {β : Type} (shared : SharedCell α) (index : Nat)
    (read : Phase α → List β) : List β :=
  shared.calls[index]?.elim [] fun call => read call.phase

theorem ofCall_of_found {β : Type} {shared : SharedCell α} {index : Nat}
    {call : Call α} (found : shared.calls[index]? = some call)
    (read : Phase α → List β) : shared.ofCall index read = read call.phase := by
  rw [ofCall, found]
  rfl

theorem ofCall_enter {β : Type} {shared : SharedCell α} {index : Nat}
    {call : Call α} (found : shared.calls[index]? = some call)
    (phase : Phase α) (other : Nat) (read : Phase α → List β) :
    (shared.enter index phase).ofCall other read =
      if index = other then read phase else shared.ofCall other read := by
  unfold ofCall enter
  rw [List.getElem?_modify]
  by_cases same : index = other
  · subst same
    simp [found]
  · cases shared.calls[other]? <;> simp [same]

theorem ofCall_append {β : Type} {shared : SharedCell α} {call : Call α}
    {read : Phase α → List β} (nothing : read call.phase = []) (index : Nat) :
    { shared with calls := shared.calls ++ [call] }.ofCall index read =
      shared.ofCall index read := by
  unfold ofCall
  by_cases within : index < shared.calls.length
  · rw [List.getElem?_append_left within]
  · have absent : shared.calls[index]? = none :=
      List.getElem?_eq_none (Nat.le_of_not_lt within)
    rw [List.getElem?_append_right (Nat.le_of_not_lt within), absent]
    cases index - shared.calls.length with
    | zero => simp [nothing]
    | succ beyond => simp

theorem ofCall_enter_same {β : Type} {shared : SharedCell α} {index : Nat}
    {call : Call α} (found : shared.calls[index]? = some call)
    {phase : Phase α} {read : Phase α → List β}
    (same : read phase = read call.phase) (other : Nat) :
    (shared.enter index phase).ofCall other read =
      shared.ofCall other read := by
  rw [ofCall_enter found]
  split
  · rename_i equal
    rw [same, ← equal, ofCall_of_found found]
  · rfl

/-- Each call that replaced the document did so once and, when it was done,
left one call of the notifier for this change. -/
structure Consistent (initial : α) (shared : SharedCell α) : Prop where
  chained : shared.swaps.map Swap.previous ++ [shared.current] =
    ⟨initial, 0⟩ :: shared.swaps.map Swap.fresh
  accepted : ∀ swap ∈ shared.swaps, shared.cell.Accepts swap.fresh.document
  checked : ∀ index, ∀ document ∈ shared.ofCall index Phase.candidates,
    shared.cell.Accepts document
  swapped : ∀ index, (shared.swapsOf index).map Swap.change =
    shared.ofCall index Phase.changes
  notified : ∀ index, ((shared.tasksOf index).map Task.change).Perm
    (shared.ofCall index (Phase.notified shared.notifier))
  delivered : ∀ entry ∈ shared.made,
    entry.2 = delivery shared.notifier entry.1

theorem consistent_create (initial : α)
    (validator : Option (α → Option String)) (notifier : Option Notifier) :
    Consistent initial (create initial validator notifier) where
  chained := rfl
  accepted := nofun
  checked := nofun
  swapped _ := rfl
  notified _ := .nil
  delivered := nofun

section Steps

variable {initial : α} {shared : SharedCell α} {index : Nat} {call : Call α}

theorem consistent_call (consistent : Consistent initial shared)
    (hasRuntime : Bool) (bytes : List UInt8) :
    Consistent initial
      { shared with
        calls := shared.calls ++ [⟨hasRuntime, .asked bytes⟩] } where
  chained := consistent.chained
  accepted := consistent.accepted
  checked other := by
    rw [ofCall_append rfl]
    exact consistent.checked other
  swapped other := by
    rw [ofCall_append rfl]
    exact consistent.swapped other
  notified other := by
    rw [ofCall_append rfl]
    exact consistent.notified other
  delivered := consistent.delivered

theorem consistent_enter (consistent : Consistent initial shared)
    (found : shared.calls[index]? = some call) {phase : Phase α}
    (changes : phase.changes = call.phase.changes)
    (notified : phase.notified shared.notifier =
      call.phase.notified shared.notifier)
    (checked : ∀ document ∈ phase.candidates, shared.cell.Accepts document) :
    Consistent initial (shared.enter index phase) where
  chained := consistent.chained
  accepted := consistent.accepted
  checked other := by
    rw [ofCall_enter found]
    split
    · exact checked
    · exact consistent.checked other
  swapped other := by
    rw [ofCall_enter_same found changes]
    exact consistent.swapped other
  notified other := by
    have same := ofCall_enter_same found notified other
    exact same ▸ consistent.notified other
  delivered := consistent.delivered

theorem swapsOf_swap (document : α) (other : Nat) :
    ((shared.swap index document).swapsOf other).map Swap.change =
      (shared.swapsOf other).map Swap.change ++
        if index = other then [(shared.current.document, document)]
        else [] := by
  by_cases same : index = other <;>
    simp [swapsOf, swap, List.filter_append, Swap.change, same]

theorem consistent_swap (consistent : Consistent initial shared)
    (found : shared.calls[index]? = some call) {document : α}
    (ready : call.phase = .checked document) :
    Consistent initial (shared.swap index document) := by
  have accepted : shared.cell.Accepts document := by
    apply consistent.checked index
    rw [ofCall_of_found found, ready]
    exact List.mem_singleton_self document
  constructor
  case chained =>
    have chained := consistent.chained
    simp only [swap, List.map_append, List.map_singleton, List.append_assoc,
      ← List.cons_append, ← chained]
  case accepted =>
    intro swap member
    rcases List.mem_append.mp member with earlier | latest
    · exact consistent.accepted swap earlier
    · rw [List.mem_singleton.mp latest]
      exact accepted
  case checked =>
    intro other
    change ∀ document ∈ (shared.enter index _).ofCall other _, _
    rw [ofCall_enter found]
    split
    · nofun
    · exact consistent.checked other
  case swapped =>
    intro other
    change _ = (shared.enter index _).ofCall other _
    rw [swapsOf_swap, consistent.swapped other, ofCall_enter found]
    split
    · rename_i same
      rw [← same, ofCall_of_found found, ready]
      rfl
    · exact List.append_nil _
  case notified =>
    intro other
    change List.Perm _ ((shared.enter index _).ofCall other _)
    rw [ofCall_enter_same found]
    · exact consistent.notified other
    · rw [ready]
      rfl
  case delivered => exact consistent.delivered

theorem tasksOf_finish (task : Task α) (other : Nat) :
    ((shared.finish task).tasksOf other).map Task.change =
      (shared.tasksOf other).map Task.change ++
        if task.call = other then
          (if shared.notifier.isSome then [task.change] else [])
        else [] := by
  cases present : shared.notifier.isSome <;>
    by_cases same : task.call = other <;>
      simp [tasksOf, finish, enter, List.filter_append, present, same]

theorem consistent_finish (consistent : Consistent initial shared)
    (found : shared.calls[index]? = some call) {previous fresh : α}
    (swapped : call.phase = .swapped previous fresh) :
    Consistent initial
      (shared.finish ⟨index, call.hasRuntime, previous, fresh⟩) := by
  constructor
  case chained => exact consistent.chained
  case accepted => exact consistent.accepted
  case checked =>
    intro other
    change ∀ document ∈ (shared.enter index _).ofCall other _, _
    rw [ofCall_enter found]
    split
    · nofun
    · exact consistent.checked other
  case swapped =>
    intro other
    change _ = (shared.enter index _).ofCall other _
    rw [ofCall_enter_same found]
    · exact consistent.swapped other
    · rw [swapped]
      rfl
  case notified =>
    intro other
    change List.Perm _ ((shared.enter index _).ofCall other
      (Phase.notified shared.notifier))
    have before := consistent.notified other
    rw [tasksOf_finish, ofCall_enter found]
    by_cases same : index = other
    · rw [← same, ofCall_of_found found, swapped] at before
      rw [← same, before.eq_nil, if_pos rfl, if_pos rfl]
      exact .refl _
    · rw [if_neg same, if_neg same, List.append_nil]
      exact before
  case delivered => exact consistent.delivered

/-- Making a call of the notifier takes it from those that wait to those that
are made. -/
theorem tasks_notify (shared : SharedCell α) (position : Nat) :
    ((shared.notify position).made.map Prod.fst ++
      (shared.notify position).waiting).Perm
        (shared.made.map Prod.fst ++ shared.waiting) := by
  unfold notify
  cases found : shared.waiting[position]? with
  | none => exact .refl _
  | some task =>
      obtain ⟨within, here⟩ := List.getElem?_eq_some_iff.mp found
      have taken := List.getElem_cons_eraseIdx_perm within
      rw [here] at taken
      simp only [List.map_append, List.append_assoc]
      exact taken.append_left _

theorem consistent_notify (consistent : Consistent initial shared)
    (position : Nat) : Consistent initial (shared.notify position) := by
  have tasks := tasks_notify shared position
  unfold notify at tasks ⊢
  cases found : shared.waiting[position]? with
  | none => exact consistent
  | some task =>
      rw [found] at tasks
      refine ⟨consistent.chained, consistent.accepted, consistent.checked,
        consistent.swapped, fun other => ?_, ?_⟩
      · exact ((tasks.filter _).map _).trans (consistent.notified other)
      · intro entry member
        rcases List.mem_append.mp member with earlier | latest
        · exact consistent.delivered entry earlier
        · rw [List.mem_singleton.mp latest]

end Steps

section Runs

variable [Document α] {initial : α} {shared : SharedCell α}

theorem consistent_advance (consistent : Consistent initial shared)
    (index : Nat) : Consistent initial (shared.advance index) := by
  unfold advance
  cases found : shared.calls[index]? with
  | none => exact consistent
  | some call =>
      dsimp only
      cases phase : call.phase with
      | asked bytes =>
          dsimp only
          cases judged : shared.cell.candidate bytes with
          | ok document =>
              have accepted := (Cell.candidate_eq_ok_iff.mp judged).2
              apply consistent_enter consistent found
              · rw [phase]
                rfl
              · rw [phase]
                rfl
              · intro other among
                rwa [List.mem_singleton.mp among]
          | error error =>
              apply consistent_enter consistent found
              · rw [phase]
                rfl
              · rw [phase]
                rfl
              · nofun
      | checked document => exact consistent_swap consistent found phase
      | swapped previous fresh =>
          exact consistent_finish consistent found phase
      | published previous fresh => exact consistent
      | refused error => exact consistent

theorem consistent_step (consistent : Consistent initial shared) (move : Move) :
    Consistent initial (shared.step move) := by
  cases move with
  | call input hasRuntime =>
      exact consistent_call consistent hasRuntime input.raw
  | advance index => exact consistent_advance consistent index
  | notify position => exact consistent_notify consistent position

theorem consistent_run (consistent : Consistent initial shared)
    (moves : List Move) : Consistent initial (shared.run moves) := by
  induction moves generalizing shared with
  | nil => exact consistent
  | cons move later induction =>
      exact induction (consistent_step consistent move)

end Runs

namespace Consistent

variable {initial : α} {shared : SharedCell α} {index : Nat} {call : Call α}

theorem current (consistent : Consistent initial shared) :
    shared.current = ⟨initial, 0⟩ ∨
      shared.cell.Accepts shared.current.document := by
  have among : shared.current ∈
      ⟨initial, 0⟩ :: shared.swaps.map Swap.fresh := by
    rw [← consistent.chained]
    exact List.mem_append_right _ (List.mem_singleton_self _)
  rcases List.mem_cons.mp among with first | later
  · exact .inl first
  · obtain ⟨swap, member, fresh⟩ := List.mem_map.mp later
    exact .inr (fresh ▸ consistent.accepted swap member)

theorem refused (consistent : Consistent initial shared)
    (found : shared.calls[index]? = some call) {error : Error}
    (failed : call.phase.outcome? = some (.failed error)) :
    shared.swapsOf index = [] ∧ shared.tasksOf index = [] := by
  have swapped := consistent.swapped index
  have notified := consistent.notified index
  rw [ofCall_of_found found] at swapped notified
  cases phase : call.phase with
  | refused error =>
      rw [phase] at swapped notified
      exact ⟨List.map_eq_nil_iff.mp swapped,
        List.map_eq_nil_iff.mp notified.eq_nil⟩
  | _ => simp [phase, Phase.outcome?] at failed

theorem done (consistent : Consistent initial shared)
    (found : shared.calls[index]? = some call)
    (done : call.phase.outcome? = some .done) :
    ∃ swap, shared.swapsOf index = [swap] ∧
      shared.cell.Accepts swap.fresh.document ∧
        (shared.tasksOf index).map Task.change =
          if shared.notifier.isSome then [swap.change] else [] := by
  have swapped := consistent.swapped index
  have notified := consistent.notified index
  rw [ofCall_of_found found] at swapped notified
  cases phase : call.phase with
  | published previous fresh =>
      rw [phase] at swapped notified
      obtain ⟨swap, one, change⟩ := List.map_eq_singleton_iff.mp swapped
      have member : swap ∈ shared.swaps := by
        apply List.mem_of_mem_filter (p := fun swap => swap.call = index)
        change swap ∈ shared.swapsOf index
        rw [one]
        exact List.mem_singleton_self swap
      refine ⟨swap, one, consistent.accepted swap member, ?_⟩
      have left : ((shared.tasksOf index).map Task.change).Perm
          (if shared.notifier.isSome then [(previous, fresh)] else []) :=
        notified
      rw [change]
      split
      · rename_i present
        rw [if_pos present] at left
        exact List.perm_singleton.mp left
      · rename_i absent
        rw [if_neg absent] at left
        exact left.eq_nil
  | _ => simp [phase, Phase.outcome?] at done

end Consistent

/-! ### The notifier makes no difference -/

/-- A move as far as calls and the document are concerned. -/
def Move.seen : Move → Option Move
  | call input _ => some (.call input false)
  | advance index => some (.advance index)
  | notify _ => none

/-- A shared cell without its notifier and the runtimes of its callers. -/
def unobserved (shared : SharedCell α) : SharedCell α :=
  { current := shared.current
    validator := shared.validator
    notifier := none
    calls := shared.calls.map fun call => ⟨false, call.phase⟩
    swaps := shared.swaps }

theorem unobserved_enter (shared : SharedCell α) (index : Nat)
    (phase : Phase α) :
    (shared.enter index phase).unobserved =
      shared.unobserved.enter index phase := by
  have calls : (shared.calls.modify index ({ · with phase })).map
      (fun call => (⟨false, call.phase⟩ : Call α)) =
        (shared.calls.map fun call => (⟨false, call.phase⟩ : Call α)).modify
          index ({ · with phase }) := by
    apply List.ext_getElem?
    intro other
    rw [List.getElem?_map, List.getElem?_modify, List.getElem?_modify,
      List.getElem?_map]
    cases shared.calls[other]? with
    | none => rfl
    | some call => by_cases same : index = other <;> simp [same]
  simp only [unobserved, enter, calls]

theorem unobserved_swap (shared : SharedCell α) (index : Nat) (document : α) :
    (shared.swap index document).unobserved =
      shared.unobserved.swap index document := by
  have entered := unobserved_enter shared index
    (.swapped shared.current.document document)
  have calls := congrArg SharedCell.calls entered
  simp only [unobserved, enter] at calls
  simp only [swap, enter, unobserved, calls]

theorem unobserved_finish (shared : SharedCell α) (task : Task α) :
    (shared.finish task).unobserved =
      shared.unobserved.finish { task with hasRuntime := false } := by
  have entered := unobserved_enter shared task.call
    (.published task.previous task.fresh)
  have calls := congrArg SharedCell.calls entered
  simp only [unobserved, enter] at calls
  simp [finish, enter, unobserved, calls]

theorem unobserved_notify (shared : SharedCell α) (position : Nat) :
    (shared.notify position).unobserved = shared.unobserved := by
  unfold notify
  cases shared.waiting[position]? <;> rfl

section Observing

variable [Document α]

theorem unobserved_advance (shared : SharedCell α) (index : Nat) :
    (shared.advance index).unobserved = shared.unobserved.advance index := by
  have calls : shared.unobserved.calls[index]? =
      shared.calls[index]?.map fun call => ⟨false, call.phase⟩ :=
    List.getElem?_map
  unfold advance
  rw [calls]
  cases shared.calls[index]? with
  | none => rfl
  | some call =>
      rw [Option.map_some]
      dsimp only
      cases call.phase with
      | asked bytes =>
          have same : shared.unobserved.cell.candidate bytes =
              shared.cell.candidate bytes := rfl
          dsimp only
          rw [same]
          cases shared.cell.candidate bytes with
          | ok document => exact unobserved_enter shared index _
          | error error => exact unobserved_enter shared index _
      | checked document => exact unobserved_swap shared index document
      | swapped previous fresh =>
          exact unobserved_finish shared
            ⟨index, call.hasRuntime, previous, fresh⟩
      | published previous fresh => rfl
      | refused error => rfl

theorem unobserved_step (shared : SharedCell α) (move : Move) :
    (shared.step move).unobserved =
      move.seen.elim shared.unobserved shared.unobserved.step := by
  cases move with
  | call input hasRuntime => simp [step, unobserved, Move.seen]
  | advance index => exact unobserved_advance shared index
  | notify position => exact unobserved_notify shared position

theorem unobserved_run (shared : SharedCell α) (moves : List Move) :
    (shared.run moves).unobserved =
      shared.unobserved.run (moves.filterMap Move.seen) := by
  induction moves generalizing shared with
  | nil => rfl
  | cons move later induction =>
      have stepped := unobserved_step shared move
      rw [run, List.foldl_cons]
      refine (induction (shared.step move)).trans ?_
      rw [stepped, List.filterMap_cons]
      cases move.seen <;> rfl

/-- Runs that differ in the notifier, the calls of it and the runtimes only
have the same calls and the same documents. -/
theorem calls_current_of_seen (initial : α)
    (validator : Option (α → Option String))
    {notifier otherNotifier : Option Notifier} {moves otherMoves : List Move}
    (seen : otherMoves.filterMap Move.seen = moves.filterMap Move.seen) :
    let shared := (create initial validator notifier).run moves
    let other := (create initial validator otherNotifier).run otherMoves
    other.calls.map Call.phase = shared.calls.map Call.phase ∧
      other.current = shared.current ∧ other.swaps = shared.swaps := by
  intro shared other
  have left :=
    unobserved_run (create initial validator otherNotifier) otherMoves
  have right := unobserved_run (create initial validator notifier) moves
  rw [seen] at left
  have same : other.unobserved = shared.unobserved := left.trans right.symm
  have phases : ∀ one : SharedCell α,
      one.unobserved.calls.map Call.phase = one.calls.map Call.phase := by
    intro one
    simp [unobserved]
  have current := congrArg SharedCell.current same
  have swaps := congrArg SharedCell.swaps same
  refine ⟨?_, current, swaps⟩
  rw [← phases other, ← phases shared, same]

/-! ### A call on its own -/

omit [Document α] in
theorem getElem?_enter {shared : SharedCell α} {index : Nat} {call : Call α}
    (found : shared.calls[index]? = some call) (phase : Phase α) :
    (shared.enter index phase).calls[index]? =
      some ⟨call.hasRuntime, phase⟩ := by
  simp [enter, found]

omit [Document α] in
theorem cell_finish_swap (shared : SharedCell α) (index : Nat)
    (hasRuntime : Bool) (document : α) :
    ((shared.swap index document).finish
      ⟨index, hasRuntime, shared.current.document, document⟩).cell =
        shared.cell.publish document := by
  cases present : shared.notifier.isSome <;>
    simp [finish, swap, enter, cell, Cell.publish, present]

/-- A call with nothing else between its steps does to the cell what the cell
does with its input, and has the same outcome. -/
theorem run_alone (shared : SharedCell α) (input : Input) (hasRuntime : Bool) :
    let index := shared.calls.length
    let after := shared.run [.call input hasRuntime, .advance index,
      .advance index, .advance index]
    (after.calls[index]?.bind fun call => call.phase.outcome?) =
        some (input.send shared.cell).1 ∧
      after.cell = (input.send shared.cell).2 := by
  intro index after
  let entered : SharedCell α :=
    { shared with calls := shared.calls ++ [⟨hasRuntime, .asked input.raw⟩] }
  have found : entered.calls[index]? = some ⟨hasRuntime, .asked input.raw⟩ := by
    simp [entered, index]
  have first : entered.advance index =
      match shared.cell.candidate input.raw with
      | .ok document => entered.enter index (.checked document)
      | .error error => entered.enter index (.refused error) := by
    rw [advance, found]
    rfl
  have same : after = ((entered.advance index).advance index).advance index :=
    rfl
  rw [same, first, Input.send_eq_setBytes, Cell.setBytes]
  cases shared.cell.candidate input.raw with
  | error error =>
      have refused := getElem?_enter found (.refused error)
      simp [advance, refused, Phase.outcome?]
      rfl
  | ok document =>
      let ready := entered.enter index (.checked document)
      let task : Task α :=
        ⟨index, hasRuntime, shared.current.document, document⟩
      have checked : ready.calls[index]? =
          some ⟨hasRuntime, .checked document⟩ := getElem?_enter found _
      have swapped : (ready.swap index document).calls[index]? =
          some ⟨hasRuntime, .swapped shared.current.document document⟩ :=
        getElem?_enter checked _
      have second : ready.advance index = ready.swap index document := by
        rw [advance, checked]
      have third : (ready.swap index document).advance index =
          (ready.swap index document).finish task := by
        rw [advance, swapped]
      have published : ((ready.swap index document).finish task).calls[index]? =
          some ⟨hasRuntime, .published shared.current.document document⟩ :=
        getElem?_enter swapped _
      dsimp only
      change
        ((((ready.advance index).advance index).calls[index]?).bind _ = _) ∧
        ((ready.advance index).advance index).cell = _
      rw [second, third, published]
      exact ⟨rfl, cell_finish_swap ready index hasRuntime document⟩

end Observing

/-! ### The notifier is called -/

theorem waiting_run_notify [Document α] (shared : SharedCell α) :
    (shared.run (List.replicate shared.waiting.length (.notify 0))).waiting =
      [] := by
  generalize waits : shared.waiting.length = count
  induction count generalizing shared with
  | zero => exact List.length_eq_zero_iff.mp waits
  | succ count induction =>
      obtain ⟨task, later, waiting⟩ :=
        List.exists_cons_of_length_eq_add_one waits
      have taken : (shared.notify 0).waiting = later := by
        simp [notify, waiting]
      rw [List.replicate_succ, run, List.foldl_cons]
      apply induction
      change (shared.notify 0).waiting.length = count
      rw [taken]
      simpa [waiting] using waits

section Steady

variable [Document α]

theorem hooks_step (shared : SharedCell α) (move : Move) :
    (shared.step move).validator = shared.validator ∧
      (shared.step move).notifier = shared.notifier := by
  cases move with
  | call input hasRuntime => exact ⟨rfl, rfl⟩
  | advance index =>
      simp only [step, advance]
      repeat' split
      all_goals exact ⟨rfl, rfl⟩
  | notify position =>
      simp only [step, notify]
      split <;> exact ⟨rfl, rfl⟩

theorem hooks_run (shared : SharedCell α) (moves : List Move) :
    (shared.run moves).validator = shared.validator ∧
      (shared.run moves).notifier = shared.notifier := by
  induction moves generalizing shared with
  | nil => exact ⟨rfl, rfl⟩
  | cons move later induction =>
      obtain ⟨validator, notifier⟩ := hooks_step shared move
      obtain ⟨laterValidator, laterNotifier⟩ := induction (shared.step move)
      exact ⟨laterValidator.trans validator, laterNotifier.trans notifier⟩

/-- The document stays the same instance, unless a call goes on by replacing
it. -/
theorem current_step (shared : SharedCell α) (move : Move) :
    ((shared.step move).current = shared.current ∧
        (shared.step move).swaps = shared.swaps) ∨
      ∃ swap, move = .advance swap.call ∧ swap.previous = shared.current ∧
        swap.fresh = (shared.step move).current ∧
          (shared.step move).swaps = shared.swaps ++ [swap] := by
  cases move with
  | call input hasRuntime => exact .inl ⟨rfl, rfl⟩
  | advance index =>
      simp only [step, advance]
      split
      · exact .inl ⟨rfl, rfl⟩
      · split
        · split <;> exact .inl ⟨rfl, rfl⟩
        · exact .inr ⟨_, rfl, rfl, rfl, rfl⟩
        · exact .inl ⟨rfl, rfl⟩
        · exact .inl ⟨rfl, rfl⟩
        · exact .inl ⟨rfl, rfl⟩
  | notify position =>
      simp only [step, notify]
      split <;> exact .inl ⟨rfl, rfl⟩

end Steady

/-- However the steps of any calls fall between each other, and whichever of
the waiting calls of the notifier are made when: the current document is the
first one or was accepted; a call that failed replaced nothing and left nothing
for the notifier; a call that is done replaced the document once, by one that
was accepted, and stands for one call of the notifier with this change; in
their order the replacements lead from the first document to the current one,
each instance being replaced by the step of one call; every waiting call of the
notifier can be made; and neither the notifier nor a runtime nor the calls of
the notifier make a difference to the calls and the document. -/
theorem publishes_once [Document α] (initial : α)
    (validator : Option (α → Option String)) (notifier : Option Notifier)
    (moves : List Move) :
    let shared := (create initial validator notifier).run moves
    let accepted (document : α) : Prop :=
      (validator.bind fun complaint => complaint document) = none
    (shared.current = ⟨initial, 0⟩ ∨ accepted shared.current.document) ∧
    (∀ index call error, shared.calls[index]? = some call →
      call.phase.outcome? = some (.failed error) →
        shared.swapsOf index = [] ∧ shared.tasksOf index = []) ∧
    (∀ index call, shared.calls[index]? = some call →
      call.phase.outcome? = some .done →
        ∃ swap, shared.swapsOf index = [swap] ∧ accepted swap.fresh.document ∧
          (shared.tasksOf index).map Task.change =
            if notifier.isSome then [swap.change] else []) ∧
    (∀ entry ∈ shared.made, entry.2 = delivery notifier entry.1) ∧
    (shared.run (List.replicate shared.waiting.length (.notify 0))).waiting =
      [] ∧
    shared.swaps.map Swap.previous ++ [shared.current] =
      ⟨initial, 0⟩ :: shared.swaps.map Swap.fresh ∧
    (∀ move, ((shared.step move).current = shared.current ∧
        (shared.step move).swaps = shared.swaps) ∨
      ∃ swap, move = .advance swap.call ∧ swap.previous = shared.current ∧
        swap.fresh = (shared.step move).current ∧
          (shared.step move).swaps = shared.swaps ++ [swap]) ∧
    (∀ otherNotifier otherMoves,
      otherMoves.filterMap Move.seen = moves.filterMap Move.seen →
        let other := (create initial validator otherNotifier).run otherMoves
        other.calls.map Call.phase = shared.calls.map Call.phase ∧
          other.current = shared.current ∧ other.swaps = shared.swaps) := by
  intro shared accepted
  have consistent : Consistent initial shared :=
    consistent_run (consistent_create initial validator notifier) moves
  obtain ⟨sameValidator, sameNotifier⟩ : shared.validator = validator ∧
      shared.notifier = notifier :=
    hooks_run (create initial validator notifier) moves
  have accepts : ∀ document, shared.cell.Accepts document →
      accepted document := by
    intro document fine
    rw [Cell.Accepts, cell, sameValidator] at fine
    exact fine
  refine ⟨consistent.current.imp_right (accepts _), ?_, ?_, ?_,
    waiting_run_notify shared, consistent.chained, current_step shared, ?_⟩
  · intro index call error found failed
    exact consistent.refused found failed
  · intro index call found done
    obtain ⟨swap, one, fine, tasks⟩ := consistent.done found done
    rw [sameNotifier] at tasks
    exact ⟨swap, one, accepts _ fine, tasks⟩
  · intro entry member
    rw [← sameNotifier]
    exact consistent.delivered entry member
  · intro otherNotifier otherMoves seen
    exact calls_current_of_seen initial validator seen

/-- Two calls that overlap, one of them refused, around a notifier that
crashes. -/
theorem publishes_once_overlapping :
    let moves : List Move := [.call (.bytes [0x10, 0x05]) true,
      .call (.bytes [0x08, 0x01]) false, .advance 0, .advance 1, .advance 0,
      .advance 0, .notify 0]
    let shared := (create ({} : Limits) (some Limits.ratePositive)
      (some (.crashing "full"))).run moves
    (∃ swap, shared.swapsOf 0 = [swap] ∧
      (shared.tasksOf 0).map Task.change = [swap.change]) ∧
    shared.swapsOf 1 = [] ∧ shared.tasksOf 1 = [] := by
  intro moves shared
  obtain ⟨_, refused, done, _⟩ := publishes_once ({} : Limits)
    (some Limits.ratePositive) (some (.crashing "full")) moves
  obtain ⟨swap, one, _, tasks⟩ := done 0 ⟨true, .published {} ⟨0, 5, ""⟩⟩
    rfl rfl
  exact ⟨⟨swap, one, tasks⟩, refused 1
    ⟨false, .refused (.validation "rate must be positive")⟩ _ rfl rfl⟩

end SharedCell

end LiveFlags
