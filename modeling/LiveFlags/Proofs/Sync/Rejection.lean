import LiveFlags.Proofs.Sync.Writes

/-!
# Which failures are undone

A change is undone if setting its flag fails with a failure of the flag itself,
of whatever kind that is.  The predicate `Error.isRejection` is narrower: it
asks for a refusal by a reader or a validator at the bottom.  Every rejection is
undone, and both agree as long as flags fail in no other way.
-/

namespace LiveFlags

/-- Whether a failure is one of a flag that was given a value. -/
def Error.isFlagRejected : Error → Bool
  | .flagRejected .. => true
  | _ => false

theorem Error.isFlagRejected_iff {error : Error} :
    error.isFlagRejected = true ↔
      ∃ name source, error = .flagRejected name source := by
  cases error <;> simp [isFlagRejected]

section Failing

variable {V : Type} [FlagValue V]

/-- What setting the flag of a change fails with, if the key of the change
stands for a flag and setting it fails. -/
def ChangeEvent.failure? (directory : String) (flags : FlagSet V)
    (event : ChangeEvent) : Option Error :=
  match flagName directory event.key event.isDirectory with
  | .error _ => none
  | .ok name =>
      match (flags.apply name event.value true).1 with
      | .failed error => some error
      | _ => none

/-- Whether setting the flag of a change fails in a certain way. -/
def ChangeEvent.failsBy (warrants : Error → Bool) (directory : String)
    (flags : FlagSet V) (event : ChangeEvent) : Bool :=
  (event.failure? directory flags).any warrants

/-- A value that fails only by refusing inputs. -/
def FlagValue.OnlyRejects (value : V) : Prop :=
  ∀ input error, (FlagValue.set value input).1 = .failed error →
    error.isRejection = true

variable {directory : String} {flags : FlagSet V} {event : ChangeEvent}

theorem ChangeEvent.Concerns.failure?_eq {name text : String} {flag : Flag V}
    (concerns : event.Concerns directory flags name text flag) :
    event.failure? directory flags = match (flag.set text).1 with
      | .failed source => some (.flagRejected name source)
      | _ => none := by
  rw [ChangeEvent.failure?, concerns.named, concerns.brings]
  dsimp only
  rw [FlagSet.apply_of_reaches concerns.reaches]
  cases (flag.set text).1 <;> rfl

/-- A change that reaches no flag fails in a way that is not the flag's. -/
theorem ChangeEvent.failure?_of_not_concerns
    (missed : ∀ name text flag,
      ¬ event.Concerns directory flags name text flag) {error : Error}
    (failed : event.failure? directory flags = some error) :
    error.isFlagRejected = false ∧ error.isRejection = false := by
  unfold ChangeEvent.failure? at failed
  split at failed
  · cases failed
  · rename_i name named
    have unreached : ∀ text flag, event.value = some text →
        ¬ flags.Reaches true name text flag := fun text flag brings reaches =>
      missed name text flag ⟨named, brings, reaches⟩
    obtain ⟨reason, applied, kind⟩ := FlagSet.apply_of_not_reaches unreached
    rw [applied] at failed
    obtain rfl : reason = error := Option.some.inj failed
    rcases kind with rfl | rfl | ⟨_, rfl⟩ <;> exact ⟨rfl, rfl⟩

/-- A failure is one of the flag just if the change brought the flag a text that
it failed on. -/
theorem ChangeEvent.failure?_eq_flagRejected_iff {name : String}
    {source : Error} :
    event.failure? directory flags = some (.flagRejected name source) ↔
      ∃ text flag, event.Concerns directory flags name text flag ∧
        (flag.set text).1 = .failed source := by
  constructor
  · intro failed
    by_cases concerned : ∃ other text flag,
        event.Concerns directory flags other text flag
    · obtain ⟨other, text, flag, concerns⟩ := concerned
      rw [concerns.failure?_eq] at failed
      cases outcome : (flag.set text).1 with
      | failed error =>
          rw [outcome] at failed
          cases failed
          exact ⟨text, flag, concerns, outcome⟩
      | done =>
          rw [outcome] at failed
          cases failed
      | crashed detail =>
          rw [outcome] at failed
          cases failed
    · push Not at concerned
      have foreign := (event.failure?_of_not_concerns concerned failed).1
      cases foreign
  · rintro ⟨text, flag, concerns, outcome⟩
    rw [concerns.failure?_eq, outcome]

/-- Only a failure of the flag can be a rejection. -/
theorem ChangeEvent.flagRejected_of_isRejection {error : Error}
    (failed : event.failure? directory flags = some error)
    (rejection : error.isRejection = true) :
    ∃ name source, error = .flagRejected name source := by
  by_cases concerned : ∃ name text flag,
      event.Concerns directory flags name text flag
  · obtain ⟨name, text, flag, concerns⟩ := concerned
    rw [concerns.failure?_eq] at failed
    split at failed
    · cases failed
      exact ⟨_, _, rfl⟩
    · cases failed
  · push Not at concerned
    have foreign := (event.failure?_of_not_concerns concerned failed).2
    rw [rejection] at foreign
    cases foreign

/-- A change is refused just if its flag failed on it, and a rejection is always
such a failure. -/
structure ChangeEvent.IsJudged (event : ChangeEvent) (directory : String)
    (flags : FlagSet V) : Prop where
  refused : ∀ name,
    (handleEvent directory flags event).verdict = .refused name ↔
      ∃ source, event.failure? directory flags =
        some (.flagRejected name source)
  failed : ∀ name source,
    event.failure? directory flags = some (.flagRejected name source) ↔
      ∃ text flag, event.Concerns directory flags name text flag ∧
        (flag.set text).1 = .failed source
  rejected : ∀ error, event.failure? directory flags = some error →
    error.isRejection = true →
      ∃ name source, error = .flagRejected name source

theorem ChangeEvent.isJudged (event : ChangeEvent) (directory : String)
    (flags : FlagSet V) : event.IsJudged directory flags where
  refused name := by
    simp only [handleEvent_refused, failure?_eq_flagRejected_iff]
    constructor
    · rintro ⟨text, flag, concerns, source, outcome⟩
      exact ⟨source, text, flag, concerns, outcome⟩
    · rintro ⟨source, text, flag, concerns, outcome⟩
      exact ⟨text, flag, concerns, source, outcome⟩
  failed _ _ := failure?_eq_flagRejected_iff
  rejected _ := flagRejected_of_isRejection

theorem ChangeEvent.failsBy_isFlagRejected_iff :
    event.failsBy Error.isFlagRejected directory flags = true ↔
      ∃ name source,
        event.failure? directory flags = some (.flagRejected name source) := by
  rw [ChangeEvent.failsBy, Option.any_eq_true]
  constructor
  · rintro ⟨error, failed, own⟩
    obtain ⟨name, source, rfl⟩ := Error.isFlagRejected_iff.mp own
    exact ⟨name, source, failed⟩
  · rintro ⟨name, source, failed⟩
    exact ⟨_, failed, rfl⟩

theorem ChangeEvent.failsBy_of_isRejection
    (rejected : event.failsBy Error.isRejection directory flags = true) :
    event.failsBy Error.isFlagRejected directory flags = true := by
  rw [ChangeEvent.failsBy, Option.any_eq_true] at rejected
  obtain ⟨error, failed, rejection⟩ := rejected
  obtain ⟨name, source, rfl⟩ :=
    ChangeEvent.flagRejected_of_isRejection failed rejection
  exact failsBy_isFlagRejected_iff.mpr ⟨name, source, failed⟩

/-- Where the failures of flags are rejections. -/
theorem ChangeEvent.isRejection_of_failsBy_iff :
    (event.failsBy Error.isFlagRejected directory flags = true →
        event.failsBy Error.isRejection directory flags = true) ↔
      ∀ name source, event.failure? directory flags =
        some (.flagRejected name source) → source.isRejection = true := by
  constructor
  · intro agrees name source failed
    have rejected :=
      agrees (failsBy_isFlagRejected_iff.mpr ⟨name, source, failed⟩)
    rwa [ChangeEvent.failsBy, failed] at rejected
  · intro honest own
    obtain ⟨name, source, failed⟩ := failsBy_isFlagRejected_iff.mp own
    rw [ChangeEvent.failsBy, failed]
    exact honest name source failed

theorem ChangeEvent.answer?_eq (event : ChangeEvent) (directory : String)
    (flags : FlagSet V) :
    event.answer? directory flags =
      if event.failsBy Error.isFlagRejected directory flags then
        some event.undo
      else none := by
  have judged := event.isJudged directory flags
  have refused : event.isRefused directory flags =
      event.failsBy Error.isFlagRejected directory flags := by
    rw [Bool.eq_iff_iff, isRefused_iff, failsBy_isFlagRejected_iff]
    exact exists_congr judged.refused
  rw [ChangeEvent.answer?, refused, ChangeEvent.undo]
  cases event.previous <;> rfl

end Failing

/-- Inputs of scalars are refused by their readers only. -/
theorem Scalar.onlyRejects (scalar : Scalar) :
    FlagValue.OnlyRejects scalar := by
  intro input error failed
  simp only [FlagValue.set, Scalar.set] at failed
  cases found : Scalar.read scalar.type (Text.trim input) with
  | ok value =>
      rw [found] at failed
      cases failed
  | error fault =>
      rw [found] at failed
      cases failed
      rfl

theorem Cell.isRejection_of_parse {α : Type} [Document α] {bytes : List UInt8}
    {error : Error}
    (failed : (Cell.parse bytes : Except Error α) = .error error) :
    error.isRejection = true := by
  unfold Cell.parse at failed
  split at failed
  · split at failed
    · cases failed
      rfl
    · split at failed <;> cases failed
      rfl
  · split at failed <;> cases failed
    rfl

/-- Inputs of cells are refused by the reader or the validator only. -/
theorem Cell.onlyRejects {α : Type} [Document α] (cell : Cell α) :
    FlagValue.OnlyRejects cell := by
  intro input error failed
  change (cell.set input).1 = .failed error at failed
  rcases cell.set_cases input with ⟨document, _, done⟩ | ⟨cause, found, refused⟩
  · rw [done] at failed
    cases failed
  · rw [refused] at failed
    cases failed
    unfold Cell.candidate at found
    split at found
    · rename_i unread
      cases found
      exact Cell.isRejection_of_parse unread
    · split at found <;> cases found
      rfl

theorem Structured.onlyRejects (structured : Structured) :
    FlagValue.OnlyRejects structured := by
  intro input error failed
  cases structured with
  | limits cell => exact cell.onlyRejects input error failed
  | policy cell => exact cell.onlyRejects input error failed
  | unseen cell => exact cell.onlyRejects input error failed

theorem Setting.onlyRejects_iff {setting : Setting} :
    FlagValue.OnlyRejects setting ↔
      ∀ error, setting = .refusing error → error.isRejection = true := by
  cases setting with
  | scalar value =>
      exact iff_of_true value.onlyRejects nofun
  | structured value =>
      exact iff_of_true value.onlyRejects nofun
  | refusing reason =>
      constructor
      · rintro honest error same
        cases same
        exact honest "" reason rfl
      · rintro rejection input error failed
        cases failed
        exact rejection reason rfl
  | crashing detail =>
      exact iff_of_true nofun nofun

namespace Client

variable {V S W : Type} [FlagValue V] [KeyValueStore S W]

/-- The undoing of the handled changes that failed in a certain way. -/
def undone (start : Client V S W) (moves : List (Move V S))
    (warrants : Error → Bool) : List WriteCommand :=
  ((start.handled moves).filter fun (flags, event) =>
    event.failsBy warrants start.directory flags).map fun (_, event) =>
      event.undo

theorem answers_eq_undone (start : Client V S W) (moves : List (Move V S)) :
    start.answers moves = start.undone moves Error.isFlagRejected := by
  rw [answers, undone, ← List.filterMap_eq_map, List.filterMap_filter]
  congr 1
  funext call
  exact call.2.answer?_eq start.directory call.1

theorem undone_eq_iff (start : Client V S W) (moves : List (Move V S)) :
    start.undone moves Error.isRejection =
        start.undone moves Error.isFlagRejected ↔
      ∀ flags event, (flags, event) ∈ start.handled moves → ∀ name source,
        event.failure? start.directory flags =
          some (.flagRejected name source) → source.isRejection = true := by
  simp only [← ChangeEvent.isRejection_of_failsBy_iff]
  constructor
  · intro same flags event member own
    -- The rejections are among the failures, so as many of them are all.
    let fails (warrants : Error → Bool) (call : FlagSet V × ChangeEvent) :=
      call.2.failsBy warrants start.directory call.1
    have among : ((start.handled moves).filter
        (fails Error.isRejection)).Sublist
          ((start.handled moves).filter (fails Error.isFlagRejected)) :=
      List.monotone_filter_right _ fun _ =>
        ChangeEvent.failsBy_of_isRejection
    have equal := among.eq_of_length
      (by simpa [undone] using congrArg List.length same)
    have kept : (flags, event) ∈
        (start.handled moves).filter (fails Error.isFlagRejected) :=
      List.mem_filter.mpr ⟨member, own⟩
    rw [← equal] at kept
    exact (List.mem_filter.mp kept).2
  · intro agrees
    rw [undone, undone]
    congr 1
    apply List.filter_congr
    rintro ⟨flags, event⟩ member
    rw [Bool.eq_iff_iff]
    exact ⟨ChangeEvent.failsBy_of_isRejection, agrees flags event member⟩

/-- While all flags only reject, what is undone is what was rejected. -/
theorem undone_of_onlyRejects {start : Client V S W} {moves : List (Move V S)}
    (honest : ∀ flags event, (flags, event) ∈ start.handled moves →
      flags.Every fun _ flag => FlagValue.OnlyRejects flag.value) :
    start.undone moves Error.isRejection =
      start.undone moves Error.isFlagRejected := by
  rw [undone_eq_iff]
  intro flags event member name source failed
  obtain ⟨text, flag, concerns, outcome⟩ :=
    ChangeEvent.failure?_eq_flagRejected_iff.mp failed
  exact honest flags event member name flag concerns.reaches.found text source
    outcome

/-- Whatever its store does, a synchronizer undoes the handled changes that
their flags failed on, in whatever way.  These are the rejected ones just if no
flag failed in another way. -/
theorem undoes_what_flags_fail_on (config : Config) (world : World V S)
    (moves : List (Move V S)) :
    let start : Client V S W := .fresh config world
    let client := start.run moves
    client.writes ++ client.sync.due =
        start.undone moves Error.isFlagRejected ∧
      (∀ (flags : FlagSet V) (event : ChangeEvent),
        event.IsJudged start.directory flags) ∧
      (start.undone moves Error.isRejection =
          start.undone moves Error.isFlagRejected ↔
        ∀ flags event, (flags, event) ∈ start.handled moves → ∀ name source,
          event.failure? start.directory flags =
            some (.flagRejected name source) → source.isRejection = true) := by
  intro start client
  refine ⟨?_, ?_, undone_eq_iff start moves⟩
  · rw [← answers_eq_undone]
    exact writes_due_run config world moves
  · intro flags event
    exact event.isJudged start.directory flags

/-- A value arrives for a flag. -/
def arriving : List (Move Setting MemoryStore) :=
  [.load, .start true, .loop 0 0, .loop 0 0,
    .store fun store => (store.set "/c/a" "on" none).2,
    .loop 0 0, .loop 0 0]

/-- A flag that fails without looking at the value. -/
def broken : World Setting MemoryStore :=
  { flags := FlagSet.empty.replace "a"
      { value := .refusing (.other "boom"), dynamic := true }
    store := .empty 8 }

theorem broken_undoes :
    ((fresh { directory := "/c" } broken).run arriving).writes =
      [.delete "/c/a" (some 1)] := by
  obtain ⟨same, _⟩ :=
    undoes_what_flags_fail_on { directory := "/c" } broken arriving
  have rest : ((fresh { directory := "/c" } broken).run
      arriving).sync.due = [] := by
    decide +kernel
  rw [rest, List.append_nil] at same
  rw [same]
  decide +kernel

/-- The change is undone although it was not rejected. -/
theorem broken_disagrees :
    (handleEvent "/c/" broken.flags (.set "/c/a" "on" 1 none)).verdict =
        .refused "a" ∧
      (¬ ∃ error, ChangeEvent.failure? "/c/" broken.flags
          (.set "/c/a" "on" 1 none) = some error ∧ error.isRejection = true) ∧
      ((fresh { directory := "/c" } broken).run arriving).writes ≠
        (fresh { directory := "/c" } broken).undone arriving
          Error.isRejection := by
  refine ⟨rfl, ?_, by decide +kernel⟩
  rintro ⟨error, failed, rejection⟩
  have boom : ChangeEvent.failure? "/c/" broken.flags
      (.set "/c/a" "on" 1 none) =
        some (.flagRejected "a" (.other "boom")) := rfl
  rw [boom] at failed
  cases failed
  cases rejection

end Client

end LiveFlags
