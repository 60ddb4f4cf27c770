import LiveFlags.Proofs.Flag.Setting
import LiveFlags.Proofs.Sync.Undoing

/-!
# Undoing what was undone

Undoing a mutation writes the value before it back, and the loop takes this
write like any other.  It is undone in its turn just if the value is not empty
and the flag refuses it, which is so when two refused values were written one
after the other.  As long as no such value is written back, every mutation that
is undone was made by others and is undone once.
-/

namespace LiveFlags.System

variable {V : Type} [FlagValue V]

section Counts

/-- The index of the mutation by which others change a key in a move. -/
def written? (system : System V) (key : String) : Move → Option Nat
  | .act (.write command) =>
      match (system.world.store.run command).1 with
      | .ok index => if command.key = key then some index else none
      | .error _ => none
  | _ => none

/-- The mutations of a key that a run undoes with success. -/
def rollbacks (system : System V) (key : String) :
    List Move → List ChangeEvent
  | [] => []
  | move :: later =>
      ((system.undone? move).filter fun event => event.key = key).toList ++
        (system.step move).rollbacks key later

/-- The mutations of a key that others make in a run. -/
def writes (system : System V) (key : String) : List Move → List Nat
  | [] => []
  | move :: later =>
      (system.written? key move).toList ++ (system.step move).writes key later

/-- Whenever a value was written back in a run under the key of a flag, it is
empty or the flag does not refuse it afterwards. -/
def AcceptsWriteBacks (start : System V) (moves : List Move)
    (name : String) : Prop :=
  ∀ before move between later event text flag,
    moves = before ++ move :: (between ++ later) →
      (start.run before).undone? move = some event →
        event.key = start.directory ++ name → event.previous = some text →
          text ≠ "" →
            (start.run (before ++ move :: between)).world.flags.lookup? name =
              some flag → ¬ FlagValue.Refuses flag.value text

theorem rollbacks_append (system : System V) (key : String)
    (earlier later : List Move) :
    system.rollbacks key (earlier ++ later) =
      system.rollbacks key earlier ++
        (system.run earlier).rollbacks key later := by
  induction earlier generalizing system with
  | nil => rfl
  | cons move earlier induction =>
      rw [List.cons_append, rollbacks, rollbacks, induction, List.append_assoc]
      rfl

theorem writes_append (system : System V) (key : String)
    (earlier later : List Move) :
    system.writes key (earlier ++ later) =
      system.writes key earlier ++ (system.run earlier).writes key later := by
  induction earlier generalizing system with
  | nil => rfl
  | cons move earlier induction =>
      rw [List.cons_append, writes, writes, induction, List.append_assoc]
      rfl

theorem mem_rollbacks_of_undone {start : System V} {before later : List Move}
    {move : Move} {event : ChangeEvent}
    (undone : (start.run before).undone? move = some event) :
    event ∈ start.rollbacks event.key (before ++ move :: later) := by
  rw [rollbacks_append, rollbacks, undone]
  simp

end Counts

/-- A mutation that a run made when it undid another one. -/
def IsEcho (start : System V) (moves : List Move) (echo : ChangeEvent) : Prop :=
  ∃ before move between event, moves = before ++ move :: between ∧
    (start.run before).undone? move = some event ∧ event.key = echo.key ∧
      event.previous = echo.value

/-- What a run did to a key so far: whatever it undid was written by others and
is undone once, and whatever stands above the start was written by others or
when something was undone. -/
structure Tally (start : System V) (moves : List Move) (key : String)
    (log : List ChangeEvent) : Prop where
  sound : (start.run moves).Sound log
  grown : start.world.store.index ≤ log.length
  begun : (start.run moves).sync.initialized = true →
    start.world.store.index ≤ (start.run moves).sync.cursor
  distinct : ((start.rollbacks key moves).map ChangeEvent.index).Nodup
  undone : ∀ event ∈ start.rollbacks key moves,
    event.index ∈ start.writes key moves ∧
      event.index ≤ (start.run moves).sync.cursor
  pending : ∀ number name event watch,
    (start.run moves).sync.phase? number = some (.undoing name event watch) →
      event.key = key → event.index ∈ start.writes key moves ∧
        event.index ∉ (start.rollbacks key moves).map ChangeEvent.index
  origin : ∀ event ∈ log, event.key = key →
    start.world.store.index < event.index →
      event.index ∈ start.writes key moves ∨ start.IsEcho moves event

theorem Tally.fresh {config : Config} {world : World V MemoryStore}
    {log : List ChangeEvent} (traces : world.store.Traces log) (key : String) :
    Tally (fresh config world) [] key log where
  sound := .fresh traces config
  grown := Nat.le_of_eq traces.index
  begun := by
    intro initialized
    cases initialized
  distinct := List.nodup_nil
  undone := by
    intro event member
    cases member
  pending := by
    intro number name event watch found
    cases found
  origin := by
    intro event member _ above
    have upper := (traces.numbered.bounds member).2
    have total := traces.index
    change world.store.index < event.index at above
    omega

section Steps

variable {start : System V} {moves : List Move} {name : String}
variable {log : List ChangeEvent}

/-- One more move undoes no mutation of a key, or one. -/
theorem rollbacks_concat (start : System V) (key : String)
    (moves : List Move) (move : Move) :
    start.rollbacks key (moves ++ [move]) = start.rollbacks key moves ∨
      ∃ event, (start.run moves).undone? move = some event ∧ event.key = key ∧
        start.rollbacks key (moves ++ [move]) =
          start.rollbacks key moves ++ [event] := by
  rw [rollbacks_append, rollbacks, rollbacks, List.append_nil]
  cases undone : (start.run moves).undone? move with
  | none =>
      left
      simp
  | some event =>
      by_cases same : event.key = key
      · right
        refine ⟨event, rfl, same, ?_⟩
        simp [same]
      · left
        simp [same]

theorem writes_concat (start : System V) (key : String)
    (moves : List Move) (move : Move) :
    start.writes key (moves ++ [move]) = start.writes key moves ++
      ((start.run moves).written? key move).toList := by
  rw [writes_append, writes, writes, List.append_nil]

theorem IsEcho.concat {echo : ChangeEvent} (isEcho : start.IsEcho moves echo)
    (move : Move) : start.IsEcho (moves ++ [move]) echo := by
  obtain ⟨before, undoing, between, event, rfl, undone, key, previous⟩ := isEcho
  refine ⟨before, undoing, between ++ [move], event, ?_, undone, key, previous⟩
  simp

/-- No echo is refused when every value written back is accepted. -/
theorem IsEcho.not_refused {echo : ChangeEvent}
    (isEcho : start.IsEcho moves echo)
    (accepts : start.AcceptsWriteBacks moves name) {text : String}
    {flag : Flag V}
    (concerns : echo.Concerns start.directory (start.run moves).world.flags
      name text flag) : ¬ FlagValue.Refuses flag.value text := by
  obtain ⟨before, move, between, event, rfl, undone, key, previous⟩ := isEcho
  obtain ⟨_, echoKey, _⟩ := flagName_eq_ok_iff.mp concerns.named
  exact accepts before move between [] event text flag (by simp) undone
    (key.trans echoKey) (previous.trans concerns.brings)
    concerns.reaches.filled concerns.reaches.found

/-- A mutation that a move adds was asked for by others or undoes another. -/
theorem origin_of_adds {move : Move} {key : String}
    {more : List ChangeEvent} (adds : (start.run moves).Adds move more)
    {event : ChangeEvent} (member : event ∈ more) (same : event.key = key) :
    event.index ∈ start.writes key (moves ++ [move]) ∨
      start.IsEcho (moves ++ [move]) event := by
  unfold Adds at adds
  split at adds
  · rename_i command asks
    cases adds with
    | failed answer => cases member
    | made answers answer =>
        rename_i made
        obtain rfl := List.mem_singleton.mp member
        unfold command? at asks
        split at asks
        · cases asks
          left
          rw [writes_concat, written?, answer]
          dsimp only
          rw [if_pos (answers.key.symm.trans same)]
          exact List.mem_append_right _ (List.mem_singleton_self _)
        · rename_i number draw
          split at asks
          · rename_i name undoing watch found
            cases asks
            right
            obtain ⟨sameKey, value⟩ := answers_undo answers
            refine ⟨moves, .loop number draw, [], undoing, rfl, ?_,
              sameKey.symm, value.symm⟩
            rw [undone?, found]
            dsimp only
            rw [answer]
          · cases asks
        · cases asks
  · subst adds
    cases member

/-- What is undone was written by others and was not undone before. -/
theorem Tally.pending_of_undone {key : String}
    (tally : Tally start moves key log) {move : Move} {event : ChangeEvent}
    (undone : (start.run moves).undone? move = some event)
    (same : event.key = key) : event.index ∈ start.writes key moves ∧
      event.index ∉ (start.rollbacks key moves).map ChangeEvent.index := by
  obtain ⟨number, _, undoneName, watch, _, _, found, _⟩ :=
    undone?_eq_some undone
  exact tally.pending number undoneName event watch found same

theorem Tally.begun_step {key : String} (tally : Tally start moves key log)
    {move : Move}
    (initialized : ((start.run moves).step move).sync.initialized = true) :
    start.world.store.index ≤ ((start.run moves).step move).sync.cursor := by
  cases before : (start.run moves).sync.initialized with
  | true =>
      exact Nat.le_trans (tally.begun before) (tally.sound.cursor_le move)
  | false =>
      rw [tally.sound.cursor_of_initialized before initialized]
      exact tally.grown

theorem Tally.distinct_step {key : String} (tally : Tally start moves key log)
    (move : Move) :
    ((start.rollbacks key (moves ++ [move])).map ChangeEvent.index).Nodup := by
  rcases start.rollbacks_concat key moves move with
    same | ⟨event, undone, sameKey, more⟩
  · rw [same]
    exact tally.distinct
  · obtain ⟨_, fresh⟩ := tally.pending_of_undone undone sameKey
    rw [more, List.map_append, List.map_singleton]
    exact List.nodup_append.mpr
      ⟨tally.distinct, List.nodup_singleton _, by simpa using fresh⟩

theorem Tally.undone_step {key : String} (tally : Tally start moves key log)
    {move : Move} {event : ChangeEvent}
    (undone : event ∈ start.rollbacks key (moves ++ [move])) :
    event.index ∈ start.writes key (moves ++ [move]) ∧
      event.index ≤ ((start.run moves).step move).sync.cursor := by
  have before : event.index ∈ start.writes key moves ∧
      event.index ≤ (start.run moves).sync.cursor := by
    rcases start.rollbacks_concat key moves move with
      same | ⟨latest, undoing, sameKey, more⟩
    · rw [same] at undone
      exact tally.undone event undone
    · rw [more] at undone
      rcases List.mem_append.mp undone with old | new
      · exact tally.undone event old
      · obtain rfl := List.mem_singleton.mp new
        exact ⟨(tally.pending_of_undone undoing sameKey).1,
          tally.sound.index_le_of_undone undoing⟩
  rw [writes_concat]
  exact ⟨List.mem_append_left _ before.1,
    Nat.le_trans before.2 (tally.sound.cursor_le move)⟩

/-- What a loop takes and the flag refuses was written by others, since no echo
is refused, and was not undone, since it is above the cursor. -/
theorem Tally.pending_of_refused
    (tally : Tally start moves (start.directory ++ name) log)
    (accepts : start.AcceptsWriteBacks moves name) {event : ChangeEvent}
    (initialized : (start.run moves).sync.initialized = true)
    (member : event ∈ log) (fresh : (start.run moves).sync.cursor < event.index)
    (key : event.key = start.directory ++ name) {refusing text : String}
    {flag : Flag V}
    (concerns : event.Concerns (start.run moves).directory
      (start.run moves).world.flags refusing text flag)
    (refuses : FlagValue.Refuses flag.value text) :
    event.index ∈ start.writes (start.directory ++ name) moves ∧
      event.index ∉ (start.rollbacks (start.directory ++ name) moves).map
        ChangeEvent.index := by
  rw [run_directory] at concerns
  obtain ⟨_, named, _⟩ := flagName_eq_ok_iff.mp concerns.named
  obtain rfl : refusing = name :=
    (String.append_right_inj _).mp (named.symm.trans key)
  constructor
  · have begun := tally.begun initialized
    rcases tally.origin event member key (by omega) with written | echo
    · exact written
    · exact absurd refuses (echo.not_refused accepts concerns)
  · intro undone
    obtain ⟨other, before, sameIndex⟩ := List.mem_map.mp undone
    have taken := (tally.undone other before).2
    omega

theorem Tally.pending_step
    (tally : Tally start moves (start.directory ++ name) log)
    (accepts : start.AcceptsWriteBacks moves name) {move : Move}
    {number : Nat} {refusing : String} {event : ChangeEvent}
    {watch : MemoryWatch}
    (undoing : ((start.run moves).step move).sync.phase? number =
      some (.undoing refusing event watch))
    (key : event.key = start.directory ++ name) :
    event.index ∈ start.writes (start.directory ++ name) (moves ++ [move]) ∧
      event.index ∉ (start.rollbacks (start.directory ++ name)
        (moves ++ [move])).map ChangeEvent.index := by
  obtain ⟨nothing, taken⟩ := tally.sound.undoing_step undoing
  have before : event.index ∈ start.writes (start.directory ++ name) moves ∧
      event.index ∉ (start.rollbacks (start.directory ++ name) moves).map
        ChangeEvent.index := by
    rcases taken with
      old | ⟨initialized, member, fresh, text, flag, concerns, refuses⟩
    · exact tally.pending number refusing event watch old key
    · exact tally.pending_of_refused accepts initialized member fresh key
        concerns refuses
  rcases start.rollbacks_concat (start.directory ++ name) moves move with
    same | ⟨other, undone, _⟩
  · rw [same, writes_concat]
    exact ⟨List.mem_append_left _ before.1, before.2⟩
  · rw [nothing] at undone
    cases undone

theorem Tally.step (tally : Tally start moves (start.directory ++ name) log)
    (accepts : start.AcceptsWriteBacks moves name) (move : Move) :
    ∃ more, Tally start (moves ++ [move]) (start.directory ++ name)
      (log ++ more) := by
  obtain ⟨more, adds, sound⟩ := tally.sound.step move
  refine ⟨more, ?_, ?_, ?_, tally.distinct_step move, ?_, ?_, ?_⟩
  · rw [run_concat]
    exact sound
  · rw [List.length_append]
    exact Nat.le_add_right_of_le tally.grown
  · rw [run_concat]
    exact tally.begun_step
  · rw [run_concat]
    exact fun _ => tally.undone_step
  · rw [run_concat]
    exact fun _ _ _ _ => tally.pending_step accepts
  · intro event member key above
    rcases List.mem_append.mp member with old | new
    · rcases tally.origin event old key above with written | echo
      · left
        rw [writes_concat]
        exact List.mem_append_left _ written
      · exact .inr (echo.concat move)
    · exact origin_of_adds adds new key

theorem AcceptsWriteBacks.init {move : Move}
    (accepts : start.AcceptsWriteBacks (moves ++ [move]) name) :
    start.AcceptsWriteBacks moves name := by
  intro before undoing between later event text flag parted
  apply accepts before undoing between (later ++ [move]) event text flag
  rw [parted]
  simp

theorem Tally.run (tally : Tally start [] (start.directory ++ name) log)
    (moves : List Move) (accepts : start.AcceptsWriteBacks moves name) :
    ∃ more, Tally start moves (start.directory ++ name) (log ++ more) := by
  -- From the end, since a tally speaks of the whole run up to the last move.
  induction moves using List.reverseRecOn with
  | nil =>
      refine ⟨[], ?_⟩
      rw [List.append_nil]
      exact tally
  | append_singleton moves move induction =>
      obtain ⟨more, before⟩ := induction accepts.init
      obtain ⟨evenMore, after⟩ := before.step accepts.init move
      rw [List.append_assoc] at after
      exact ⟨more ++ evenMore, after⟩

/-- Each mutation that is undone is charged to the write that made it. -/
theorem Tally.length_le {key : String} (tally : Tally start moves key log) :
    (start.rollbacks key moves).length ≤ (start.writes key moves).length := by
  have charged : (start.rollbacks key moves).map ChangeEvent.index ⊆
      start.writes key moves := by
    intro index member
    obtain ⟨event, undone, rfl⟩ := List.mem_map.mp member
    exact (tally.undone event undone).1
  simpa using tally.distinct.length_le_of_subset charged

end Steps

/-- Steady flags accept what is written back if they did at the start. -/
theorem acceptsWriteBacks_of_steady {config : Config}
    {world : World V MemoryStore} (reachable : world.store.Reachable)
    (steady : world.flags.Every fun _ flag => FlagValue.Steady flag.value)
    {moves : List Move} {name : String}
    (accepted : ∀ event ∈ (fresh config world).rollbacks
        ((fresh config world).directory ++ name) moves, ∀ text flag,
      event.previous = some text → text ≠ "" →
        world.flags.lookup? name = some flag →
          ¬ FlagValue.Refuses flag.value text) :
    (fresh config world).AcceptsWriteBacks moves name := by
  obtain ⟨log, traces⟩ := reachable.traces
  intro before move between later event text flag parted undone key previous
    filled found
  have member : event ∈ (fresh config world).rollbacks
      ((fresh config world).directory ++ name) moves := by
    rw [parted, ← key]
    exact mem_rollbacks_of_undone undone
  have stable : Flag.IsStable fun other (flag : Flag V) =>
      FlagValue.Steady flag.value ∧
        (other = name → ¬ FlagValue.Refuses flag.value text) := by
    rintro other flag input ⟨steady, accepts⟩
    refine ⟨steady.set input, fun same refuses => ?_⟩
    exact accepts same ((steady.refuses_set input text).mp refuses)
  have every := (Sound.fresh traces config).every_run stable
    (fun other flag known => ⟨steady other flag known, fun same =>
      accepted event member text flag previous filled (same ▸ known)⟩)
    (before ++ move :: between)
  exact (every name flag found).2 rfl

/-- The write that undid a mutation is undone in its turn just if the value
that it brought back is not empty and the flag refuses it.  When no such value
is written back, no more mutations of a key are undone than others made, also
after they make no more. -/
theorem undoing_settles (config : Config) {world : World V MemoryStore}
    (reachable : world.store.Reachable)
    (valid : world.flags.Every fun name _ => Key.isFlagName name = true) :
    (∀ before move between event echo name text number draw flag,
      ((fresh config world).run before).undone? move = some event →
        event.key = (fresh config world).directory ++ name →
        event.previous = some text →
        ((fresh config world).run
          (before ++ move :: between)).offered? number = some echo →
        echo.index = ((fresh config world).run before).world.store.index + 1 →
        ((fresh config world).run
          (before ++ move :: between)).world.flags.lookup? name = some flag →
        flag.dynamic = true →
        ((∃ watch, ((fresh config world).run (before ++ move :: between ++
            [.loop number draw])).sync.phase? number =
              some (.undoing name echo watch)) ↔
          text ≠ "" ∧ FlagValue.Refuses flag.value text)) ∧
      ∀ moves name, (fresh config world).AcceptsWriteBacks moves name →
        ∀ earlier later, moves = earlier ++ later →
          ((fresh config world).run earlier).writes
            ((fresh config world).directory ++ name) later = [] →
          ((fresh config world).rollbacks
              ((fresh config world).directory ++ name) moves).length ≤
            ((fresh config world).writes
              ((fresh config world).directory ++ name) earlier).length := by
  obtain ⟨log, traces⟩ := reachable.traces
  have start := Sound.fresh traces config
  constructor
  · intro before move between event echo name text number draw flag undone key
      previous offered index found dynamic
    have validName : Key.isFlagName name = true :=
      start.every_run (fun _ _ _ valid => valid) valid _ name flag found
    have directory :=
      run_directory (fresh config world) (before ++ move :: between)
    obtain ⟨more, sound⟩ := start.run before
    rw [run_append (fresh config world) (before ++ move :: between)]
    rw [run_append, run_cons] at offered found directory ⊢
    obtain ⟨⟨evenMore, later⟩, sameKey, brings, leaf⟩ :=
      sound.echo undone offered index
    refine later.undoing_iff offered draw ?_ (brings.trans previous) found
      dynamic
    rw [directory, sameKey, leaf, key]
    exact flagName_of_isFlagName _ validName
  · intro moves name accepts earlier later parted quiet
    obtain ⟨more, tally⟩ := (Tally.fresh traces _).run moves accepts
    have bound := tally.length_le
    rw [parted, writes_append, quiet, List.append_nil] at bound
    rw [parted]
    exact bound

/-- A course in which others set a switch to a value that it takes and then to
one that it refuses, and the loop writes the first one back. -/
def mending : List Move :=
  [.load, .start true, .loop 0 0, .loop 0 0,
    .act (.write (.set "/c/a" "true" none)), .loop 0 0,
    .act (.write (.set "/c/a" "on" none)), .loop 0 0, .loop 0 0]

theorem mending_settles :
    (¬ ∃ watch, ((fresh { directory := "/c" } (World.switch 4)).run
        (mending ++ [.loop 0 0])).sync.phase? 0 = some (.undoing "a"
          ⟨.compareAndSwap, "/c/a", some "true", false, 3, some "on"⟩ watch)) ∧
      ((fresh { directory := "/c" } (World.switch 4)).rollbacks "/c/a"
          (mending ++ [.loop 0 0])).length ≤
        ((fresh { directory := "/c" } (World.switch 4)).writes "/c/a"
          mending).length := by
  have reachable : (World.switch 4).store.Reachable := .empty 4
  obtain ⟨echoes, counts⟩ := undoing_settles { directory := "/c" } reachable
    (FlagSet.switch_valid (by decide))
  constructor
  · have known : (((fresh { directory := "/c" } (World.switch 4)).run
        mending).world.flags.lookup? "a").any (fun flag => flag.dynamic &&
          !decide (FlagValue.Refuses flag.value "true")) = true := by
      decide +kernel
    obtain ⟨flag, found, both⟩ := (Option.any_eq_true _ _).mp known
    simp only [Bool.and_eq_true, Bool.not_eq_true', decide_eq_false_iff_not]
      at both
    obtain ⟨dynamic, accepts⟩ := both
    have echo := echoes mending.dropLast (.loop 0 0) []
      ⟨.set, "/c/a", some "on", false, 2, some "true"⟩
      ⟨.compareAndSwap, "/c/a", some "true", false, 3, some "on"⟩
      "a" "true" 0 0 flag (by decide +kernel) (by decide) rfl
      (by decide +kernel) (by decide +kernel) found dynamic
    intro undoing
    exact accepts (echo.mp undoing).2
  · have accepts : (fresh { directory := "/c" }
        (World.switch 4)).AcceptsWriteBacks (mending ++ [.loop 0 0]) "a" := by
      apply acceptsWriteBacks_of_steady (.empty 4) (FlagSet.switch_steady "a")
      have texts : ∀ event ∈ (fresh { directory := "/c" }
          (World.switch 4)).rollbacks "/c/a" (mending ++ [.loop 0 0]),
          event.previous = some "true" := by
        decide +kernel
      intro event member text flag previous _ found
      rw [texts event member] at previous
      cases previous
      cases found
      decide
    exact counts (mending ++ [.loop 0 0]) "a" accepts mending [.loop 0 0] rfl
      (by decide +kernel)

/-- A course in which others write two values in a row that a switch refuses. -/
def quarrel : List Move :=
  [.load, .start true, .loop 0 0, .loop 0 0,
    .act (.write (.set "/c/a" "on" none)),
    .act (.write (.set "/c/a" "off" none))] ++ .replicate 8 (.loop 0 0)

/-- The two values are written back in turns, each to be undone again. -/
theorem quarrel_goes_on :
    ((fresh { directory := "/c" } (World.switch 4)).run
        (quarrel.take 9)).undone? (.loop 0 0) =
          some ⟨.set, "/c/a", some "off", false, 2, some "on"⟩ ∧
      ((fresh { directory := "/c" } (World.switch 4)).run
        (quarrel.take 10)).offered? 0 =
          some ⟨.compareAndSwap, "/c/a", some "on", false, 3, some "off"⟩ ∧
      ((fresh { directory := "/c" } (World.switch 4)).run
        (quarrel.take 11)).undone? (.loop 0 0) =
          some ⟨.compareAndSwap, "/c/a", some "on", false, 3, some "off"⟩ ∧
      ((fresh { directory := "/c" } (World.switch 4)).writes "/c/a"
          quarrel).length <
        ((fresh { directory := "/c" } (World.switch 4)).rollbacks "/c/a"
          quarrel).length :=
  ⟨by decide +kernel, by decide +kernel, by decide +kernel,
    by decide +kernel⟩

end LiveFlags.System
