import AiGateway.Foundations.Runs
import Mathlib.Data.List.Infix
import Mathlib.Data.List.Nodup

/-!
# The migration runner

A runner reads the ledger of applied migrations once, and then applies the files
that are not in it, each in a transaction together with its ledger row unless the
file opts out. Any number of runners overlap here, without a lock, and each may
crash or lose its connection between any two statements, also while a `COMMIT` is
on its way. The primary key of the ledger is all that coordinates them.
-/

namespace AiGateway
namespace Database
namespace Migrations

open Foundations

/-- A file of the directory of migrations. -/
structure Migration where
  name : String
  sql : String
  deriving DecidableEq, Repr

/-- `NO_TX_DIRECTIVE`. -/
def noTxDirective : String := "-- migrate:no-transaction"

/-- `!sql.includes(NO_TX_DIRECTIVE)`. -/
def Migration.transactional (file : Migration) : Bool :=
  !decide (noTxDirective.toList <:+: file.sql.toList)

/-- The files that `run` goes through. -/
def migrationFiles
    (localeCompare : String → String → Ordering)
    (directory : List Migration) : List Migration :=
  (directory.filter fun file => ".sql".toList <:+ file.name.toList).mergeSort
    fun left right => (localeCompare left.name right.name).isLE

/-- Where a runner is: the statement it sends next. -/
inductive Stage
  /-- `ensureLedger`. -/
  | ensuring
  /-- `appliedMigrations`. -/
  | reading
  /-- The next file, which is skipped, begun, or run outside a transaction. -/
  | looping
  /-- After `BEGIN`: the file. -/
  | begun
  /-- In a transaction, after the file: its ledger row. -/
  | executed
  /-- In a transaction, after the ledger row: `COMMIT`. -/
  | inserted
  /-- Outside a transaction, after the file: its ledger row. -/
  | unrecorded
  | complete
  | failed
  deriving DecidableEq, Repr

/-- One call of `run`. -/
structure Runner where
  applied : List String := []
  remaining : List Migration
  stage : Stage := .ensuring
  deriving DecidableEq, Repr

/-- A file whose effects are committed. -/
structure Applied where
  name : String
  /-- Whether they were committed together with the ledger row. -/
  inTransaction : Bool
  deriving DecidableEq, Repr

/-- What is committed, and the runners. -/
structure State where
  /-- The rows of `_migrations`. -/
  ledger : List String := []
  /-- The files whose effects are committed, the oldest first. -/
  history : List Applied := []
  runners : List Runner := []
  deriving DecidableEq, Repr

/-- What becomes of a statement. -/
inductive Answer
  | ok
  /-- The server refuses it. -/
  | refused
  /-- The server executed it, but the connection is lost. -/
  | lost
  deriving DecidableEq, Repr

/-- What happens next. -/
inductive Event
  | start (directory : List Migration)
  /-- The next statement of a runner, or its next turn of the loop. -/
  | advance (runner : Nat) (answer : Answer)
  | crash (runner : Nat)
  deriving DecidableEq, Repr

namespace Runner

variable (runner : Runner)

/-- The runner has an uncommitted ledger row of this name. -/
def holds (name : String) : Bool :=
  runner.stage = .inserted && runner.remaining.head?.any fun file => file.name = name

/-- The runner at another stage. -/
def enter (stage : Stage) : Runner := { runner with stage := stage }

/-- `throw`, after a `ROLLBACK` if a transaction is open. -/
def fail : Runner := runner.enter .failed

/-- The next turn of the loop. -/
def next : Runner :=
  { runner with remaining := runner.remaining.tail, stage := .looping }

end Runner

namespace State

variable (state : State)

/-- A runner goes on. -/
def put (index : Nat) (runner : Runner) : State :=
  { state with runners := state.runners.set index runner }

/-- A ledger row of this name waits for a `COMMIT`. -/
def held (name : String) : Bool :=
  state.runners.any fun runner => runner.holds name

/-- The effects of a file are committed. -/
def commit (name : String) (inTransaction : Bool) : State :=
  { state with history := state.history ++ [⟨name, inTransaction⟩] }

/-- A ledger row is committed. -/
def record (name : String) : State :=
  { state with ledger := state.ledger ++ [name] }

/-- The turn of the loop for a file: it is skipped, begun, or run. -/
def turn (index : Nat) (runner : Runner) (file : Migration) (answer : Answer) :
    State :=
  if file.name ∈ runner.applied then
    state.put index runner.next
  else if file.transactional then
    match answer with
    | .ok => state.put index (runner.enter .begun)
    | .refused | .lost => state.put index runner.fail
  else
    match answer with
    | .ok =>
        (state.commit file.name false).put index (runner.enter .unrecorded)
    | .refused => state.put index runner.fail
    | .lost => (state.commit file.name false).put index runner.fail

/-- The ledger row of a file, in its transaction: an uncommitted row of the same
name blocks it, a committed one refuses it. -/
def insert (index : Nat) (runner : Runner) (file : Migration) (answer : Answer) :
    State :=
  match answer with
  | .ok =>
      if state.held file.name then state
      else if file.name ∈ state.ledger then state.put index runner.fail
      else state.put index (runner.enter .inserted)
  | .refused | .lost => state.put index runner.fail

/-- The ledger row of a file that ran outside a transaction. -/
def insertBare (index : Nat) (runner : Runner) (file : Migration) (answer : Answer) :
    State :=
  if state.held file.name then
    match answer with
    | .ok => state
    | .refused | .lost => state.put index runner.fail
  else if file.name ∈ state.ledger then
    state.put index runner.fail
  else
    match answer with
    | .ok => (state.record file.name).put index runner.next
    | .refused => state.put index runner.fail
    | .lost => (state.record file.name).put index runner.fail

/-- One statement of a runner. -/
def advance (index : Nat) (runner : Runner) (answer : Answer) : State :=
  match runner.stage with
  | .ensuring =>
      match answer with
      | .ok => state.put index (runner.enter .reading)
      | .refused | .lost => state.put index runner.fail
  | .reading =>
      match answer with
      | .ok =>
          state.put index { runner with applied := state.ledger, stage := .looping }
      | .refused | .lost => state.put index runner.fail
  | .looping =>
      match runner.remaining with
      | [] => state.put index (runner.enter .complete)
      | file :: _ => state.turn index runner file answer
  | .begun =>
      match answer with
      | .ok => state.put index (runner.enter .executed)
      | .refused | .lost => state.put index runner.fail
  | .executed =>
      match runner.remaining with
      | [] => state
      | file :: _ => state.insert index runner file answer
  | .inserted =>
      match runner.remaining, answer with
      | [], _ => state
      | file :: _, .ok =>
          ((state.record file.name).commit file.name true).put index runner.next
      | _ :: _, .refused => state.put index runner.fail
      | file :: _, .lost =>
          ((state.record file.name).commit file.name true).put index runner.fail
  | .unrecorded =>
      match runner.remaining with
      | [] => state
      | file :: _ => state.insertBare index runner file answer
  | .complete | .failed => state

variable (localeCompare : String → String → Ordering)

/-- One event. -/
def step (state : State) : Event → State
  | .start directory =>
      { state with
        runners := state.runners ++
          [{ remaining := migrationFiles localeCompare directory }] }
  | .advance index answer =>
      match state.runners[index]? with
      | some runner => state.advance index runner answer
      | none => state
  | .crash index =>
      match state.runners[index]? with
      | some runner => state.put index runner.fail
      | none => state

end State

section Moves

/-- All that a statement of a runner can do. -/
inductive Move (state : State) (index : Nat) (runner : Runner) : State → Prop
  | stays : Move state index runner state
  | fails : Move state index runner (state.put index runner.fail)
  | ensured (stage : runner.stage = .ensuring) :
      Move state index runner (state.put index (runner.enter .reading))
  | read (stage : runner.stage = .reading) :
      Move state index runner
        (state.put index { runner with applied := state.ledger, stage := .looping })
  | completed (stage : runner.stage = .looping) (remaining : runner.remaining = []) :
      Move state index runner (state.put index (runner.enter .complete))
  | skipped {file rest} (stage : runner.stage = .looping)
      (remaining : runner.remaining = file :: rest)
      (known : file.name ∈ runner.applied) :
      Move state index runner (state.put index runner.next)
  | began {file rest} (stage : runner.stage = .looping)
      (remaining : runner.remaining = file :: rest)
      (unknown : file.name ∉ runner.applied)
      (transactional : file.transactional = true) :
      Move state index runner (state.put index (runner.enter .begun))
  | ran {file rest after} (stage : runner.stage = .looping)
      (remaining : runner.remaining = file :: rest)
      (unknown : file.name ∉ runner.applied)
      (bare : file.transactional = false)
      (next : after = runner.fail ∨ after = runner.enter .unrecorded) :
      Move state index runner ((state.commit file.name false).put index after)
  | executed (stage : runner.stage = .begun) :
      Move state index runner (state.put index (runner.enter .executed))
  | inserted {file rest} (stage : runner.stage = .executed)
      (remaining : runner.remaining = file :: rest)
      (free : state.held file.name = false)
      (isNew : file.name ∉ state.ledger) :
      Move state index runner (state.put index (runner.enter .inserted))
  | committed {file rest after} (stage : runner.stage = .inserted)
      (remaining : runner.remaining = file :: rest)
      (next : after = runner.fail ∨ after = runner.next) :
      Move state index runner
        (((state.record file.name).commit file.name true).put index after)
  | recorded {file rest after} (stage : runner.stage = .unrecorded)
      (remaining : runner.remaining = file :: rest)
      (free : state.held file.name = false)
      (isNew : file.name ∉ state.ledger)
      (next : after = runner.fail ∨ after = runner.next) :
      Move state index runner ((state.record file.name).put index after)

section Statements

variable {state : State} {index : Nat} {runner : Runner} {file : Migration}
  {rest : List Migration}

theorem move_turn
    (stage : runner.stage = .looping)
    (remaining : runner.remaining = file :: rest)
    (answer : Answer) :
    Move state index runner (state.turn index runner file answer) := by
  unfold State.turn
  by_cases known : file.name ∈ runner.applied
  · rw [if_pos known]
    exact .skipped stage remaining known
  · rw [if_neg known]
    cases bare : file.transactional with
    | true =>
        cases answer with
        | ok => exact .began stage remaining known bare
        | refused => exact .fails
        | lost => exact .fails
    | false =>
        cases answer with
        | ok => exact .ran stage remaining known bare (.inr rfl)
        | refused => exact .fails
        | lost => exact .ran stage remaining known bare (.inl rfl)

theorem move_insert
    (stage : runner.stage = .executed)
    (remaining : runner.remaining = file :: rest)
    (answer : Answer) :
    Move state index runner (state.insert index runner file answer) := by
  unfold State.insert
  cases answer with
  | refused => exact .fails
  | lost => exact .fails
  | ok =>
      cases free : state.held file.name with
      | true => exact .stays
      | false =>
          by_cases known : file.name ∈ state.ledger
          · simpa [known] using Move.fails
          · simpa [known] using Move.inserted stage remaining free known

theorem move_insertBare
    (stage : runner.stage = .unrecorded)
    (remaining : runner.remaining = file :: rest)
    (answer : Answer) :
    Move state index runner (state.insertBare index runner file answer) := by
  unfold State.insertBare
  cases free : state.held file.name with
  | true =>
      cases answer with
      | ok => exact .stays
      | refused => exact .fails
      | lost => exact .fails
  | false =>
      by_cases known : file.name ∈ state.ledger
      · simpa [known] using Move.fails
      · have recorded : ∀ after, after = runner.fail ∨ after = runner.next →
            Move state index runner ((state.record file.name).put index after) :=
          fun after => .recorded stage remaining free known
        cases answer with
        | ok => simpa [known] using recorded _ (.inr rfl)
        | refused => simpa [known] using Move.fails
        | lost => simpa [known] using recorded _ (.inl rfl)

end Statements

/-- A statement makes one of the moves. -/
theorem move_advance
    (state : State)
    (index : Nat)
    (runner : Runner)
    (answer : Answer) :
    Move state index runner (state.advance index runner answer) := by
  have failsUnless : ∀ {after : State}, Move state index runner after →
      Move state index runner
        (match answer with
          | .ok => after
          | .refused | .lost => state.put index runner.fail) := by
    intro after move
    cases answer with
    | ok => exact move
    | refused => exact .fails
    | lost => exact .fails
  cases stage : runner.stage with
  | ensuring =>
      unfold State.advance
      rw [stage]
      exact failsUnless (.ensured stage)
  | reading =>
      unfold State.advance
      rw [stage]
      exact failsUnless (.read stage)
  | begun =>
      unfold State.advance
      rw [stage]
      exact failsUnless (.executed stage)
  | looping =>
      unfold State.advance
      rw [stage]
      cases remaining : runner.remaining with
      | nil => exact .completed stage remaining
      | cons file rest => exact move_turn stage remaining answer
  | executed =>
      unfold State.advance
      rw [stage]
      cases remaining : runner.remaining with
      | nil => exact .stays
      | cons file rest => exact move_insert stage remaining answer
  | inserted =>
      unfold State.advance
      rw [stage]
      cases remaining : runner.remaining with
      | nil => exact .stays
      | cons file rest =>
          cases answer with
          | ok => exact .committed stage remaining (.inr rfl)
          | refused => exact .fails
          | lost => exact .committed stage remaining (.inl rfl)
  | unrecorded =>
      unfold State.advance
      rw [stage]
      cases remaining : runner.remaining with
      | nil => exact .stays
      | cons file rest => exact move_insertBare stage remaining answer
  | complete =>
      unfold State.advance
      rw [stage]
      exact .stays
  | failed =>
      unfold State.advance
      rw [stage]
      exact .stays

end Moves

section Safety

/-- The ledger accounts for the history, whoever is at work. -/
structure State.Sound (state : State) : Prop where
  /-- The primary key. -/
  nodup : state.ledger.Nodup
  once : ∀ name, state.history.count ⟨name, true⟩ ≤ state.ledger.count name
  backed : ∀ name ∈ state.ledger, ∃ entry ∈ state.history, entry.name = name
  /-- An uncommitted row is not in the ledger. -/
  pending : ∀ (index : Nat) (runner : Runner) (name : String),
    state.runners[index]? = some runner →
    runner.holds name = true → name ∉ state.ledger
  /-- One runner at most has an uncommitted row of a name. -/
  exclusive : ∀ (index other : Nat) (runner otherRunner : Runner) (name : String),
    state.runners[index]? = some runner →
    state.runners[other]? = some otherRunner →
    runner.holds name = true → otherRunner.holds name = true → index = other
  /-- A file that ran without a transaction is committed. -/
  ran : ∀ (index : Nat) (runner : Runner) (file : Migration) (rest : List Migration),
    state.runners[index]? = some runner →
    runner.stage = .unrecorded → runner.remaining = file :: rest →
    ∃ entry ∈ state.history, entry.name = file.name

namespace State.Sound

variable {state : State} {index : Nat} {runner after : Runner}

/-- Who holds an uncommitted row. -/
theorem holds_iff {name : String} :
    runner.holds name = true ↔
      runner.stage = .inserted ∧
        ∃ file rest, runner.remaining = file :: rest ∧ file.name = name := by
  rw [Runner.holds, Bool.and_eq_true, decide_eq_true_iff]
  refine and_congr_right fun _ => ?_
  cases runner.remaining with
  | nil => simp
  | cons file rest => simp

/-- A free name is held by nobody. -/
theorem not_holds_of_free
    {name : String}
    (free : state.held name = false)
    {other : Nat}
    {otherRunner : Runner}
    (isOther : state.runners[other]? = some otherRunner) :
    otherRunner.holds name = false :=
  Bool.eq_false_iff.2 (List.any_eq_false.1 free otherRunner
    (List.mem_of_getElem? isOther))

/-- The runners after one of them moved. -/
theorem cases_getElem?_put
    {other : Nat}
    {otherRunner : Runner}
    (isOther : (state.put index after).runners[other]? = some otherRunner) :
    (other = index ∧ otherRunner = after) ∨
      (other ≠ index ∧ state.runners[other]? = some otherRunner) := by
  change (state.runners.set index after)[other]? = _ at isOther
  rw [List.getElem?_set] at isOther
  split_ifs at isOther with same isIndex
  · exact .inl ⟨same.symm, (Option.some_inj.1 isOther).symm⟩
  · exact .inr ⟨Ne.symm same, isOther⟩

/-- A runner moves. It may then hold a name that is neither in the ledger nor held
by another, and be past a file whose effects are committed. -/
theorem put
    (sound : state.Sound)
    (holds : ∀ name, after.holds name = true → name ∉ state.ledger ∧
      ∀ other otherRunner, other ≠ index →
        state.runners[other]? = some otherRunner → otherRunner.holds name = false)
    (ran : ∀ file rest, after.stage = .unrecorded →
      after.remaining = file :: rest →
      ∃ entry ∈ state.history, entry.name = file.name) :
    (state.put index after).Sound where
  nodup := sound.nodup
  once := sound.once
  backed := sound.backed
  pending := by
    intro other otherRunner name isOther isHeld
    rcases cases_getElem?_put isOther with ⟨-, rfl⟩ | ⟨-, isOld⟩
    · exact (holds name isHeld).1
    · exact sound.pending other otherRunner name isOld isHeld
  exclusive := by
    intro one other oneRunner otherRunner name isOne isOther oneHolds otherHolds
    rcases cases_getElem?_put isOne with ⟨rfl, rfl⟩ | ⟨oneOld, isOldOne⟩
    · rcases cases_getElem?_put isOther with ⟨rfl, -⟩ | ⟨different, isOld⟩
      · rfl
      · rw [(holds name oneHolds).2 other otherRunner different isOld] at otherHolds
        cases otherHolds
    · rcases cases_getElem?_put isOther with ⟨rfl, rfl⟩ | ⟨-, isOld⟩
      · rw [(holds name otherHolds).2 one oneRunner oneOld isOldOne] at oneHolds
        cases oneHolds
      · exact sound.exclusive one other oneRunner otherRunner name isOldOne isOld
          oneHolds otherHolds
  ran := by
    intro other otherRunner file rest isOther stage remaining
    rcases cases_getElem?_put isOther with ⟨-, rfl⟩ | ⟨-, isOld⟩
    · exact ran file rest stage remaining
    · exact sound.ran other otherRunner file rest isOld stage remaining

/-- A runner moves to a stage without obligations. -/
theorem put_idle
    (sound : state.Sound)
    (noRow : after.stage ≠ .inserted)
    (noFile : after.stage ≠ .unrecorded) :
    (state.put index after).Sound := by
  refine sound.put (fun name isHeld => ?_) fun file rest stage => absurd stage noFile
  exact absurd (holds_iff.1 isHeld).1 noRow

/-- A file's effects are committed without its ledger row. -/
theorem commit_bare (sound : state.Sound) (name : String) :
    (state.commit name false).Sound where
  nodup := sound.nodup
  once := by
    intro other
    change (state.history ++ [_]).count _ ≤ state.ledger.count other
    rw [List.count_append, List.count_singleton]
    simpa using sound.once other
  backed := by
    intro other isLogged
    obtain ⟨entry, isEntry, same⟩ := sound.backed other isLogged
    exact ⟨entry, List.mem_append_left _ isEntry, same⟩
  pending := sound.pending
  exclusive := sound.exclusive
  ran := by
    intro other otherRunner file rest isOther stage remaining
    obtain ⟨entry, isEntry, same⟩ :=
      sound.ran other otherRunner file rest isOther stage remaining
    exact ⟨entry, List.mem_append_left _ isEntry, same⟩

/-- A ledger row is committed, alone or with the effects of its file. -/
theorem record
    (sound : state.Sound)
    {name : String}
    (isNew : name ∉ state.ledger)
    (alone : ∀ other otherRunner, other ≠ index →
      state.runners[other]? = some otherRunner → otherRunner.holds name = false)
    {effects : List Applied}
    (once : ∀ other, effects.count ⟨other, true⟩ ≤ [name].count other)
    (backed : ∃ entry ∈ state.history ++ effects, entry.name = name)
    (noRow : after.stage ≠ .inserted)
    (noFile : after.stage ≠ .unrecorded) :
    State.Sound
      { ledger := state.ledger ++ [name]
        history := state.history ++ effects
        runners := state.runners.set index after } where
  nodup := List.nodup_append.2 ⟨sound.nodup, List.nodup_singleton name,
    fun other isLogged single isSingle => by
      rw [List.mem_singleton.1 isSingle]
      rintro rfl
      exact isNew isLogged⟩
  once := by
    intro other
    rw [List.count_append, List.count_append]
    exact Nat.add_le_add (sound.once other) (once other)
  backed := by
    intro other isLogged
    rcases List.mem_append.1 isLogged with isOld | isSingle
    · obtain ⟨entry, isEntry, same⟩ := sound.backed other isOld
      exact ⟨entry, List.mem_append_left _ isEntry, same⟩
    · rw [List.mem_singleton.1 isSingle]
      exact backed
  pending := by
    intro other otherRunner held isOther isHeld isLogged
    have put : (state.put index after).Sound := sound.put_idle noRow noFile
    have idle := put.pending other otherRunner held isOther isHeld
    rcases List.mem_append.1 isLogged with isOld | isSingle
    · exact idle isOld
    · obtain rfl := List.mem_singleton.1 isSingle
      rcases cases_getElem?_put isOther with ⟨-, rfl⟩ | ⟨different, isOld⟩
      · exact noRow (holds_iff.1 isHeld).1
      · rw [alone other otherRunner different isOld] at isHeld
        cases isHeld
  exclusive := (sound.put_idle noRow noFile).exclusive
  ran := by
    intro other otherRunner file rest isOther stage remaining
    obtain ⟨entry, isEntry, same⟩ := (sound.put_idle noRow noFile).ran
      other otherRunner file rest isOther stage remaining
    exact ⟨entry, List.mem_append_left _ isEntry, same⟩

/-- Every move of a runner keeps the ledger sound. -/
theorem move
    (sound : state.Sound)
    (isRunner : state.runners[index]? = some runner)
    {moved : State}
    (move : Move state index runner moved) :
    moved.Sound := by
  cases move with
  | stays => exact sound
  | fails => exact sound.put_idle nofun nofun
  | ensured => exact sound.put_idle nofun nofun
  | read => exact sound.put_idle nofun nofun
  | completed => exact sound.put_idle nofun nofun
  | skipped => exact sound.put_idle nofun nofun
  | began => exact sound.put_idle nofun nofun
  | executed => exact sound.put_idle nofun nofun
  | ran stage remaining unknown bare next =>
      refine (sound.commit_bare _).put (fun name isHeld => ?_)
        fun file rest _ isNext => ?_
      · rcases next with rfl | rfl <;> cases isHeld
      · have same : runner.remaining = file :: rest := by
          rcases next with rfl | rfl <;> exact isNext
        rw [remaining] at same
        exact ⟨_, List.mem_concat_self, by rw [(List.cons.inj same).1]⟩
  | inserted stage remaining free isNew =>
      refine sound.put (fun name isHeld => ?_) nofun
      obtain ⟨file, rest, isNext, rfl⟩ := (holds_iff.1 isHeld).2
      have same : file = _ := (List.cons.inj (isNext.symm.trans remaining)).1
      rw [same]
      exact ⟨isNew, fun other otherRunner _ isOther => not_holds_of_free free isOther⟩
  | committed stage remaining next =>
      rename_i file rest after
      have holds : runner.holds file.name = true :=
        holds_iff.2 ⟨stage, file, rest, remaining, rfl⟩
      refine sound.record (sound.pending index runner file.name isRunner holds)
        (fun other otherRunner different isOther => ?_) (fun other => ?_)
        ⟨_, List.mem_concat_self, rfl⟩ ?_ ?_
      · refine Bool.eq_false_iff.2 fun isHeld => different ?_
        exact (sound.exclusive index other runner otherRunner file.name isRunner
          isOther holds isHeld).symm
      · simp [List.count_singleton]
      · rcases next with rfl | rfl <;> nofun
      · rcases next with rfl | rfl <;> nofun
  | recorded stage remaining free isNew next =>
      rename_i file rest after
      obtain ⟨entry, isEntry, same⟩ :=
        sound.ran index runner file rest isRunner stage remaining
      have recorded : State.Sound
          { ledger := state.ledger ++ [file.name]
            history := state.history ++ []
            runners := state.runners.set index after } := sound.record
        isNew (fun other otherRunner _ isOther => not_holds_of_free free isOther)
        (fun other => Nat.zero_le _)
        ⟨entry, List.mem_append_left [] isEntry, same⟩
        (by rcases next with rfl | rfl <;> nofun)
        (by rcases next with rfl | rfl <;> nofun)
      rwa [List.append_nil] at recorded

/-- Every event keeps the ledger sound. -/
theorem step
    (sound : state.Sound)
    (localeCompare : String → String → Ordering)
    (event : Event) :
    (State.step localeCompare state event).Sound := by
  cases event with
  | advance index answer =>
      simp only [State.step]
      cases isRunner : state.runners[index]? with
      | none => exact sound
      | some runner => exact sound.move isRunner (move_advance state index runner answer)
  | crash index =>
      simp only [State.step]
      cases isRunner : state.runners[index]? with
      | none => exact sound
      | some runner => exact sound.move isRunner .fails
  | start directory =>
      have idle : ∀ (other : Nat) (otherRunner : Runner),
          (State.step localeCompare state (.start directory)).runners[other]? =
            some otherRunner →
          otherRunner.stage = .ensuring ∨
            state.runners[other]? = some otherRunner := by
        intro other otherRunner isOther
        change (state.runners ++ [_])[other]? = _ at isOther
        rcases Nat.lt_or_ge other state.runners.length with isOld | isNew
        · rw [List.getElem?_append_left isOld] at isOther
          exact .inr isOther
        · rw [List.getElem?_append_right isNew] at isOther
          have single := List.mem_singleton.1 (List.mem_of_getElem? isOther)
          exact .inl (by rw [single])
      have holder : ∀ (other : Nat) (otherRunner : Runner) (name : String),
          (State.step localeCompare state (.start directory)).runners[other]? =
            some otherRunner →
          otherRunner.holds name = true →
          state.runners[other]? = some otherRunner := by
        intro other otherRunner name isOther isHeld
        rcases idle other otherRunner isOther with ensuring | isOld
        · rw [(holds_iff.1 isHeld).1] at ensuring
          cases ensuring
        · exact isOld
      exact
        { nodup := sound.nodup
          once := sound.once
          backed := sound.backed
          pending := fun other otherRunner name isOther isHeld =>
            sound.pending other otherRunner name
              (holder other otherRunner name isOther isHeld) isHeld
          exclusive := fun one other oneRunner otherRunner name isOne isOther
              oneHolds otherHolds =>
            sound.exclusive one other oneRunner otherRunner name
              (holder one oneRunner name isOne oneHolds)
              (holder other otherRunner name isOther otherHolds) oneHolds otherHolds
          ran := fun other otherRunner file rest isOther stage remaining => by
            rcases idle other otherRunner isOther with ensuring | isOld
            · rw [stage] at ensuring
              cases ensuring
            · exact sound.ran other otherRunner file rest isOld stage remaining }

end State.Sound

/-- Whatever runners overlap, crash and lose their connections: no file is in the
ledger twice, no file is committed twice in a transaction, a file that never ran
outside one is in the ledger exactly when its effects are committed, and every
file of the ledger has had its effects. -/
theorem committed_once
    (localeCompare : String → String → Ordering)
    (events : List Event) :
    let final := runFrom (State.step localeCompare) {} events
    final.ledger.Nodup ∧
      (∀ name, final.history.count ⟨name, true⟩ ≤ 1) ∧
      (∀ name, ⟨name, false⟩ ∉ final.history →
        (name ∈ final.ledger ↔ ⟨name, true⟩ ∈ final.history)) ∧
      ∀ name ∈ final.ledger, ∃ entry ∈ final.history, entry.name = name := by
  intro final
  have sound : final.Sound := runFrom_induction State.Sound
    (fun state event _ sound => sound.step localeCompare event)
    { nodup := List.nodup_nil
      once := fun _ => Nat.le_refl 0
      backed := nofun
      pending := nofun
      exclusive := nofun
      ran := nofun }
  refine ⟨sound.nodup, fun name => ?_, fun name neverBare => ⟨fun isLogged => ?_,
    fun isCommitted => ?_⟩, sound.backed⟩
  · exact (sound.once name).trans (List.nodup_iff_count_le_one.1 sound.nodup name)
  · obtain ⟨⟨other, inTransaction⟩, isEntry, rfl⟩ := sound.backed name isLogged
    cases inTransaction with
    | true => exact isEntry
    | false => exact absurd isEntry neverBare
  · have positive := List.count_pos_iff.2 isCommitted
    exact List.count_pos_iff.1 (positive.trans_le (sound.once name))

end Safety

end Migrations
end Database
end AiGateway
