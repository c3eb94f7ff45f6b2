import AiGateway.Foundations.Runs
import Mathlib.Algebra.BigOperators.Group.Finset.Piecewise
import Mathlib.Algebra.Order.BigOperators.Group.Finset
import Mathlib.Data.List.Infix
import Mathlib.Data.List.Nodup
import Mathlib.Logic.Function.Basic

/-!
# Calls of a Lua script

`RedisScript.run` loads its script once, calls it by digest, and falls back to
sending the body when the server has lost it. Any number of calls of any number
of processes overlap here, between other commands that change the same data. The
server may lose its scripts at any moment, and a command or its answer may be lost
on the way.

The client library makes a lost connection anew and sends a command again whose
answer has not come, although the server may have executed it.

The server keeps a log of what it executed. A call that returns has executed its
script, with its own input, and returns what the last execution replied. Besides that
one, the script was executed once at most for each time that a command of the call was
sent again.
-/

namespace AiGateway
namespace Database

open Foundations

/-- `isNoScriptError(error)`. -/
def isNoScriptError (message : String) : Bool :=
  decide ("NOSCRIPT".toList <:+: message.toList)

/-- What the server answers to a digest that it does not know. -/
def noScript : String := "NOSCRIPT No matching script. Please use EVAL."

@[simp] theorem isNoScriptError_noScript : isNoScriptError noScript = true :=
  decide_eq_true ⟨[], " No matching script. Please use EVAL.".toList, rfl⟩

/-- A script: its digest, its effect on the data of the server, and the parser
of its replies. -/
structure RedisScript (ι σ ρ τ : Type) where
  digest : String
  body : ι → σ → Except String ρ × σ
  parse : ρ → Except String τ

/-- No error of the script or of its parser reads like that of a lost script. -/
structure RedisScript.Distinguishable (script : RedisScript ι σ ρ τ) : Prop where
  body_error : ∀ input data message,
    (script.body input data).1 = .error message → isNoScriptError message = false
  parse_error : ∀ raw message,
    script.parse raw = .error message → isNoScriptError message = false

/-- A command of a call. -/
inductive Command
  /-- `SCRIPT LOAD`, with the body. -/
  | load
  | evalsha (sha : String)
  /-- `EVAL`, with the body. -/
  | eval
  deriving DecidableEq, Repr

/-- Where a call is. -/
inductive Phase (ρ τ : Type)
  /-- Its command is on the way to the server. -/
  | sent (command : Command)
  /-- The digest that `SCRIPT LOAD` answered is on its way back. -/
  | loaded (sha : String)
  /-- The reply to `EVALSHA` or `EVAL` is on its way back. -/
  | replied (command : Command) (answer : Except String ρ)
  | returned (value : τ)
  | threw (message : String)
  deriving DecidableEq

/-- The command whose answer a call waits for. -/
def Phase.awaits {ρ τ : Type} : Phase ρ τ → Option Command
  | .sent command => some command
  | .loaded _ => some .load
  | .replied command _ => some command
  | .returned _ | .threw _ => none

/-- One call of `run`, by one of the processes. -/
structure Call (ι ρ τ : Type) where
  process : Nat
  input : ι
  phase : Phase ρ τ
  /-- How often its command was sent again in place of an answer, which nothing
  reads. -/
  resent : Nat := 0

/-- An execution of the script, for a call. -/
structure Execution (ι ρ : Type) where
  call : Nat
  input : ι
  answer : Except String ρ

/-- What the server did to its data. -/
inductive LogEntry (ι ρ ω : Type)
  | executed (execution : Execution ι ρ)
  /-- Another command, or the passing of time. -/
  | other (command : ω)

/-- The execution of an entry, if it is one for a call. -/
def LogEntry.executionOf (id : Nat) : LogEntry ι ρ ω → Option (Execution ι ρ)
  | .executed execution => if execution.call = id then some execution else none
  | .other _ => none

/-- The server, the processes and their calls. -/
structure System (ι σ ρ τ ω : Type) where
  data : σ
  /-- Whether the server has the script. -/
  cached : Bool := false
  /-- `this.sha` of each process. -/
  sha : Nat → Option String := fun _ => none
  calls : Nat → Option (Call ι ρ τ) := fun _ => none
  /-- What the server did, the oldest first. -/
  log : List (LogEntry ι ρ ω) := []

/-- What happens next. -/
inductive Event (ι ω : Type)
  /-- A process calls `run`. -/
  | run (call process : Nat) (input : ι)
  /-- The server serves the command of a call. -/
  | serve (call : Nat)
  /-- The answer reaches the call, which goes on to its next `await`. -/
  | deliver (call : Nat)
  /-- The client library gives up a command of a call, which goes on. -/
  | lose (call : Nat) (message : String)
  /-- The connection is lost and made anew, and the client library sends the command
  of a call again if its answer has not come. -/
  | resend (call : Nat)
  /-- The server restarts, or its scripts are flushed. -/
  | flush
  /-- The server executes another command. -/
  | other (command : ω)
  deriving DecidableEq

section Parsers

/-- A reply of the server, as the client library hands it over. -/
inductive Reply
  | number (value : Int)
  | string (value : String)
  | array (values : List Reply)
  | null
  deriving Repr

/-- `typeof raw`. -/
def Reply.typeOf : Reply → String
  | .number _ => "number"
  | .string _ => "string"
  | .array _ | .null => "object"

/-- `parseReplyNumber(raw)`, by the finite number that a text stands for. -/
def parseReplyNumber (finite : String → Option Rat) (raw : Reply) :
    Except String Rat :=
  let refused := .error ("Expected a numeric Redis reply, got " ++ raw.typeOf)
  match raw with
  | .number value => .ok value
  | .string text => (finite text).elim refused .ok
  | .array _ | .null => refused

/-- `parseReplyString(raw)`. -/
def parseReplyString (raw : Reply) : Except String String :=
  match raw with
  | .string text => .ok text
  | .number value => .ok (toString value)
  | .array _ | .null =>
      .error ("Expected a string Redis reply, got " ++ raw.typeOf)

/-- `parseReplyArray(raw)`. -/
def parseReplyArray (raw : Reply) : Except String (List Reply) :=
  match raw with
  | .array values => .ok values
  | .number _ | .string _ | .null =>
      .error ("Expected an array Redis reply, got " ++ raw.typeOf)

/-- A refusal names the expected type and the type of the reply; neither reads like
a lost script. -/
theorem not_isNoScriptError_expected
    (raw : Reply)
    (expected : String)
    (isExpected : expected ∈ ["a numeric", "a string", "an array"]) :
    isNoScriptError ("Expected " ++ expected ++ " Redis reply, got " ++ raw.typeOf) =
      false := by
  have isType : raw.typeOf ∈ ["number", "string", "object"] := by
    cases raw <;> simp [Reply.typeOf]
  generalize raw.typeOf = type at isType
  revert type expected
  decide

/-- A script whose own errors are told apart may be given any of the parsers of
replies: they do not read like a lost script. -/
theorem RedisScript.Distinguishable.of_body
    {ι σ : Type}
    (script : RedisScript ι σ Reply String)
    (parses : script.parse = parseReplyString)
    (body : ∀ input data message,
      (script.body input data).1 = .error message →
        isNoScriptError message = false) :
    script.Distinguishable where
  body_error := body
  parse_error := by
    intro raw message failed
    have expected := not_isNoScriptError_expected raw "a string" (by decide)
    rw [parses] at failed
    cases raw with
    | number value => cases failed
    | string text => cases failed
    | array values => exact Except.error.inj failed ▸ expected
    | null => exact Except.error.inj failed ▸ expected

end Parsers

section Model

variable {ι σ ρ τ ω : Type}

namespace Call

variable (call : Call ι ρ τ)

/-- The call at another place. -/
def at' (phase : Phase ρ τ) : Call ι ρ τ := { call with phase := phase }

@[simp] theorem input_at' (phase : Phase ρ τ) :
    (call.at' phase).input = call.input := rfl

@[simp] theorem phase_at' (phase : Phase ρ τ) :
    (call.at' phase).phase = phase := rfl

@[simp] theorem resent_at' (phase : Phase ρ τ) :
    (call.at' phase).resent = call.resent := rfl

end Call

namespace System

variable (script : RedisScript ι σ ρ τ) (apply : ω → σ → σ)
  (system : System ι σ ρ τ ω)

/-- A call moves on. -/
def moveTo (id : Nat) (call : Call ι ρ τ) (phase : Phase ρ τ) :
    System ι σ ρ τ ω :=
  { system with calls := Function.update system.calls id (some (call.at' phase)) }

/-- `this.sha = sha`, in the process of a call. -/
def setSha (call : Call ι ρ τ) (sha : Option String) : System ι σ ρ τ ω :=
  { system with sha := Function.update system.sha call.process sha }

/-- The server executes the script for a call. -/
def execute (id : Nat) (call : Call ι ρ τ) (command : Command) :
    System ι σ ρ τ ω :=
  let (answer, data) := script.body call.input system.data
  { system.moveTo id call (.replied command answer) with
    data := data
    log := system.log ++ [.executed ⟨id, call.input, answer⟩] }

/-- The server serves a command. -/
def serve (id : Nat) (call : Call ι ρ τ) : Command → System ι σ ρ τ ω
  | .load => { system.moveTo id call (.loaded script.digest) with cached := true }
  | .evalsha sha =>
      if system.cached && sha == script.digest then
        system.execute script id call (.evalsha sha)
      else
        system.moveTo id call (.replied (.evalsha sha) (.error noScript))
  | .eval => { system.execute script id call .eval with cached := true }

/-- `run` gets an error for a command. Its `catch` is around the first two, and sends a
lost script again, once. -/
def fail (id : Nat) (call : Call ι ρ τ) (command : Command) (message : String) :
    System ι σ ρ τ ω :=
  if isNoScriptError message && command != .eval then
    (system.setSha call none).moveTo id call (.sent .eval)
  else
    system.moveTo id call (.threw message)

/-- `run` goes on after an `await`. -/
def proceed (id : Nat) (call : Call ι ρ τ) : System ι σ ρ τ ω :=
  match call.phase with
  | .loaded sha =>
      (system.setSha call (some sha)).moveTo id call (.sent (.evalsha sha))
  | .replied command (.error message) => system.fail id call command message
  | .replied command (.ok raw) =>
      match script.parse raw with
      | .ok value => system.moveTo id call (.returned value)
      | .error message => system.fail id call command message
  | .sent _ | .returned _ | .threw _ => system

/-- `run` until its first `await`. -/
def start (id process : Nat) (input : ι) : System ι σ ρ τ ω :=
  let phase : Phase ρ τ :=
    match system.sha process with
    | none => .sent .load
    | some sha => .sent (.evalsha sha)
  { system with
    calls := Function.update system.calls id (some { process, input, phase }) }

/-- The client library gives up a command that waits for its answer. -/
def lose (id : Nat) (call : Call ι ρ τ) (message : String) : System ι σ ρ τ ω :=
  match call.phase.awaits with
  | some command => system.fail id call command message
  | none => system

/-- An answer on its way is lost with the connection, and the command is sent again. -/
def resend (id : Nat) (call : Call ι ρ τ) : System ι σ ρ τ ω :=
  let again : Call ι ρ τ := { call with resent := call.resent + 1 }
  match call.phase with
  | .loaded _ => system.moveTo id again (.sent .load)
  | .replied command _ => system.moveTo id again (.sent command)
  | .sent _ | .returned _ | .threw _ => system

/-- One event. -/
def step (system : System ι σ ρ τ ω) : Event ι ω → System ι σ ρ τ ω
  | .run id process input =>
      match system.calls id with
      | none => system.start id process input
      | some _ => system
  | .serve id =>
      match system.calls id with
      | some call =>
          match call.phase with
          | .sent command => system.serve script id call command
          | _ => system
      | none => system
  | .deliver id =>
      match system.calls id with
      | some call => system.proceed script id call
      | none => system
  | .lose id message =>
      match system.calls id with
      | some call => system.lose id call message
      | none => system
  | .resend id =>
      match system.calls id with
      | some call => system.resend id call
      | none => system
  | .flush => { system with cached := false }
  | .other command =>
      { system with
        data := apply command system.data
        log := system.log ++ [.other command] }

/-- What the server executed for a call. -/
def executionsOf (id : Nat) : List (Execution ι ρ) :=
  system.log.filterMap (LogEntry.executionOf id)

end System

end Model

section Invariant

variable {ι σ ρ τ ω : Type} (script : RedisScript ι σ ρ τ) (apply : ω → σ → σ)

/-- The last execution replied this, and there were no more before it than times that
the command was sent again. -/
def LastReplied (raw : ρ) (resent : Nat) (executions : List (Execution ι ρ)) : Prop :=
  ∃ earlier last, executions = earlier ++ [last] ∧ last.answer = .ok raw ∧
    earlier.length ≤ resent

/-- What the server has executed for a call, by where the call is. -/
def Call.Accounts (call : Call ι ρ τ) (executions : List (Execution ι ρ)) : Prop :=
  match call.phase with
  | .sent _ | .loaded _ => executions.length ≤ call.resent
  | .replied _ (.ok raw) => LastReplied raw call.resent executions
  | .replied _ (.error message) =>
      executions.length ≤ call.resent + 1 ∧
        (isNoScriptError message = true → executions.length ≤ call.resent)
  | .returned value =>
      ∃ raw, LastReplied raw call.resent executions ∧ script.parse raw = .ok value
  | .threw _ => executions.length ≤ call.resent + 1

/-- The entries of the log, one after another, reply what the log says and lead
from the first data to the last. -/
def Explains : σ → List (LogEntry ι ρ ω) → σ → Prop
  | first, [], last => first = last
  | first, .executed execution :: later, last =>
      (script.body execution.input first).1 = execution.answer ∧
        Explains (script.body execution.input first).2 later last
  | first, .other command :: later, last =>
      Explains (apply command first) later last

/-- The log explains the data, and accounts for every call. -/
structure System.Sound (first : σ) (system : System ι σ ρ τ ω) : Prop where
  explains : Explains script apply first system.log system.data
  inputs : ∀ execution, LogEntry.executed execution ∈ system.log →
    ∃ call, system.calls execution.call = some call ∧
      execution.input = call.input
  accounts : ∀ id call, system.calls id = some call →
    call.Accounts script (system.executionsOf id)

variable {script apply}

/-- The log goes on from the data that it leads to. -/
theorem Explains.append
    {first middle last : σ}
    {log later : List (LogEntry ι ρ ω)}
    (explains : Explains script apply first log middle)
    (goesOn : Explains script apply middle later last) :
    Explains script apply first (log ++ later) last := by
  induction log generalizing first with
  | nil =>
      obtain rfl : first = middle := explains
      exact goesOn
  | cons entry log inductionHypothesis =>
      cases entry with
      | executed execution => exact ⟨explains.1, inductionHypothesis explains.2⟩
      | other command => exact inductionHypothesis explains

theorem LastReplied.length_le
    {raw : ρ}
    {resent : Nat}
    {executions : List (Execution ι ρ)}
    (lastReplied : LastReplied raw resent executions) :
    executions.length ≤ resent + 1 := by
  obtain ⟨earlier, last, rfl, -, few⟩ := lastReplied
  rw [List.length_append, List.length_singleton]
  exact Nat.add_le_add_right few 1

/-- At every place the server has executed the script once at most, and once more for
each time that a command was sent again. -/
theorem Call.Accounts.length_le
    {call : Call ι ρ τ}
    {executions : List (Execution ι ρ)}
    (accounts : call.Accounts script executions) :
    executions.length ≤ call.resent + 1 := by
  obtain ⟨process, input, phase, resent⟩ := call
  cases phase with
  | sent command => exact Nat.le_succ_of_le accounts
  | loaded sha => exact Nat.le_succ_of_le accounts
  | replied command answer =>
      cases answer with
      | ok raw => exact LastReplied.length_le accounts
      | error message => exact accounts.1
  | returned value =>
      obtain ⟨raw, lastReplied, -⟩ := accounts
      exact lastReplied.length_le
  | threw message => exact accounts

namespace System

variable {first : σ} {system : System ι σ ρ τ ω} {id : Nat} {call : Call ι ρ τ}

/-- The executions for a call are those of the log. -/
theorem mem_executionsOf {execution : Execution ι ρ} :
    execution ∈ system.executionsOf id ↔
      LogEntry.executed execution ∈ system.log ∧ execution.call = id := by
  rw [executionsOf, List.mem_filterMap]
  constructor
  · rintro ⟨entry, isLogged, found⟩
    cases entry with
    | other command => cases found
    | executed other =>
        rw [LogEntry.executionOf] at found
        split_ifs at found with sameCall
        obtain rfl : other = execution := Option.some_inj.1 found
        exact ⟨isLogged, sameCall⟩
  · rintro ⟨isLogged, sameCall⟩
    exact ⟨.executed execution, isLogged, if_pos sameCall⟩

/-- Logs that agree agree on every call. -/
theorem executionsOf_congr
    {other : System ι σ ρ τ ω}
    (sameLog : other.log = system.log) :
    other.executionsOf = system.executionsOf := by
  funext id
  rw [executionsOf, executionsOf, sameLog]

namespace Sound

/-- Before a call is made nothing is executed for it. -/
theorem executionsOf_eq_nil
    (sound : system.Sound script apply first)
    (isNew : system.calls id = none) :
    system.executionsOf id = [] := by
  rw [executionsOf, List.filterMap_eq_nil_iff]
  intro entry isLogged
  cases entry with
  | other command => rfl
  | executed execution =>
      refine if_neg fun sameCall => ?_
      obtain ⟨call, isCall, -⟩ := sound.inputs execution isLogged
      rw [sameCall, isNew] at isCall
      cases isCall

/-- What the server executed for a call has the input of the call. -/
theorem input_of_mem
    (sound : system.Sound script apply first)
    (isCall : system.calls id = some call)
    {execution : Execution ι ρ}
    (isOfCall : execution ∈ system.executionsOf id) :
    execution.call = id ∧ execution.input = call.input := by
  obtain ⟨isLogged, sameCall⟩ := mem_executionsOf.1 isOfCall
  obtain ⟨other, isOther, sameInput⟩ := sound.inputs execution isLogged
  rw [sameCall, isCall] at isOther
  obtain rfl : call = other := Option.some_inj.1 isOther
  exact ⟨sameCall, sameInput⟩

/-- A call moves to a place that accounts for what was executed for it. -/
theorem moveTo
    (sound : system.Sound script apply first)
    (isCall : system.calls id = some call)
    (next : Call ι ρ τ)
    (nextInput : next.input = call.input)
    (phase : Phase ρ τ)
    (accounts : (next.at' phase).Accounts script (system.executionsOf id)) :
    (system.moveTo id next phase).Sound script apply first where
  explains := sound.explains
  inputs := by
    intro execution isLogged
    obtain ⟨other, isOther, sameInput⟩ := sound.inputs execution isLogged
    by_cases same : execution.call = id
    · rw [same, isCall] at isOther
      obtain rfl : call = other := Option.some_inj.1 isOther
      exact ⟨next.at' phase, by simp [System.moveTo, same],
        sameInput.trans nextInput.symm⟩
    · exact ⟨other, by simp [System.moveTo, same, isOther], sameInput⟩
  accounts := by
    intro other otherCall isOther
    by_cases same : other = id
    · subst same
      simp only [System.moveTo, Function.update_self, Option.some_inj] at isOther
      subst isOther
      exact accounts
    · simp only [System.moveTo, Function.update_of_ne same] at isOther
      exact sound.accounts other otherCall isOther

/-- The server executes the script for a call that it has executed it for no more often
than its command was sent again. -/
theorem execute
    (sound : system.Sound script apply first)
    (isCall : system.calls id = some call)
    (few : (system.executionsOf id).length ≤ call.resent)
    (command : Command)
    (distinguishable : script.Distinguishable) :
    (system.execute script id call command).Sound script apply first where
  explains := sound.explains.append ⟨rfl, rfl⟩
  inputs := by
    intro execution isLogged
    change _ ∈ system.log ++ [_] at isLogged
    change ∃ other, Function.update system.calls id _ execution.call = _ ∧ _
    rcases List.mem_append.1 isLogged with isOld | isNew
    · obtain ⟨other, isOther, sameInput⟩ := sound.inputs execution isOld
      by_cases same : execution.call = id
      · rw [same, isCall] at isOther
        obtain rfl : call = other := Option.some_inj.1 isOther
        exact ⟨call.at' (.replied command (script.body call.input system.data).1),
          by rw [same, Function.update_self], sameInput⟩
      · exact ⟨other, by rw [Function.update_of_ne same, isOther], sameInput⟩
    · rw [LogEntry.executed.inj (List.mem_singleton.1 isNew)]
      exact ⟨_, Function.update_self .., rfl⟩
  accounts := by
    intro other otherCall isOther
    change Function.update system.calls id _ other = _ at isOther
    change otherCall.Accounts script ((system.log ++ [_]).filterMap _)
    rw [List.filterMap_append]
    change otherCall.Accounts script (system.executionsOf other ++ _)
    by_cases same : other = id
    · subst same
      rw [Function.update_self, Option.some_inj] at isOther
      subst isOther
      have isNew : [LogEntry.executed (ω := ω)
          ⟨other, call.input, (script.body call.input system.data).1⟩].filterMap
            (LogEntry.executionOf other) =
              [⟨other, call.input, (script.body call.input system.data).1⟩] := by
        simp [LogEntry.executionOf]
      rw [isNew]
      cases answered : (script.body call.input system.data).1 with
      | ok raw => exact ⟨_, _, rfl, rfl, few⟩
      | error message =>
          have different := distinguishable.body_error _ _ _ answered
          refine ⟨?_, fun isLost => ?_⟩
          · rw [List.length_append]
            exact Nat.add_le_add_right few 1
          · rw [different] at isLost
            cases isLost
    · rw [Function.update_of_ne same] at isOther
      have others := sound.accounts other otherCall isOther
      simpa [LogEntry.executionOf, Ne.symm same] using others

/-- `this.sha` and the scripts of the server are not part of the log. -/
theorem of_same
    (sound : system.Sound script apply first)
    {other : System ι σ ρ τ ω}
    (sameData : other.data = system.data)
    (sameCalls : other.calls = system.calls)
    (sameLog : other.log = system.log) :
    other.Sound script apply first where
  explains := by
    rw [sameData, sameLog]
    exact sound.explains
  inputs := by
    rw [sameCalls, sameLog]
    exact sound.inputs
  accounts := by
    rw [executionsOf_congr sameLog, sameCalls]
    exact sound.accounts

/-- A command is served that the server has not executed since it was sent last. -/
theorem serve
    (sound : system.Sound script apply first)
    (isCall : system.calls id = some call)
    (few : (system.executionsOf id).length ≤ call.resent)
    (distinguishable : script.Distinguishable)
    (command : Command) :
    (system.serve script id call command).Sound script apply first := by
  cases command with
  | load => exact (sound.moveTo isCall call rfl (.loaded script.digest) few).of_same rfl rfl rfl
  | evalsha sha =>
      rw [System.serve]
      split_ifs
      · exact sound.execute isCall few (.evalsha sha) distinguishable
      · exact sound.moveTo isCall call rfl _ ⟨Nat.le_succ_of_le few, fun _ => few⟩
  | eval => exact (sound.execute isCall few .eval distinguishable).of_same rfl rfl rfl

/-- An error is caught: after a lost script the command was not executed, and any
other error is thrown. -/
theorem fail
    (sound : system.Sound script apply first)
    (isCall : system.calls id = some call)
    {message : String}
    (few : isNoScriptError message = true →
      (system.executionsOf id).length ≤ call.resent)
    (command : Command) :
    (system.fail id call command message).Sound script apply first := by
  rw [System.fail]
  split_ifs with isCaught
  · have unset : (system.setSha call none).Sound script apply first :=
      sound.of_same rfl rfl rfl
    exact unset.moveTo isCall call rfl (.sent .eval) (few (Bool.and_eq_true_iff.1 isCaught).1)
  · exact sound.moveTo isCall call rfl (.threw message)
      (sound.accounts id call isCall).length_le

/-- A call goes on after an `await`. -/
theorem proceed
    (sound : system.Sound script apply first)
    (isCall : system.calls id = some call)
    (distinguishable : script.Distinguishable) :
    (system.proceed script id call).Sound script apply first := by
  have accounts := sound.accounts id call isCall
  rw [System.proceed]
  rw [Call.Accounts] at accounts
  cases place : call.phase with
  | sent command => exact sound
  | returned value => exact sound
  | threw message => exact sound
  | loaded sha =>
      rw [place] at accounts
      have set : (system.setSha call (some sha)).Sound script apply first :=
        sound.of_same rfl rfl rfl
      exact set.moveTo isCall call rfl (.sent (.evalsha sha)) accounts
  | replied command answer =>
      rw [place] at accounts
      cases answer with
      | error message => exact sound.fail isCall accounts.2 command
      | ok raw =>
          cases parsed : script.parse raw with
          | ok value =>
              simpa only [parsed] using
                sound.moveTo isCall call rfl (.returned value) ⟨raw, accounts, parsed⟩
          | error message =>
              have different := distinguishable.parse_error raw message parsed
              have few : isNoScriptError message = true →
                  (system.executionsOf id).length ≤ call.resent := by
                rw [different]
                exact nofun
              simpa only [parsed] using sound.fail isCall few command

/-- A command that is given up leaves the log as it is. -/
theorem lose
    (sound : system.Sound script apply first)
    (isCall : system.calls id = some call)
    {message : String}
    (different : isNoScriptError message = false) :
    (system.lose id call message).Sound script apply first := by
  rw [System.lose]
  cases call.phase.awaits with
  | none => exact sound
  | some command =>
      refine sound.fail isCall ?_ command
      rw [different]
      exact nofun

/-- A command is sent again. -/
theorem resend
    (sound : system.Sound script apply first)
    (isCall : system.calls id = some call) :
    (system.resend id call).Sound script apply first := by
  have atMost := (sound.accounts id call isCall).length_le
  let again : Call ι ρ τ := { call with resent := call.resent + 1 }
  rw [System.resend]
  cases call.phase with
  | loaded sha => exact sound.moveTo isCall again rfl (.sent .load) atMost
  | replied command answer =>
      exact sound.moveTo isCall again rfl (.sent command) atMost
  | sent command => exact sound
  | returned value => exact sound
  | threw message => exact sound

/-- Another command is executed. -/
theorem other (sound : system.Sound script apply first) (command : ω) :
    System.Sound script apply first
      { system with
        data := apply command system.data
        log := system.log ++ [.other command] } where
  explains := sound.explains.append rfl
  inputs := by
    intro execution isLogged
    rcases List.mem_append.1 isLogged with isOld | isNew
    · exact sound.inputs execution isOld
    · cases List.mem_singleton.1 isNew
  accounts := by
    intro id call isCall
    have accounts := sound.accounts id call isCall
    rwa [executionsOf, List.filterMap_append, List.filterMap_cons_none rfl,
      List.filterMap_nil, List.append_nil]

/-- A call is made. -/
theorem start
    (sound : system.Sound script apply first)
    (isNew : system.calls id = none)
    (process : Nat)
    (input : ι) :
    (system.start id process input).Sound script apply first where
  explains := sound.explains
  inputs := by
    intro execution isLogged
    obtain ⟨other, isOther, sameInput⟩ := sound.inputs execution isLogged
    refine ⟨other, ?_, sameInput⟩
    have different : execution.call ≠ id := by
      intro same
      rw [same, isNew] at isOther
      cases isOther
    change Function.update system.calls id _ execution.call = _
    rw [Function.update_of_ne different, isOther]
  accounts := by
    intro other otherCall isOther
    change Function.update system.calls id _ other = _ at isOther
    by_cases same : other = id
    · subst same
      rw [Function.update_self, Option.some_inj] at isOther
      subst isOther
      have nothing := sound.executionsOf_eq_nil isNew
      change Call.Accounts script _ (system.executionsOf other)
      rw [nothing]
      cases system.sha process <;> exact Nat.le_refl 0
    · rw [Function.update_of_ne same] at isOther
      exact sound.accounts other otherCall isOther

end Sound

end System

end Invariant

section Runs

variable {ι σ ρ τ ω : Type} {script : RedisScript ι σ ρ τ} {apply : ω → σ → σ}

/-- A connection that fails does not say that a script was lost. -/
def Event.Quiet : Event ι ω → Prop
  | .lose _ message => isNoScriptError message = false
  | .run .. | .serve _ | .deliver _ | .resend _ | .flush | .other _ => True

/-- Every event keeps the log sound. -/
theorem System.Sound.step
    {first : σ}
    {system : System ι σ ρ τ ω}
    (sound : system.Sound script apply first)
    (distinguishable : script.Distinguishable)
    {event : Event ι ω}
    (quiet : event.Quiet) :
    (System.step script apply system event).Sound script apply first := by
  cases event with
  | flush => exact sound.of_same rfl rfl rfl
  | other command => exact sound.other command
  | run id process input =>
      simp only [System.step]
      cases isCall : system.calls id with
      | none => exact sound.start isCall process input
      | some call => exact sound
  | serve id =>
      simp only [System.step]
      cases isCall : system.calls id with
      | none => exact sound
      | some call =>
          have accounts := sound.accounts id call isCall
          rw [Call.Accounts] at accounts
          cases place : call.phase with
          | sent command =>
              rw [place] at accounts
              simpa only [place] using
                sound.serve isCall accounts distinguishable command
          | loaded sha => simpa only [place] using sound
          | replied command answer => simpa only [place] using sound
          | returned value => simpa only [place] using sound
          | threw message => simpa only [place] using sound
  | deliver id =>
      simp only [System.step]
      cases isCall : system.calls id with
      | none => exact sound
      | some call => exact sound.proceed isCall distinguishable
  | lose id message =>
      simp only [System.step]
      cases isCall : system.calls id with
      | none => exact sound
      | some call => exact sound.lose isCall quiet
  | resend id =>
      simp only [System.step]
      cases isCall : system.calls id with
      | none => exact sound
      | some call => exact sound.resend isCall

/-- The command of a call is sent again. -/
def Event.resends (id : Nat) : Event ι ω → Bool
  | .resend call => call = id
  | .run .. | .serve _ | .deliver _ | .lose .. | .flush | .other _ => false

/-- The command of some call is sent again. -/
def Event.isResend : Event ι ω → Bool
  | .resend _ => true
  | .run .. | .serve _ | .deliver _ | .lose .. | .flush | .other _ => false

namespace System

variable {system : System ι σ ρ τ ω} {id : Nat} {call : Call ι ρ τ}

/-- How often the command of a call was sent again, if there is such a call. -/
def resentOf (system : System ι σ ρ τ ω) (id : Nat) : Nat :=
  (system.calls id).elim 0 Call.resent

theorem calls_moveTo
    (system : System ι σ ρ τ ω)
    (id : Nat)
    (call : Call ι ρ τ)
    (phase : Phase ρ τ) :
    (system.moveTo id call phase).calls =
      Function.update system.calls id (some (call.at' phase)) := rfl

theorem resentOf_moveTo
    (isCall : system.calls id = some call)
    (phase : Phase ρ τ) :
    (system.moveTo id call phase).resentOf = system.resentOf := by
  funext other
  by_cases same : other = id
  · subst same
    rw [resentOf, resentOf, isCall, calls_moveTo, Function.update_self]
    rfl
  · rw [resentOf, resentOf, calls_moveTo, Function.update_of_ne same]

theorem resentOf_serve
    (isCall : system.calls id = some call)
    (command : Command) :
    (system.serve script id call command).resentOf = system.resentOf := by
  cases command with
  | load => exact resentOf_moveTo isCall _
  | evalsha sha =>
      rw [System.serve]
      split_ifs <;> exact resentOf_moveTo isCall _
  | eval => exact resentOf_moveTo isCall _

theorem resentOf_fail
    (isCall : system.calls id = some call)
    (command : Command)
    (message : String) :
    (system.fail id call command message).resentOf = system.resentOf := by
  have unset : (system.setSha call none).calls id = some call := isCall
  rw [System.fail]
  split_ifs
  · exact resentOf_moveTo unset _
  · exact resentOf_moveTo isCall _

theorem resentOf_proceed (isCall : system.calls id = some call) :
    (system.proceed script id call).resentOf = system.resentOf := by
  rw [System.proceed]
  split
  · next sha _ =>
      have set : (system.setSha call (some sha)).calls id = some call := isCall
      exact resentOf_moveTo set _
  · exact resentOf_fail isCall _ _
  · split
    · exact resentOf_moveTo isCall _
    · exact resentOf_fail isCall _ _
  all_goals rfl

theorem resentOf_resend_le
    (isCall : system.calls id = some call)
    (other : Nat) :
    (system.resend id call).resentOf other ≤
      system.resentOf other + if id = other then 1 else 0 := by
  have moved (phase : Phase ρ τ) :
      (system.moveTo id { call with resent := call.resent + 1 } phase).resentOf other =
        system.resentOf other + if id = other then 1 else 0 := by
    by_cases same : id = other
    · subst same
      rw [resentOf, resentOf, isCall, calls_moveTo, Function.update_self, if_pos rfl]
      rfl
    · rw [resentOf, resentOf, calls_moveTo, Function.update_of_ne (Ne.symm same),
        if_neg same, Nat.add_zero]
  rw [System.resend]
  split
  · exact (moved _).le
  · exact (moved _).le
  all_goals exact Nat.le_add_right _ _

/-- Only sending a command again counts. -/
theorem resentOf_step_le
    (system : System ι σ ρ τ ω)
    (event : Event ι ω)
    (other : Nat) :
    (System.step script apply system event).resentOf other ≤
      system.resentOf other + if event.resends other then 1 else 0 := by
  cases event with
  | flush => exact Nat.le_refl _
  | other command => exact Nat.le_refl _
  | run id process input =>
      simp only [System.step]
      cases isCall : system.calls id with
      | some call => exact Nat.le_add_right _ _
      | none =>
          change (Function.update system.calls id _ other).elim 0 Call.resent ≤ _
          by_cases same : other = id
          · subst same
            rw [Function.update_self]
            exact Nat.zero_le _
          · rw [Function.update_of_ne same]
            exact Nat.le_add_right _ _
  | serve id =>
      simp only [System.step]
      split
      · next isCall =>
          split
          · exact (congrFun (resentOf_serve isCall _) other).le
          · exact Nat.le_refl _
      · exact Nat.le_refl _
  | deliver id =>
      simp only [System.step]
      split
      · next isCall => exact (congrFun (resentOf_proceed isCall) other).le
      · exact Nat.le_refl _
  | lose id message =>
      simp only [System.step]
      split
      · next isCall =>
          rw [System.lose]
          split
          · exact (congrFun (resentOf_fail isCall _ message) other).le
          · exact Nat.le_refl _
      · exact Nat.le_refl _
  | resend id =>
      simp only [System.step]
      split
      · next isCall => simpa [Event.resends] using resentOf_resend_le isCall other
      · exact Nat.le_add_right _ _

end System

/-- The server before any call. -/
def System.initial (data : σ) : System ι σ ρ τ ω := { data := data }

/-- The log stays sound. -/
theorem sound_runFrom
    (distinguishable : script.Distinguishable)
    (first : σ)
    {events : List (Event ι ω)}
    (quiet : ∀ event ∈ events, event.Quiet) :
    (runFrom (System.step script apply) (System.initial first) events).Sound
      script apply first :=
  runFrom_induction (System.Sound script apply first)
    (fun _ event isEvent sound => sound.step distinguishable (quiet event isEvent))
    { explains := rfl
      inputs := nofun
      accounts := nofun }

/-- In a run the command of a call is sent again as often as the events say. -/
theorem resentOf_runFrom_le
    (first : σ)
    (events : List (Event ι ω))
    (id : Nat) :
    (runFrom (System.step script apply) (System.initial first) events).resentOf id ≤
      events.countP (Event.resends id) := by
  induction events using List.reverseRecOn with
  | nil => exact Nat.le_refl 0
  | append_singleton events event inductionHypothesis =>
      rw [runFrom_concat, List.countP_append, List.countP_singleton]
      exact (System.resentOf_step_le _ event id).trans
        (Nat.add_le_add_right inductionHypothesis _)

/-- The call that an entry of the log was executed for. -/
def LogEntry.call : LogEntry ι ρ ω → Option Nat
  | .executed execution => some execution.call
  | .other _ => none

/-- How often a call occurs in the log. -/
theorem count_calls (log : List (LogEntry ι ρ ω)) (id : Nat) :
    (log.filterMap LogEntry.call).count id =
      (log.filterMap (LogEntry.executionOf id)).length := by
  induction log with
  | nil => rfl
  | cons entry log inductionHypothesis =>
      cases entry with
      | other command => exact inductionHypothesis
      | executed execution =>
          by_cases same : execution.call = id <;>
            simp [LogEntry.call, LogEntry.executionOf, same, inductionHypothesis]

/-- Different calls are sent again by different events. -/
theorem sum_countP_resends_le (ids : Finset Nat) (events : List (Event ι ω)) :
    ∑ id ∈ ids, events.countP (Event.resends id) ≤ events.countP Event.isResend := by
  induction events with
  | nil => simp
  | cons event events inductionHypothesis =>
      have one : ∑ id ∈ ids, (if event.resends id = true then 1 else 0) ≤
          if event.isResend = true then 1 else 0 := by
        cases event with
        | resend call =>
            simp only [Event.resends, Event.isResend, decide_eq_true_eq, if_true,
              Finset.sum_ite_eq]
            split_ifs <;> omega
        | _ => simp [Event.resends]
      simp only [List.countP_cons, Finset.sum_add_distrib]
      exact Nat.add_le_add inductionHypothesis one

namespace System.Sound

variable {first : σ} {system : System ι σ ρ τ ω}

/-- The script was executed for a call once at most, and once more for each time that
its command was sent again. -/
theorem length_executionsOf_le
    (sound : system.Sound script apply first)
    (id : Nat) :
    (system.executionsOf id).length ≤ system.resentOf id + 1 := by
  cases isCall : system.calls id with
  | none =>
      rw [sound.executionsOf_eq_nil isCall]
      exact Nat.zero_le _
  | some call =>
      rw [resentOf, isCall]
      exact (sound.accounts id call isCall).length_le

/-- Every call that has returned is in the log. -/
theorem mem_calls
    (sound : system.Sound script apply first)
    {id : Nat}
    {call : Call ι ρ τ}
    (isCall : system.calls id = some call)
    {value : τ}
    (isReturned : call.phase = .returned value) :
    id ∈ system.log.filterMap LogEntry.call := by
  have accounts := sound.accounts id call isCall
  rw [Call.Accounts, isReturned] at accounts
  obtain ⟨raw, ⟨earlier, last, executions, -⟩, -⟩ := accounts
  rw [← List.one_le_count_iff, count_calls]
  change 1 ≤ (system.executionsOf id).length
  rw [executions, List.length_append, List.length_singleton]
  exact Nat.le_add_left 1 _

/-- Every call in the log was made. -/
theorem isSome_of_mem_calls
    (sound : system.Sound script apply first)
    {id : Nat}
    (isLogged : id ∈ system.log.filterMap LogEntry.call) :
    (system.calls id).isSome = true := by
  obtain ⟨entry, isEntry, isCall⟩ := List.mem_filterMap.1 isLogged
  cases entry with
  | other command => cases isCall
  | executed execution =>
      obtain rfl : execution.call = id := Option.some_inj.1 isCall
      obtain ⟨call, found, -⟩ := sound.inputs execution isEntry
      rw [found]
      rfl

end System.Sound

/-- The log is no longer than the calls in it and the commands that were sent again
together. -/
theorem exists_calls_of_log
    (apply : ω → σ → σ)
    (distinguishable : script.Distinguishable)
    (first : σ)
    {events : List (Event ι ω)}
    (quiet : ∀ event ∈ events, event.Quiet) :
    let final := runFrom (System.step script apply) (System.initial first) events
    ∃ ids : List Nat, ids.Nodup ∧ (∀ id ∈ ids, (final.calls id).isSome = true) ∧
      (final.log.filterMap LogEntry.call).length ≤
        ids.length + events.countP Event.isResend := by
  intro final
  have sound : final.Sound script apply first := sound_runFrom distinguishable first quiet
  have made : ∀ id ∈ (final.log.filterMap LogEntry.call).dedup,
      (final.calls id).isSome = true :=
    fun id isLogged => sound.isSome_of_mem_calls (List.mem_dedup.1 isLogged)
  refine ⟨_, List.nodup_dedup _, made, ?_⟩
  have often (id : Nat) : (final.log.filterMap LogEntry.call).count id ≤
      events.countP (Event.resends id) + 1 := by
    rw [count_calls]
    exact (sound.length_executionsOf_le id).trans
      (Nat.add_le_add_right (resentOf_runFrom_le first events id) 1)
  rw [← List.card_toFinset, ← List.sum_toFinset_count_eq_length]
  calc
    ∑ id ∈ (final.log.filterMap LogEntry.call).toFinset,
        (final.log.filterMap LogEntry.call).count id ≤
      ∑ id ∈ (final.log.filterMap LogEntry.call).toFinset,
        (events.countP (Event.resends id) + 1) :=
      Finset.sum_le_sum fun id _ => often id
    _ ≤ (final.log.filterMap LogEntry.call).toFinset.card +
        events.countP Event.isResend := by
      rw [Finset.sum_add_distrib, Finset.sum_const, Nat.nsmul_eq_mul, mul_one,
        Nat.add_comm]
      exact Nat.add_le_add_left (sum_countP_resends_le _ events) _

/-- Calls of a script overlap in any order, the server loses its scripts, and commands
are given up, or sent again when a connection is made anew: the log explains the data
of the server, a call has executed its script with its own input, once at most and once
more for each time that its command was sent again, and one that returns has executed it
and returns what the parser makes of the last reply. -/
theorem run_executes_once
    (apply : ω → σ → σ)
    (distinguishable : script.Distinguishable)
    (first : σ)
    {events : List (Event ι ω)}
    (quiet : ∀ event ∈ events, event.Quiet) :
    let final := runFrom (System.step script apply) (System.initial first) events
    Explains script apply first final.log final.data ∧
      (∀ execution, LogEntry.executed execution ∈ final.log → ∃ call,
        final.calls execution.call = some call ∧
          execution.input = call.input) ∧
      ∀ id call, final.calls id = some call →
        (final.executionsOf id).length ≤ events.countP (Event.resends id) + 1 ∧
        ∀ value, call.phase = .returned value →
          ∃ earlier raw, script.parse raw = .ok value ∧
            final.executionsOf id = earlier ++ [⟨id, call.input, .ok raw⟩] := by
  intro final
  have sound : final.Sound script apply first := sound_runFrom distinguishable first quiet
  refine ⟨sound.explains, sound.inputs, fun id call isCall => ⟨?_, ?_⟩⟩
  · exact (sound.length_executionsOf_le id).trans
      (Nat.add_le_add_right (resentOf_runFrom_le first events id) 1)
  · intro value isReturned
    have accounts := sound.accounts id call isCall
    rw [Call.Accounts, isReturned] at accounts
    obtain ⟨raw, ⟨earlier, last, executions, isAnswer, -⟩, parsed⟩ := accounts
    refine ⟨earlier, raw, parsed, ?_⟩
    have isOfCall : last ∈ final.executionsOf id := by
      rw [executions]
      exact List.mem_append_right _ List.mem_cons_self
    obtain ⟨sameCall, sameInput⟩ := sound.input_of_mem isCall isOfCall
    rw [executions, ← sameCall, ← sameInput, ← isAnswer]

/-- A script that counts its executions. -/
def countScript : RedisScript Unit Nat Reply String where
  digest := "c0ffee"
  body _ count := (.ok (.number (count + 1)), count + 1)
  parse := parseReplyString

theorem countScript_distinguishable : countScript.Distinguishable :=
  .of_body countScript rfl (by rintro _ _ _ ⟨⟩)

/-- A call whose script is flushed between `SCRIPT LOAD` and `EVALSHA`, beside one
whose command is sent again after it was executed. -/
def flushedCalls : List (Event Unit Empty) :=
  [.run 0 0 (), .serve 0, .deliver 0, .flush, .run 1 0 (), .serve 0, .serve 1,
    .deliver 0, .serve 0, .deliver 1, .serve 1, .resend 1, .deliver 0, .deliver 1,
    .serve 1, .deliver 1]

theorem run_executes_once_flushed :
    let final := runFrom (System.step countScript nofun) (System.initial 0) flushedCalls
    (final.executionsOf 0).length ≤ 1 ∧ (final.executionsOf 1).length ≤ 2 ∧
      ∃ earlier raw, parseReplyString raw = .ok "3" ∧
        final.executionsOf 1 = earlier ++ [⟨1, (), .ok raw⟩] := by
  have quiet : ∀ event ∈ flushedCalls, event.Quiet := by
    simp [flushedCalls, Event.Quiet]
  have executes := (run_executes_once nofun countScript_distinguishable 0 quiet).2.2
  have second := executes 1 ⟨0, (), .returned "3", 1⟩ rfl
  exact ⟨(executes 0 ⟨0, (), .returned "1", 0⟩ rfl).1, second.1, second.2 "3" rfl⟩

end Runs

end Database
end AiGateway
