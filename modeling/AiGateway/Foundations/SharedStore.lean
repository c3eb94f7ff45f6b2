import AiGateway.Foundations.Runs
import Mathlib.Data.List.Induction

/-!
# Components that share a store

A store is a table of values under keys. A command is atomic: it names keys, reads
the values at them and writes some of them. Several components keep their states in
one store, each under keys that no other component uses.

In any interleaving of their commands a component is then answered as if it had the
store to itself, and no command meets a value of a kind that it does not work on.
-/

namespace AiGateway
namespace Foundations

universe u v w

section Commands

variable {κ : Type u} {τ : Type u} {α : Type v} {ρ : Type w}
  [DecidableEq κ] [DecidableEq τ]

/-- What is seen of a store by somebody who only knows some of the keys. -/
def only (keys : List κ) (store : κ → Option α) : κ → Option α :=
  fun key => if key ∈ keys then store key else none

theorem only_of_mem
    {keys : List κ}
    {key : κ}
    (isNamed : key ∈ keys)
    (store : κ → Option α) : only keys store key = store key :=
  if_pos isNamed

/-- Stores that agree at the keys look the same. -/
theorem only_congr
    {keys : List κ}
    {store other : κ → Option α}
    (agree : ∀ key ∈ keys, store key = other key) :
    only keys store = only keys other := by
  funext key
  unfold only
  split_ifs with isNamed
  · exact agree key isNamed
  · rfl

/-- An atomic command: the keys that it names, and what it leaves at them and
answers; `none` when it fails on a value of another kind. -/
structure Command (κ : Type u) (α : Type v) (ρ : Type w) where
  keys : List κ
  run : (κ → Option α) → Option ((κ → Option α) × ρ)

namespace Command

variable (command : Command κ α ρ)

/-- The command on a store: the store after it and the answer. A failed command
changes nothing. -/
def exec (store : κ → Option α) : (κ → Option α) × Option ρ :=
  match command.run (only command.keys store) with
  | none => (store, none)
  | some (written, answer) =>
      (fun key => if key ∈ command.keys then written key else store key,
        some answer)

/-- A command leaves the keys alone that it does not name. -/
theorem exec_of_not_mem
    (store : κ → Option α)
    {key : κ}
    (notNamed : key ∉ command.keys) : (command.exec store).1 key = store key := by
  unfold exec
  split
  · rfl
  · exact if_neg notNamed

/-- The command on a store whose keys have other names. -/
def rename (name : κ → τ) : Command τ α ρ where
  keys := command.keys.map name
  run := fun store =>
    (command.run (only command.keys (store ∘ name))).map fun result =>
      (fun key => (command.keys.find? fun named => name named = key).bind result.1,
        result.2)

/-- Different names for different keys do not change what a command does. -/
theorem exec_rename
    {name : κ → τ}
    (injective : Function.Injective name)
    (store : τ → Option α) :
    ((command.rename name).exec store).2 = (command.exec (store ∘ name)).2 ∧
      ((command.rename name).exec store).1 ∘ name =
        (command.exec (store ∘ name)).1 := by
  have sameCells : only command.keys
      (only (command.keys.map name) store ∘ name) =
        only command.keys (store ∘ name) :=
    only_congr fun key isNamed => only_of_mem (List.mem_map_of_mem isNamed) store
  unfold exec rename
  simp only [sameCells]
  cases command.run (only command.keys (store ∘ name)) with
  | none => exact ⟨rfl, rfl⟩
  | some result =>
      refine ⟨rfl, funext fun key => ?_⟩
      simp only [Option.map_some, Function.comp_apply,
        List.mem_map_of_injective injective, injective.eq_iff]
      split_ifs with isNamed
      · have found : (command.keys.find? fun named => decide (named = key)) =
            some key := by
          cases looked : command.keys.find? fun named => decide (named = key) with
          | none => simpa using List.find?_eq_none.1 looked key isNamed
          | some other => simpa using List.find?_some looked
        rw [found]
        rfl
      · rfl

end Command

end Commands

section Components

variable {κ : Type u} {α : Type v} [DecidableEq κ]

/-- A component with a state that it keeps in the store. -/
structure Component (κ : Type u) (α : Type v) [DecidableEq κ] where
  State : Type
  Call : Type
  Reply : Type
  /-- The state before the first call. -/
  start : State
  /-- What a call does. -/
  apply : State → Call → State × Reply
  /-- The keys that the command of a call names. -/
  keys : Call → List κ
  /-- The values under which a state is kept. -/
  save : State → κ → Option α
  /-- What the values at some keys say of the state, if they are of the right
  kinds. -/
  load : List κ → (κ → Option α) → Option State
  /-- Nothing is kept for the first state. -/
  save_start : ∀ key, save start key = none
  /-- What was saved can be loaded. -/
  load_save : ∀ keys state, ∃ loaded,
    load keys (only keys (save state)) = some loaded ∧
      ∀ key ∈ keys, save loaded key = save state key
  /-- A call depends on what is kept at its keys only. -/
  apply_congr : ∀ state other call,
    (∀ key ∈ keys call, save state key = save other key) →
      (apply state call).2 = (apply other call).2 ∧
        ∀ key ∈ keys call,
          save (apply state call).1 key = save (apply other call).1 key
  /-- A call changes nothing at other keys. -/
  save_apply : ∀ state call, ∀ key ∉ keys call,
    save (apply state call).1 key = save state key

namespace Component

variable (component : Component κ α)

/-- The state after some calls. -/
def after (calls : List component.Call) : component.State :=
  runFrom (fun state call => (component.apply state call).1) component.start calls

/-- The command of a call. -/
def command (call : component.Call) : Command κ α component.Reply where
  keys := component.keys call
  run := fun store =>
    (component.load (component.keys call) store).map fun state =>
      (component.save (component.apply state call).1,
        (component.apply state call).2)

/-- On a store that keeps the state of the component, the command of a call does
what the call does. -/
theorem exec_command
    (state : component.State)
    (call : component.Call)
    {store : κ → Option α}
    (kept : ∀ key ∈ component.keys call, store key = component.save state key) :
    ((component.command call).exec store).2 = some (component.apply state call).2 ∧
      ∀ key ∈ component.keys call,
        ((component.command call).exec store).1 key =
          component.save (component.apply state call).1 key := by
  obtain ⟨loaded, isLoaded, sameSaved⟩ :=
    component.load_save (component.keys call) state
  obtain ⟨sameReply, sameAfter⟩ :=
    component.apply_congr loaded state call sameSaved
  have executed : (component.command call).exec store =
      (fun key => if key ∈ component.keys call then
          component.save (component.apply loaded call).1 key else store key,
        some (component.apply loaded call).2) := by
    simp only [Command.exec, command, only_congr kept, isLoaded, Option.map_some]
    rfl
  rw [executed]
  refine ⟨congrArg some sameReply, fun key isNamed => ?_⟩
  exact (if_pos isNamed).trans (sameAfter key isNamed)

end Component

end Components

section Systems

variable {ι : Type u} {κ : Type u} {τ : Type u} {α : Type v}
  [DecidableEq ι] [DecidableEq κ] [DecidableEq τ]

/-- Components, each with keys of its own. -/
structure SharedSystem
    (ι : Type u) (κ : Type u) (α : Type v) [DecidableEq κ] where
  component : ι → Component κ α
  owner : κ → ι
  keys_owned : ∀ index call, ∀ key ∈ (component index).keys call,
    owner key = index

namespace SharedSystem

variable (system : SharedSystem ι κ α) (name : κ → τ)

/-- A call of one of the components. -/
abbrev Call := Σ index, (system.component index).Call

/-- The store after a call of one of the components. -/
def step (store : τ → Option α) (call : system.Call) : τ → Option α :=
  ((((system.component call.1).command call.2).rename name).exec store).1

/-- The answer to a call of one of the components. -/
def answer
    (store : τ → Option α)
    (index : ι)
    (call : (system.component index).Call) :
    Option (system.component index).Reply :=
  ((((system.component index).command call).rename name).exec store).2

/-- The store after some calls, from an empty one. -/
def storeAfter (calls : List system.Call) : τ → Option α :=
  runFrom (system.step name) (fun _ => none) calls

/-- The calls of one component. -/
def own (index : ι) (calls : List system.Call) :
    List (system.component index).Call :=
  calls.filterMap fun call =>
    if same : call.1 = index then some (same ▸ call.2) else none

variable {name}

/-- The store keeps for each component the state that its own calls lead to. -/
theorem storeAfter_apply
    (injective : Function.Injective name)
    (calls : List system.Call)
    (key : κ) :
    system.storeAfter name calls (name key) =
      (system.component (system.owner key)).save
        ((system.component (system.owner key)).after
          (system.own (system.owner key) calls)) key := by
  induction calls using List.reverseRecOn generalizing key with
  | nil => exact ((system.component (system.owner key)).save_start key).symm
  | append_singleton calls call inductionHypothesis =>
      obtain ⟨index, call⟩ := call
      set before := system.storeAfter name calls with isBefore
      have renamed := (((system.component index).command call).exec_rename
        injective before).2
      have stepped : system.storeAfter name (calls ++ [⟨index, call⟩]) (name key) =
          (((system.component index).command call).exec (before ∘ name)).1 key := by
        rw [← renamed, storeAfter, runFrom_concat]
        rfl
      rw [stepped]
      by_cases isOwner : system.owner key = index
      · subst isOwner
        have ownCalls : system.own (system.owner key)
            (calls ++ [⟨system.owner key, call⟩]) =
              system.own (system.owner key) calls ++ [call] := by
          simp [own, List.filterMap_append]
        rw [ownCalls, Component.after, runFrom_concat]
        by_cases isNamed : key ∈ (system.component (system.owner key)).keys call
        · refine (Component.exec_command _ _ call fun other isOther => ?_).2 key
            isNamed
          have sameOwner := system.keys_owned _ call other isOther
          have kept := inductionHypothesis other
          rw [sameOwner] at kept
          exact kept
        · rw [Component.save_apply _ _ call key isNamed]
          exact (Command.exec_of_not_mem _ _ isNamed).trans
            (inductionHypothesis key)
      · have notNamed : key ∉ (system.component index).keys call := fun isNamed =>
          isOwner (system.keys_owned index call key isNamed)
        have ownCalls : system.own (system.owner key) (calls ++ [⟨index, call⟩]) =
            system.own (system.owner key) calls := by
          simp [own, List.filterMap_append, Ne.symm isOwner]
        rw [ownCalls]
        exact (Command.exec_of_not_mem _ _ notNamed).trans (inductionHypothesis key)

/-- Among the calls of all components, a component is answered as if it were
alone. -/
theorem answer_storeAfter
    (injective : Function.Injective name)
    (calls : List system.Call)
    (index : ι)
    (call : (system.component index).Call) :
    system.answer name (system.storeAfter name calls) index call =
      some ((system.component index).apply
        ((system.component index).after (system.own index calls)) call).2 := by
  rw [answer, (((system.component index).command call).exec_rename injective _).1]
  refine (Component.exec_command _ _ call fun key isNamed => ?_).1
  have kept := system.storeAfter_apply injective calls key
  rw [system.keys_owned index call key isNamed] at kept
  exact kept

end SharedSystem

end Systems

end Foundations
end AiGateway
