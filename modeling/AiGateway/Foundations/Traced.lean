import Mathlib.Data.List.Basic

/-!
# Programs that leave a trace

A program either returns or throws, and lists its effects in their order. A
program that throws has no effects after it.
-/

namespace AiGateway
namespace Foundations

/-- What a program returns or throws, and the effects it has had then. -/
structure Traced (ε : Type u) (φ : Type v) (α : Type w) where
  result : Except φ α
  effects : List ε

namespace Traced

variable {ε : Type u} {φ : Type v} {α β : Type w}

/-- Go on with the value of a program. -/
def andThen (program : Traced ε φ α) (next : α → Traced ε φ β) :
    Traced ε φ β :=
  match program.result with
  | .ok value =>
      { result := (next value).result
        effects := program.effects ++ (next value).effects }
  | .error thrown => { result := .error thrown, effects := program.effects }

instance : Monad (Traced ε φ) where
  pure value := { result := .ok value, effects := [] }
  bind := andThen

/-- A program without effects. -/
def ofExcept (result : Except φ α) : Traced ε φ α :=
  { result := result, effects := [] }

/-- One effect. -/
def emit (effect : ε) : Traced ε φ PUnit :=
  { result := .ok ⟨⟩, effects := [effect] }

section Rules

@[simp] theorem ofExcept_ok_bind (value : α) (next : α → Traced ε φ β) :
    (ofExcept (.ok value) >>= next) = next value := rfl

/-- The effects of a program, and then those of what it goes on with. -/
theorem effects_bind (program : Traced ε φ α) (next : α → Traced ε φ β) :
    (program >>= next).effects =
      program.effects ++
        match program.result with
        | .ok value => (next value).effects
        | .error _ => [] := by
  change (program.andThen next).effects = _
  unfold andThen
  cases program.result with
  | ok value => rfl
  | error thrown => exact (List.append_nil _).symm

/-- A program returns if both of its parts do. -/
theorem result_bind_eq_ok_iff
    {program : Traced ε φ α}
    {next : α → Traced ε φ β}
    {value : β} :
    (program >>= next).result = .ok value ↔
      ∃ first, program.result = .ok first ∧ (next first).result = .ok value := by
  change (program.andThen next).result = _ ↔ _
  unfold andThen
  cases program.result with
  | ok first => simp
  | error thrown => simp

end Rules

end Traced

end Foundations
end AiGateway
