import AiGateway.Foundations.Json

/-!
# Reading a JSON value along a path

A path leads through objects and arrays. What a value has to say at the ends of
all paths is all that it says but for the order of its properties.
-/

namespace AiGateway
namespace Foundations
namespace Json

/-- A step into a value. -/
inductive PathStep
  | key (name : String)
  | index (position : Nat)
  deriving DecidableEq, Repr

/-- What is seen of a value without a step into it; an infinity is sent as
`null`. -/
inductive Kind
  | null
  | bool (value : Bool)
  | number (value : Decimal)
  | string (value : String)
  | array (length : Nat)
  | object
  deriving DecidableEq

/-- What is seen of a value. -/
def kind : Json → Kind
  | null => .null
  | bool value => .bool value
  | number value => .number value
  | infinity _ => .null
  | string value => .string value
  | array elements => .array elements.length
  | object _ => .object

/-- One step into a value. -/
def child : PathStep → Json → Option Json
  | .key name, value => value.get name
  | .index position, array elements => elements[position]?
  | .index _, _ => none

/-- The value at the end of a path. -/
def follow : List PathStep → Json → Option Json
  | [], value => some value
  | step :: path, value => (value.child step).bind (follow path)

/-- What is seen at the end of a path. -/
def reading (path : List PathStep) (value : Json) : Option Kind :=
  (value.follow path).map kind

@[simp] theorem reading_nil (value : Json) :
    value.reading [] = some value.kind := rfl

@[simp] theorem reading_cons
    (step : PathStep)
    (path : List PathStep)
    (value : Json) :
    value.reading (step :: path) = (value.child step).bind (reading path) := by
  unfold reading
  rw [follow, Option.map_bind]
  rfl

/-- Two values, or none, that read the same along every path. -/
def Agrees (first second : Option Json) : Prop :=
  ∀ path, first.bind (reading path) = second.bind (reading path)

theorem agrees_of_eq {first second : Option Json} (same : first = second) :
    Agrees first second :=
  fun _ => by rw [same]

/-- Values that agree are of the same kind. -/
theorem Agrees.kind_eq {first second : Option Json}
    (agree : Agrees first second) : first.map kind = second.map kind := by
  have atEnd := agree []
  cases first with
  | none =>
      cases second with
      | none => rfl
      | some other => cases atEnd
  | some value =>
      cases second with
      | none => cases atEnd
      | some other => exact atEnd

end Json
end Foundations
end AiGateway
