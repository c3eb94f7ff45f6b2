import AiGateway.Foundations.Decimal

/-!
# JSON values and their texts

A JSON value as JavaScript holds it after `JSON.parse`. The entries of an object
are listed in the order in which JavaScript enumerates them. A number too large
for a double is read as an infinity, which `JSON.stringify` writes as `null`;
apart from that the text of a value determines the value.
-/

namespace AiGateway
namespace Foundations

/-- A JSON value. -/
inductive Json
  | null
  | bool (value : Bool)
  | number (value : Decimal)
  /-- What `JSON.parse` makes of a number that no double reaches. -/
  | infinity (negative : Bool)
  | string (value : String)
  | array (elements : List Json)
  | object (entries : List (String × Json))

namespace Json

instance : Inhabited Json := ⟨null⟩

section Access

/-- The property of a value under a key; `none` is `undefined`. An array has no
property under any of the keys that are read in this way. -/
def get (key : String) : Json → Option Json
  | object entries => entries.lookup key
  | _ => none

/-- `typeof value === 'object' && value !== null`. -/
def isRecord : Json → Bool
  | array _ => true
  | object _ => true
  | _ => false

/-- The value if it is a string. -/
def asString : Json → Option String
  | string value => some value
  | _ => none

/-- `typeof value === 'number' && Number.isFinite(value)`. -/
def asNumber : Json → Option Decimal
  | number value => some value
  | _ => none

/-- `Array.isArray(value) ? value : []`. -/
def asArray : Json → List Json
  | array elements => elements
  | _ => []

/-- The string under a key, if there is one. -/
def getString (key : String) (value : Json) : Option String :=
  (value.get key).bind asString

/-- The record under a key, if there is one. -/
def getRecord (key : String) (value : Json) : Option Json :=
  (value.get key).filter isRecord

/-- `value[key] ?? fallback`. -/
def getOr (key : String) (value : Json) (fallback : Json) : Json :=
  match value.get key with
  | none => fallback
  | some null => fallback
  | some found => found

end Access

section Text

/-- The characters that stand for one character of a string. -/
def escapeChar (char : Char) : List Char :=
  if char = '"' then ['\\', '"']
  else if char = '\\' then ['\\', '\\']
  else if char = '\x08' then ['\\', 'b']
  else if char = '\x0c' then ['\\', 'f']
  else if char = '\n' then ['\\', 'n']
  else if char = '\r' then ['\\', 'r']
  else if char = '\t' then ['\\', 't']
  else if char.toNat < 32 then
    ['\\', 'u', '0', '0', Nat.digitChar (char.toNat / 16),
      Nat.digitChar (char.toNat % 16)]
  else [char]

/-- A string between quotation marks. -/
def quote (value : String) : List Char :=
  '"' :: (value.toList.flatMap escapeChar ++ ['"'])

mutual

/-- The characters that `JSON.stringify` writes for a value. -/
def text : Json → List Char
  | null => ['n', 'u', 'l', 'l']
  | bool true => ['t', 'r', 'u', 'e']
  | bool false => ['f', 'a', 'l', 's', 'e']
  | number value => value.text
  | infinity _ => ['n', 'u', 'l', 'l']
  | string value => quote value
  | array elements => '[' :: (elementsText elements ++ [']'])
  | object entries => '{' :: (entriesText entries ++ ['}'])

/-- The elements of an array, separated by commas. -/
def elementsText : List Json → List Char
  | [] => []
  | [element] => text element
  | element :: other :: elements =>
      text element ++ ',' :: elementsText (other :: elements)

/-- The entries of an object, separated by commas. -/
def entriesText : List (String × Json) → List Char
  | [] => []
  | [(key, value)] => quote key ++ ':' :: text value
  | (key, value) :: other :: entries =>
      quote key ++ ':' :: text value ++ ',' :: entriesText (other :: entries)

end

/-- `JSON.stringify(value)`. -/
def stringify (value : Json) : String := String.ofList value.text

end Text

mutual

/-- The value with each infinity replaced by the `null` that it is written
as. -/
def finite : Json → Json
  | null => null
  | bool value => bool value
  | number value => number value
  | infinity _ => null
  | string value => string value
  | array elements => array (finiteElements elements)
  | object entries => object (finiteEntries entries)

/-- The elements of an array without infinities. -/
def finiteElements : List Json → List Json
  | [] => []
  | element :: elements => finite element :: finiteElements elements

/-- The entries of an object without infinities. -/
def finiteEntries : List (String × Json) → List (String × Json)
  | [] => []
  | (key, value) :: entries => (key, finite value) :: finiteEntries entries

end

theorem finiteElements_eq_map (elements : List Json) :
    finiteElements elements = elements.map finite := by
  induction elements with
  | nil => rfl
  | cons element elements inductionHypothesis =>
      rw [finiteElements, inductionHypothesis, List.map_cons]

theorem finiteEntries_eq_map (entries : List (String × Json)) :
    finiteEntries entries =
      entries.map fun entry => (entry.1, finite entry.2) := by
  induction entries with
  | nil => rfl
  | cons entry entries inductionHypothesis =>
      rw [finiteEntries, inductionHypothesis, List.map_cons]

end Json

end Foundations
end AiGateway
