import ConfigWiring.Decimal.Basic
import ConfigWiring.Decimal.Reading

/-!
# Template values

The values that a template is filled with: texts, numbers, lists and records, whose
fields stand in the order of their names.  A value shows as text, it counts as true or
false in a condition, and a chain of names leads to what it holds.
-/

namespace ConfigWiring
namespace Template

/-- A value that a template can show or inspect. -/
inductive Value where
  | null
  | bool (value : Bool)
  | int (value : Int)
  | float (value : Float)
  | text (value : String)
  | list (items : List Value)
  | record (fields : List (String × Value))
  deriving BEq, Repr

/-- Values by their names. -/
abbrev Named := List (String × Value)

/-- Values by their names in the order of the names, with a name bound anew. -/
def bindName (name : String) (value : Value) : Named -> Named
  | [] => [(name, value)]
  | (first, held) :: rest =>
      if name = first then (name, value) :: rest
      else if name < first then (name, value) :: (first, held) :: rest
      else (first, held) :: bindName name value rest

namespace Value

instance : Inhabited Value := ⟨null⟩

/-- A list of texts. -/
def texts (items : List String) : Value := list (items.map text)

mutual

/-- How a value shows in the filled text. -/
def written : Value -> String
  | null => ""
  | bool value => if value then "true" else "false"
  | int value => toString value
  | float value => Decimal.plain value
  | text value => value
  | list items => "[" ++ writtenItems items ++ "]"
  | record _ => "[object]"

/-- The items of a list with commas between them. -/
def writtenItems : List Value -> String
  | [] => ""
  | [item] => item.written
  | item :: items => item.written ++ ", " ++ writtenItems items

end

/-- How a number shows where texts are joined: one that is no integer keeps its point or
its exponent. -/
def numeral? : Value -> Option String
  | int value => some (toString value)
  | float value => some (Decimal.markedFrom (-5) value)
  | _ => none

/-- Whether a value counts as true: it is neither zero nor empty. -/
def isTrue : Value -> Bool
  | null => false
  | bool value => value
  | int value => value != 0
  | float value => value != 0.0 && !value.isNaN
  | text value => !value.isEmpty
  | list items => !items.isEmpty
  | record fields => !fields.isEmpty

/-- A number as a floating-point number. -/
def number? : Value -> Option Float
  | int value => some (Float.ofInt value)
  | float value => some value
  | _ => none

/-- A floating-point number as a value; one that is not finite is none. -/
def ofFloat (value : Float) : Value :=
  if value.isNaN || value.isInf then null else float value

/-- The place in a list that a name spells: digits without a needless zero. -/
def placeOf? (name : String) : Option Nat :=
  match name.toList with
  | '0' :: _ :: _ => none
  | digits => Decimal.readDigits? digits

/-- The value of a field of a record, or of the item of a list at a place that a
name spells. -/
def member? (name : String) : Value -> Option Value
  | record fields => fields.lookup name
  | list items => (placeOf? name).bind fun place => items[place]?
  | _ => none

/-- The value at the end of a chain of names. -/
def follow? (value : Value) : List String -> Option Value
  | [] => some value
  | name :: names => (value.member? name).bind fun inner => inner.follow? names

@[simp] theorem follow?_nil (value : Value) : value.follow? [] = some value := rfl

end Value
end Template
end ConfigWiring
