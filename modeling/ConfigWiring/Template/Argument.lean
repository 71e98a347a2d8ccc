import ConfigWiring.Template.Value

/-!
# Arguments of filters and functions

An argument has a name and is read as a value of one kind.  An argument of another kind
is an error, also where a missing one is not.
-/

namespace ConfigWiring
namespace Template
namespace Argument

/-- The argument of a name, which has to be there. -/
def required? {result : Type} (read? : Value -> Option result) (name : String)
    (arguments : Named) : Option result :=
  (arguments.lookup name).bind read?

/-- The argument of a name, or what stands in for a missing one. -/
def orElse? {result : Type} (read? : Value -> Option result) (fallback : result) (name : String)
    (arguments : Named) : Option result :=
  match arguments.lookup name with
  | some value => read? value
  | none => some fallback

/-- A value as the characters of a text. -/
def text? : Value -> Option (List Char)
  | .text text => some text.toList
  | _ => none

/-- A value as a truth value. -/
def flag? : Value -> Option Bool
  | .bool value => some value
  | _ => none

/-- A value as an integer from a range. -/
def intFrom? (least greatest : Int) : Value -> Option Int
  | .int number => if least ≤ number ∧ number ≤ greatest then some number else none
  | _ => none

/-- A value as an integer of 64 bits. -/
def int? : Value -> Option Int := intFrom? (-Int.pow 2 63) (Int.pow 2 63 - 1)

/-- A value as a natural number of 64 bits. -/
def count? (value : Value) : Option Nat := (intFrom? 0 (Int.pow 2 64 - 1) value).map Int.toNat

/-- A value as a list. -/
def list? : Value -> Option (List Value)
  | .list items => some items
  | _ => none

end Argument
end Template
end ConfigWiring
