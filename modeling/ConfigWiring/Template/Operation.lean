import ConfigWiring.Decimal.Basic
import ConfigWiring.Template.Basic
import ConfigWiring.Template.Filter

/-!
# Operations of expressions

Arithmetic between numbers, comparisons, membership and functions.  Integers have 64
bits, and an operation that leaves them fails; a result that is no number ends all
arithmetic it is part of without a number.
-/

namespace ConfigWiring
namespace Template

open Text

/-- A number or nothing, where an operation gave no number. -/
abbrev Numeric := Option Value

/-- A value as an operand. -/
def asOperand (value : Value) : Except Fault Numeric :=
  match value with
  | .int _ | .float _ => .ok (some value)
  | _ => .error .unfillable

/-- An integer as a result, if it has 64 bits. -/
def inWord (number : Int) : Except Fault Numeric :=
  match Argument.int? (.int number) with
  | some number => .ok (some (.int number))
  | none => .error .unfillable

/-- A floating-point number as a result; one that is not finite is none. -/
def finite (number : Float) : Numeric :=
  if number.isNaN || number.isInf then none else some (.float number)

/-- The quotient of two numbers: an integer where it is whole. -/
def quotient (left right : Float) : Numeric :=
  let result := left / right
  if result.isNaN || result.isInf then none
  else if result.round == result then some (.int (Decimal.truncated result))
  else some (.float result)

namespace MathOp

/-- The result of an operation between integers. -/
def onInts (op : MathOp) (left right : Int) : Except Fault Numeric :=
  match op with
  | plus => inWord (left + right)
  | minus => inWord (left - right)
  | times => inWord (left * right)
  | divide => .ok (quotient (Float.ofInt left) (Float.ofInt right))
  | modulo => if right = 0 then .error .unfillable else .ok (some (.int (Int.tmod left right)))

/-- The result of an operation between floating-point numbers. -/
def onFloats (op : MathOp) (left right : Float) : Numeric :=
  match op with
  | plus => finite (left + right)
  | minus => finite (left - right)
  | times => finite (left * right)
  | divide => quotient left right
  | modulo => finite (Decimal.remainder left right)

/-- The result of an operation. -/
def apply (op : MathOp) (left right : Numeric) : Except Fault Numeric :=
  match left, right with
  | some (.int x), some (.int y) => op.onInts x y
  | some left, some right =>
      match left.number?, right.number? with
      | some x, some y => .ok (op.onFloats x y)
      | _, _ => .error .unfillable
  | _, _ => .ok none

end MathOp

/-- The value of arithmetic: a number, or the text for none. -/
def numericValue (result : Numeric) : Value := result.getD (.text "NaN")

/-- Whether arithmetic counts as true: it has given a number other than zero. -/
def numericTruth (result : Numeric) : Bool := (result.bind Value.number?).any (· != 0.0)

namespace CompareOp

/-- Whether a comparison asks for an order. -/
def isOrder : CompareOp -> Bool
  | equal | unequal => false
  | _ => true

/-- Whether an order between two numbers holds. -/
def ordered (op : CompareOp) (left right : Numeric) : Except Fault Bool :=
  match left.bind Value.number?, right.bind Value.number? with
  | some x, some y =>
      .ok (match op with
        | less => x < y
        | atMost => x ≤ y
        | greater => x > y
        | _ => x ≥ y)
  | _, _ => .error .unfillable

/-- Whether two values are or are not equal; nothing if one of them alone is a number, as
then they are not compared. -/
def equated? (op : CompareOp) (left right : Value) : Option Bool :=
  let wanted := op == equal
  match left.number?, right.number? with
  | some x, some y => some ((x == y) == wanted)
  | none, none => some ((left == right) == wanted)
  | _, _ => none

end CompareOp

/-- Whether a container holds a value. -/
def holds (container needle : Value) : Except Fault Bool :=
  match container, needle with
  | .list items, needle => .ok (items.contains needle)
  | .text text, .text part => .ok (occursIn part.toList text.toList)
  | .record fields, .text key => .ok (fields.lookup key).isSome
  | _, _ => .error .unfillable

/-- The numbers from one up to another in steps. -/
def range (start stop step : Nat) : List Value :=
  (List.range ((stop - start + step - 1) / step)).map fun turn => .int (start + turn * step : Nat)

/-- The value of a function; `environment` gives the variables of the process. -/
def callFunction (environment : String -> Option String) (name : String) (arguments : Named) :
    Except Fault Value :=
  orFault <|
    match name with
    | "range" => do
        let start ← Argument.orElse? Argument.count? 0 "start" arguments
        let step ← Argument.orElse? Argument.count? 1 "step_by" arguments
        let stop ← Argument.required? Argument.count? "end" arguments
        if start > stop || (step = 0 && start != stop) then none
        else some (.list (range start stop step))
    | "get_env" => do
        let key ← Argument.required? Argument.text? "name" arguments
        ((environment (String.ofList key)).map .text).or (arguments.lookup "default")
    | _ => none

end Template
end ConfigWiring
