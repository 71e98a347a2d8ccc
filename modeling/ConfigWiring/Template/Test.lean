import ConfigWiring.Decimal.Basic
import ConfigWiring.Template.Filter
import ConfigWiring.Text.PatternReading

/-!
# Tests

A test asks something about a value that may be missing, perhaps with an argument.  It
fails on a missing value and on values and arguments of the wrong kind, except where it
asks about that; a name that is none of a test fails, too.
-/

namespace ConfigWiring
namespace Template

open Text

namespace Test

/-- The tests without arguments. -/
def plain? (name : String) : Option (Option Value -> Option Bool) :=
  match name with
  | "defined" => some fun value? => some value?.isSome
  | "undefined" => some fun value? => some value?.isNone
  | "string" => some (·.map fun | .text _ => true | _ => false)
  | "number" => some (·.map fun value => value.number?.isSome)
  | "iterable" => some (·.map fun | .list _ | .record _ => true | _ => false)
  | "object" => some (·.map fun | .record _ => true | _ => false)
  | "odd" => some fun value? => (value?.bind Value.number?).map fun number =>
      Decimal.remainder number 2.0 != 0.0
  | "even" => some fun value? => (value?.bind Value.number?).map fun number =>
      Decimal.remainder number 2.0 == 0.0
  | _ => none

/-- The tests with one argument. -/
def withArgument? (name : String) (value argument : Value) : Option Bool :=
  match name, value, argument with
  | "divisibleby", value, argument => do
      some (Decimal.remainder (← value.number?) (← argument.number?) == 0.0)
  | "starting_with", .text text, .text start => some (start.toList.isPrefixOf text.toList)
  | "ending_with", .text text, .text final => some (final.toList.isSuffixOf text.toList)
  | "containing", .text text, .text part => some (Text.occursIn part.toList text.toList)
  | "containing", .list items, item => some (items.contains item)
  | "containing", .record fields, .text key => some (fields.lookup key).isSome
  | "matching", .text text, .text pattern =>
      (Pattern.read? pattern.toList).map fun pattern => pattern.occursIn text.toList
  | _, _, _ => none

/-- Whether a value, if there is one, passes a test. -/
def passes (name : String) (value? : Option Value) (arguments : List Value) :
    Except Fault Bool :=
  orFault <|
    match plain? name, arguments with
    | some test, [] => test value?
    | some _, _ => none
    | none, [argument] => value?.bind fun value => withArgument? name value argument
    | none, _ => none

end Test
end Template
end ConfigWiring
