import ConfigWiring.Template.Operation
import ConfigWiring.Template.Scope
import ConfigWiring.Template.Test

/-!
# Values of expressions

An expression has a value, it may count as true or false in a condition, and it may be an
operand.  In a condition a variable without a value counts as false and the filters
behind a literal or arithmetic are not looked at; elsewhere a missing variable fails,
unless its first filter supplies a default or it is negated.
-/

namespace ConfigWiring
namespace Template

/-- What an expression sees: the names in scope, the variables of the process, and the
macros of the template. -/
structure Scene where
  /-- The names. -/
  scope : Scope
  /-- The variables of the process. -/
  environment : String -> Option String
  /-- The text of a macro, by where it is defined and its name, with the outcomes of its
  arguments. -/
  callMacro : String -> String -> List (String × Except Fault Value) -> Except Fault String

namespace Core

/-- The path of a core that is a variable. -/
def path? : Core -> Option Steps
  | .variable path => some path
  | _ => none

end Core

namespace Filters

/-- Whether there are no filters. -/
def isEmpty : Filters -> Bool
  | nil => true
  | cons _ _ _ => false

end Filters

/-- The text of a value that is joined with others. -/
def joinable (value : Value) : Except Fault String :=
  match value with
  | .text text => .ok text
  | value => orFault value.numeral?

/-- The value of a comparison of two values, negated or not; two values that are not
compared are neither equal nor unequal. -/
def equation (op : CompareOp) (negated : Bool) (left right : Value) : Bool :=
  match op.equated? left right with
  | some found => found != negated
  | none => false

/-- Whether one of two outcomes is true; a true first one decides. -/
def eitherHolds (left right : Except Fault Bool) : Except Fault Bool := do
  if ← left then .ok true else right

/-- A value, or whether it counts as false. -/
def negation (negated : Bool) (value : Value) : Except Fault Value :=
  .ok (if negated then .bool !value.isTrue else value)

/-- Whether the outcome of a variable, negated or not, counts as true; a fault counts as
false. -/
def variableHolds (negated : Bool) : Except Fault Value -> Bool
  | .ok value => value.isTrue != negated
  | .error _ => false

/-- Whether both of two outcomes are true; a false first one decides. -/
def bothHold (left right : Except Fault Bool) : Except Fault Bool := do
  if ← left then right else .ok false

mutual

/-- The value of an expression. -/
def Expr.value (scene : Scene) : Expr -> Except Fault Value
  | .mk negated core filters => do
      match core.path? with
      | some path =>
          match path.value? scene.scope, filters.fallback? scene with
          | some .null, some fallback | none, some fallback =>
              negation negated (← filters.apply scene (← fallback))
          | some found, _ => negation negated (← filters.apply scene found)
          | none, none => if negated then .ok (.bool true) else .error .unfillable
      | none => negation negated (← filters.apply scene (← core.value scene negated))

/-- Whether an expression counts as true. -/
def Expr.holds (scene : Scene) : Expr -> Except Fault Bool
  | .mk negated core filters =>
      match core.path? with
      | some path =>
          .ok (match path.value? scene.scope, filters.fallback? scene with
            | some .null, some fallback | none, some fallback =>
                variableHolds negated (fallback.bind fun value => filters.apply scene value)
            | some found, _ => variableHolds negated (filters.apply scene found)
            | none, none => negated)
      | none => core.holds scene negated fun value => filters.apply scene value

/-- The number that an expression is. -/
def Expr.operand (scene : Scene) : Expr -> Except Fault Numeric
  | .mk negated core filters =>
      match filters.isEmpty, core.path? with
      | true, _ => core.operand scene
      | false, some path =>
          match path.value? scene.scope, filters.fallback? scene with
          | some .null, some fallback | none, some fallback => do
              asOperand (← filters.apply scene (← fallback))
          | some found, _ => do asOperand (← filters.apply scene found)
          | none, none => .error .unfillable
      | false, none => do asOperand (← filters.apply scene (← core.value scene negated))

/-- The value of a core. -/
def Core.value (scene : Scene) (negated : Bool) : Core -> Except Fault Value
  | .literal value => .ok value
  | .variable path => orFault (path.value? scene.scope)
  | .joined parts => (parts.texts scene).map .text
  | .math op left right => do
      .ok (numericValue (← op.apply (← left.operand scene) (← right.operand scene)))
  | .compare op left right => do
      if op.isOrder then
        .ok (.bool ((← op.ordered (← left.operand scene) (← right.operand scene)) != negated))
      else .ok (.bool (equation op negated (← left.value scene) (← right.value scene)))
  | .both left right => do
      .ok (.bool ((← bothHold (left.holds scene) (right.holds scene)) != negated))
  | .either left right => do
      .ok (.bool ((← eitherHolds (left.holds scene) (right.holds scene)) != negated))
  | .isIn absent needle container => do
      .ok (.bool ((← holds (← container.value scene) (← needle.value scene)) != absent))
  | .test absent path name arguments => do
      .ok (.bool ((← Test.passes name (path.value? scene.scope) (← arguments.values scene))
        != absent))
  | .call name arguments => do
      callFunction scene.environment name (← arguments.values scene)
  | .callMacro origin name arguments =>
      (scene.callMacro origin name (arguments.outcomes scene)).map .text
  | .list items => (items.values scene).map .list

/-- Whether a core, negated or not, counts as true; `finish` changes joined values by the
filters behind them. -/
def Core.holds (scene : Scene) (negated : Bool) (finish : Value -> Except Fault Value) :
    Core -> Except Fault Bool
  | .literal value => .ok (value.isTrue != negated)
  | .variable path => .ok ((path.value? scene.scope).any Value.isTrue != negated)
  | .joined parts => do
      match ← finish (.text (← parts.texts scene)), negated with
      | .text text, false => .ok !text.isEmpty
      | _, _ => .error .unfillable
  | .math op left right => do
      .ok (numericTruth (← op.apply (← left.operand scene) (← right.operand scene)) != negated)
  | .compare op left right => do
      if op.isOrder then
        .ok ((← op.ordered (← left.operand scene) (← right.operand scene)) != negated)
      else .ok (equation op negated (← left.value scene) (← right.value scene))
  | .both left right => do
      .ok ((← bothHold (left.holds scene) (right.holds scene)) != negated)
  | .either left right => do
      .ok ((← eitherHolds (left.holds scene) (right.holds scene)) != negated)
  | .isIn absent needle container => do
      .ok (((← Template.holds (← container.value scene) (← needle.value scene)) != absent)
        != negated)
  | .test absent path name arguments => do
      .ok (((← Test.passes name (path.value? scene.scope) (← arguments.values scene)) != absent)
        != negated)
  | .call name arguments => do
      match ← callFunction scene.environment name (← arguments.values scene) with
      | .bool value => .ok (value != negated)
      | _ => .error .unfillable
  | .callMacro origin name arguments => do
      .ok ((!(← scene.callMacro origin name (arguments.outcomes scene)).isEmpty) != negated)
  | .list _ => .error .unfillable

/-- The number that a core is. -/
def Core.operand (scene : Scene) : Core -> Except Fault Numeric
  | .literal value => asOperand value
  | .variable path => do asOperand (← orFault (path.value? scene.scope))
  | .math op left right => do op.apply (← left.operand scene) (← right.operand scene)
  | .call name arguments => do
      asOperand (← callFunction scene.environment name (← arguments.values scene))
  | _ => .error .unfillable

/-- The values of a list of expressions. -/
def Exprs.values (scene : Scene) : Exprs -> Except Fault (List Value)
  | .nil => .ok []
  | .cons first rest => do .ok ((← first.value scene) :: (← rest.values scene))

/-- The text of the joined values of a list of expressions. -/
def Exprs.texts (scene : Scene) : Exprs -> Except Fault String
  | .nil => .ok ""
  | .cons first rest => do
      let here ← match first with
        | .mk _ (.literal value) _ => Except.ok value.written
        | first => joinable (← first.value scene)
      .ok (here ++ (← rest.texts scene))

/-- The outcomes of arguments by their names. -/
def Arguments.outcomes (scene : Scene) : Arguments -> List (String × Except Fault Value)
  | .nil => []
  | .cons name value rest => (name, value.value scene) :: rest.outcomes scene

/-- The values of arguments by their names. -/
def Arguments.values (scene : Scene) : Arguments -> Except Fault Named
  | .nil => .ok []
  | .cons name value rest => do .ok ((name, ← value.value scene) :: (← rest.values scene))

/-- A value changed by filters; two of them are only marks and change nothing. -/
def Filters.apply (scene : Scene) : Filters -> Value -> Except Fault Value
  | .nil, value => .ok value
  | .cons name arguments rest, value =>
      if name = "safe" || name = "default" then rest.apply scene value
      else do rest.apply scene (← Filter.apply name (← arguments.values scene) value)

/-- What stands in for a missing value, if the first filter asks for that. -/
def Filters.fallback? (scene : Scene) : Filters -> Option (Except Fault Value)
  | .cons "default" arguments _ =>
      some (((arguments.outcomes scene).lookup "value").getD (.error .unfillable))
  | _ => none

end

end Template
end ConfigWiring
