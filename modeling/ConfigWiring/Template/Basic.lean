import ConfigWiring.Template.Fault
import ConfigWiring.Template.Value

/-!
# Templates

A template is text with places where values are shown, and with tags that choose,
repeat, define or call.  An expression is a core with filters behind it, and it may be
negated.  The core is a literal, a variable with its members, an operation between
numbers, a comparison, a condition, a test, or the call of a function or of a macro that
the template defines.
-/

namespace ConfigWiring
namespace Template

/-- Operations between numbers. -/
inductive MathOp where
  | plus | minus | times | divide | modulo
  deriving DecidableEq, Repr

/-- Comparisons. -/
inductive CompareOp where
  | equal | unequal | less | atMost | greater | atLeast
  deriving DecidableEq, Repr

mutual

/-- One step from a value to a member of it. -/
inductive Step where
  /-- A member given by its name or place. -/
  | name (text : String)
  /-- A member whose name or place is the value of a variable. -/
  | computed (steps : Steps)

/-- A variable and the steps behind it. -/
inductive Steps where
  | done
  | more (step : Step) (rest : Steps)

end

mutual

/-- An expression: a core, the filters behind it, and whether it is negated. -/
inductive Expr where
  | mk (negated : Bool) (core : Core) (filters : Filters)

/-- What an expression begins with. -/
inductive Core where
  | literal (value : Value)
  | variable (path : Steps)
  | joined (parts : Exprs)
  | math (op : MathOp) (left right : Expr)
  | compare (op : CompareOp) (left right : Expr)
  | both (left right : Expr)
  | either (left right : Expr)
  | isIn (negated : Bool) (needle container : Expr)
  | test (negated : Bool) (path : Steps) (name : String) (arguments : Exprs)
  | call (name : String) (arguments : Arguments)
  | callMacro (origin name : String) (arguments : Arguments)
  | list (items : Exprs)

/-- A list of expressions. -/
inductive Exprs where
  | nil
  | cons (first : Expr) (rest : Exprs)

/-- Arguments with their names. -/
inductive Arguments where
  | nil
  | cons (name : String) (value : Expr) (rest : Arguments)

/-- Filters in the order in which they change a value. -/
inductive Filters where
  | nil
  | cons (name : String) (arguments : Arguments) (rest : Filters)

end

/-- The names that a macro binds, with the values that stand in for missing ones. -/
abbrev Parameters := List (String × Option Value)

mutual

/-- A part of a template. -/
inductive Node where
  | text (content : String)
  | shown (value : Expr)
  | define (everywhere : Bool) (name : String) (value : Expr)
  | choose (condition : Expr) (body otherwise : Nodes)
  | repeat (key : Option String) (item : String) (container : Expr) (body otherwise : Nodes)
  | leave
  | skip
  | filtered (name : String) (arguments : Arguments) (body : Nodes)
  | block (name : String) (body : Nodes)
  | insert (names : List String) (optional : Bool)
  | remark
  | defineMacro (name : String) (parameters : Parameters) (body : Nodes)

/-- A sequence of parts. -/
inductive Nodes where
  | nil
  | cons (first : Node) (rest : Nodes)

end

namespace Exprs

/-- A list of expressions. -/
def ofList : List Expr -> Exprs
  | [] => nil
  | first :: rest => cons first (ofList rest)

/-- Whether there are no expressions. -/
def isEmpty : Exprs -> Bool
  | nil => true
  | cons _ _ => false

end Exprs

namespace Arguments

/-- The arguments without those of a name. -/
def erase (name : String) : Arguments -> Arguments
  | nil => nil
  | cons first value rest =>
      if first = name then rest.erase name else cons first value (rest.erase name)

/-- The arguments of a list; of two with one name the later counts. -/
def ofList : List (String × Expr) -> Arguments
  | [] => nil
  | (name, value) :: rest =>
      if (rest.lookup name).isSome then ofList rest else cons name value (ofList rest)

end Arguments

namespace Filters

/-- Filters with further ones behind them. -/
def append : Filters -> Filters -> Filters
  | nil, others => others
  | cons name arguments rest, others => cons name arguments (rest.append others)

end Filters

namespace Expr

/-- The expression of a core alone. -/
def ofCore (core : Core) : Expr := .mk false core .nil

/-- The expression, negated or not as told. -/
def withNegation (negated : Bool) : Expr -> Expr
  | .mk _ core filters => .mk negated core filters

end Expr

namespace Steps

/-- A path of plain names. -/
def ofNames : List String -> Steps
  | [] => done
  | name :: names => more (.name name) (ofNames names)

/-- A path with one more step at its end. -/
def snoc : Steps -> Step -> Steps
  | done, step => more step done
  | more first rest, step => more first (rest.snoc step)

end Steps

/-- A macro: its name, what it binds, and the parts that it is filled from. -/
structure Macro where
  name : String
  parameters : Parameters
  body : Nodes

namespace Nodes

/-- The macros that a sequence of parts defines. -/
def macros : Nodes -> List Macro
  | nil => []
  | cons (.defineMacro name parameters body) rest => ⟨name, parameters, body⟩ :: rest.macros
  | cons _ rest => rest.macros

end Nodes

mutual

/-- The blocks at a part: itself and those inside of it. -/
def Node.blocks : Node -> List (String × Nodes)
  | .block name body => (name, body) :: body.blocks
  | _ => []

/-- The blocks of a sequence of parts, with those inside of other blocks. -/
def Nodes.blocks : Nodes -> List (String × Nodes)
  | .nil => []
  | .cons first rest => first.blocks ++ rest.blocks

end

end Template
end ConfigWiring
