import ConfigWiring.Template.Evaluation
import ConfigWiring.Text.Grapheme

/-!
# Filling templates

A template is filled part by part.  Tags may define further names, and a repetition
binds its item; inner bindings hide outer ones and end with their repetition.  A macro
is filled on its own, and a template may insert itself and fill a block again, to a
depth that no template should need.
-/

namespace ConfigWiring
namespace Template

open Text

/-- How far a template is filled: the text so far, and the names in scope. -/
structure Filling where
  /-- The text. -/
  output : String
  /-- The names. -/
  scope : Scope

/-- How the parts of a template end. -/
inductive Ending where
  | finished
  | left
  | skipped
  deriving DecidableEq, Repr

/-- The outcome of filling some parts. -/
abbrev Filled := Except Fault (Filling × Ending)

/-- What a template is filled with besides its names. -/
structure Helpers where
  /-- The variables of the process. -/
  environment : String -> Option String
  /-- The text of a macro, with the outcomes of its arguments. -/
  callMacro : String -> String -> List (String × Except Fault Value) -> Except Fault String
  /-- The text of the template of a name, if there is one. -/
  insert? : String -> Option (Scope -> Except Fault String)
  /-- The parts that the block of a name stands for, if the template has told them. -/
  block? : String -> Option (Filling -> Filled)

namespace Filling

/-- Add to the text. -/
def write (filling : Filling) (text : String) : Filling :=
  { filling with output := filling.output ++ text }

/-- What an expression sees while a template is filled. -/
def scene (helpers : Helpers) (filling : Filling) : Scene :=
  ⟨filling.scope, helpers.environment, helpers.callMacro⟩

@[simp] theorem output_write (filling : Filling) (text : String) :
    (filling.write text).output = filling.output ++ text := rfl

@[simp] theorem scope_write (filling : Filling) (text : String) :
    (filling.write text).scope = filling.scope := rfl

end Filling

namespace Expr

/-- Whether an expression can be gone through: a variable, a call or a list. -/
def isContainer : Expr -> Bool
  | .mk _ (.variable _) _ | .mk _ (.call _ _) _ | .mk _ (.list _) _ => true
  | _ => false

end Expr

/-- The turns that a repetition takes through a container. -/
def turns (key : Option String) (item : String) : Value -> Except Fault (List Turn)
  | .list items =>
      if key.isSome then .error .unfillable
      else .ok (items.zipIdx.map fun (value, index) => ⟨none, item, value, index, items.length⟩)
  | .text text =>
      let parts := graphemes text.toList
      if key.isSome then .error .unfillable
      else .ok (parts.zipIdx.map fun (part, index) =>
        ⟨none, item, .text (String.ofList part), index, parts.length⟩)
  | .record fields =>
      match key with
      | none => .error .unfillable
      | some key => .ok (fields.zipIdx.map fun ((name, value), index) =>
          ⟨some (key, .text name), item, value, index, fields.length⟩)
  | _ => .error .unfillable

/-- Fill the body of a repetition once for each turn, until it is left. -/
def repeatTurns (fillBody : Filling -> Filled) : List Turn -> Filling -> Except Fault Filling
  | [], filling => .ok filling
  | turn :: rest, filling => do
      let (after, ending) ← fillBody { filling with scope := filling.scope.enter (.ofTurn turn) }
      let outside := { after with scope := after.scope.leave }
      if ending = .left then .ok outside else repeatTurns fillBody rest outside

/-- A text changed by a filter. -/
def filterText (name : String) (arguments : Except Fault Named) (text : String) :
    Except Fault String :=
  if name = "safe" then .ok text
  else do .ok (← Filter.apply name (← arguments) (.text text)).written

/-- The text of the first of several templates that there is. -/
def insertFirst (helpers : Helpers) (names : List String) (optional : Bool) (scope : Scope) :
    Except Fault String :=
  match names.findSome? helpers.insert? with
  | some insert => insert (scope.enter .empty)
  | none => if optional then .ok "" else .error .unfillable

mutual

/-- Fill one part of a template. -/
def Node.fill (helpers : Helpers) : Node -> Filling -> Filled
  | .text content, filling => .ok (filling.write content, .finished)
  | .shown value, filling => do
      let shown ← value.value (filling.scene helpers)
      .ok (filling.write shown.written, .finished)
  | .define everywhere name value, filling => do
      let bound ← value.value (filling.scene helpers)
      let scope :=
        if everywhere then filling.scope.defineEverywhere name bound
        else filling.scope.define name bound
      .ok ({ filling with scope }, .finished)
  | .choose condition body otherwise, filling => do
      if ← condition.holds (filling.scene helpers) then body.fill helpers filling
      else otherwise.fill helpers filling
  | .repeat key item container body otherwise, filling => do
      if !container.isContainer then .error .unfillable
      else
        match ← turns key item (← container.value (filling.scene helpers)) with
        | [] => otherwise.fill helpers filling
        | through => do .ok (← repeatTurns (body.fill helpers) through filling, .finished)
  | .leave, filling => .ok (filling, .left)
  | .skip, filling => .ok (filling, .skipped)
  | .filtered name arguments body, filling => do
      let (inside, ending) ← body.fill helpers { filling with output := "" }
      let changed ← filterText name (arguments.values (inside.scene helpers)) inside.output
      .ok ({ inside with output := filling.output ++ changed }, ending)
  | .block name body, filling =>
      match helpers.block? name with
      | some fillBlock => fillBlock filling
      | none => body.fill helpers filling
  | .insert names optional, filling => do
      .ok (filling.write (← insertFirst helpers names optional filling.scope), .finished)
  | .remark, filling => .ok (filling, .finished)
  | .defineMacro _ _ _, filling => .ok (filling, .finished)

/-- Fill the parts of a template in order, until one leaves or skips. -/
def Nodes.fill (helpers : Helpers) : Nodes -> Filling -> Filled
  | .nil, filling => .ok (filling, .finished)
  | .cons first rest, filling => do
      let (after, ending) ← first.fill helpers filling
      if ending = .finished then rest.fill helpers after else .ok (after, ending)

end

/-- The values that a macro binds, from the outcomes of its arguments. -/
def bindParameters (arguments : List (String × Except Fault Value)) :
    Parameters -> Except Fault Named
  | [] => .ok []
  | (name, standIn?) :: rest => do
      let value ← match arguments.lookup name, standIn? with
        | some outcome, _ => outcome
        | none, some standIn => .ok standIn
        | none, none => .error .unfillable
      .ok (bindName name value (← bindParameters arguments rest))

/-- What a template is filled from: its parts and the name under which it may insert
itself. -/
structure Source where
  /-- The name. -/
  name : String
  /-- The parts. -/
  nodes : Nodes

namespace Source

/-- How deep a template may call its macros, insert itself and fill blocks again. -/
def maxDepth : Nat := 1000

/-- What the parts of a template are filled with, up to a depth. -/
def helpers (source : Source) (environment : String -> Option String) (givens : Named) :
    (depth : Nat) -> Helpers
  | 0 => ⟨environment, fun _ _ _ => .error .unfillable, fun _ => none, fun _ => none⟩
  | depth + 1 =>
      let inner := source.helpers environment givens depth
      let textOf := fun (nodes : Nodes) (scope : Scope) =>
        (nodes.fill inner ⟨"", scope⟩).map fun (filling, _) => filling.output
      {
        environment
        callMacro := fun origin name arguments =>
          match (source.nodes.macros.find? (·.name == name)).filter fun _ => origin = "self" with
          | none => .error .unfillable
          | some called => do
              let bound ← bindParameters arguments called.parameters
              textOf called.body ⟨[⟨bound, none, true⟩], givens⟩
        insert? := fun name =>
          if name = source.name && depth != 0 then some (textOf source.nodes) else none
        block? := fun name =>
          (source.nodes.blocks.lookup name).map fun body => body.fill inner
      }

/-- Fill a template with given values. -/
def fill (source : Source) (environment : String -> Option String) (fields : Named) :
    Except Fault String :=
  let givens := fields.foldl (fun held (name, value) => bindName name value held) []
  let helpers := source.helpers environment givens maxDepth
  (source.nodes.fill helpers ⟨"", .initial givens⟩).map fun (filling, _) => filling.output

end Source
end Template
end ConfigWiring
