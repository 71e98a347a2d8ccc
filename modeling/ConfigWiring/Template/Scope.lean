import ConfigWiring.Template.Basic
import ConfigWiring.Template.Json

/-!
# Scopes of a template

The names that a template sees are bound in frames, the innermost first: those of its
repetitions, of the template or the macro itself, and of a template that inserts it.
What no frame binds is looked up among the values that the template was given.  A macro
sees none of the frames around its call.
-/

namespace ConfigWiring
namespace Template

/-- The item that a repetition stands at. -/
structure Turn where
  /-- The name of the key with its value, where a record is gone through. -/
  key : Option (String × Value)
  /-- The name of the item. -/
  item : String
  /-- The item. -/
  value : Value
  /-- How many items came before. -/
  index : Nat
  /-- How many items there are. -/
  count : Nat

/-- The names that one repetition, template or macro binds. -/
structure Frame where
  /-- The names defined so far. -/
  defined : Named
  /-- The turn, if the frame is that of a repetition. -/
  turn? : Option Turn
  /-- Whether the frames outside of this one are hidden. -/
  hides : Bool

/-- The names that a template sees at one of its parts. -/
structure Scope where
  /-- The frames, the innermost first. -/
  frames : List Frame
  /-- The values that the template was given, in the order of their names. -/
  givens : Named

namespace Turn

/-- What a repetition tells about its turn. -/
def about? (turn : Turn) : String -> Option Value
  | "index" => some (.int (turn.index + 1))
  | "index0" => some (.int turn.index)
  | "first" => some (.bool (turn.index == 0))
  | "last" => some (.bool (turn.index + 1 == turn.count))
  | _ => none

/-- The value that a turn binds to a chain of names: the key goes before the item. -/
def find? (turn : Turn) (name : String) (names : List String) : Option Value :=
  match name, names with
  | "loop", [about] => turn.about? about
  | name, names =>
      match names.isEmpty, turn.key with
      | true, some (key, value) =>
          if name = key then some value else if name = turn.item then some turn.value else none
      | _, _ => if name = turn.item then turn.value.follow? names else none

/-- The names that a turn binds. -/
def bound (turn : Turn) : Named := (turn.item, turn.value) :: turn.key.toList

end Turn

namespace Frame

/-- A frame without names. -/
def empty : Frame := ⟨[], none, false⟩

/-- The frame of a turn. -/
def ofTurn (turn : Turn) : Frame := ⟨[], some turn, false⟩

/-- The value that a frame binds to a chain of names. -/
def find? (frame : Frame) : List String -> Option Value
  | [] => none
  | name :: names =>
      match (frame.defined.lookup name).bind (·.follow? names) with
      | some value => some value
      | none => frame.turn?.bind fun turn => turn.find? name names

/-- The frame with a name defined. -/
def define (frame : Frame) (name : String) (value : Value) : Frame :=
  { frame with defined := bindName name value frame.defined }

end Frame

namespace Scope

/-- A scope that sees the given values alone. -/
def initial (givens : Named) : Scope := ⟨[Frame.empty], givens⟩

/-- The value that the frames bind to a chain of names, up to one that hides the others. -/
def findIn (names : List String) : List Frame -> Option Value
  | [] => none
  | frame :: outer =>
      match frame.find? names with
      | some value => some value
      | none => if frame.hides then none else findIn names outer

/-- The value of a chain of names. -/
def find? (scope : Scope) (names : List String) : Option Value :=
  match findIn names scope.frames, names with
  | some value, _ => some value
  | none, name :: names => (scope.givens.lookup name).bind (·.follow? names)
  | none, [] => none

/-- The scope with a name defined in the innermost frame. -/
def define (scope : Scope) (name : String) (value : Value) : Scope :=
  match scope.frames with
  | [] => scope
  | frame :: outer => { scope with frames := frame.define name value :: outer }

/-- The frames with a name defined in the innermost one that is not of a repetition. -/
def defineBeyond (name : String) (value : Value) : List Frame -> List Frame
  | [] => []
  | frame :: outer =>
      if frame.turn?.isSome then frame :: defineBeyond name value outer
      else frame.define name value :: outer

/-- The scope with a name defined outside of all repetitions. -/
def defineEverywhere (scope : Scope) (name : String) (value : Value) : Scope :=
  { scope with frames := defineBeyond name value scope.frames }

/-- The scope inside of a further frame. -/
def enter (scope : Scope) (frame : Frame) : Scope :=
  { scope with frames := frame :: scope.frames }

/-- The scope outside of its innermost frame. -/
def leave (scope : Scope) : Scope := { scope with frames := scope.frames.drop 1 }

/-- All names with their values: what a frame binds goes before the given values, and
before what frames inside of it bind. -/
def visible (scope : Scope) : Named :=
  collect [] scope.frames
where
  /-- The names of the frames on top of those collected from inner ones. -/
  collect (found : Named) : List Frame -> Named
    | [] => bindAll found scope.givens
    | frame :: outer =>
        let here := bindAll ((frame.turn?.map Turn.bound).getD []) (bindAll frame.defined found)
        if frame.hides then here else collect here outer
  /-- Names bound anew. -/
  bindAll (names held : Named) : Named :=
    names.foldl (fun held (name, value) => bindName name value held) held

/-- The name under which a template sees all its names at once. -/
def everything : String := "__tera_context"

/-- The value of a variable: of a chain of names, or all names as JSON. -/
def value? (scope : Scope) (names : List String) : Option Value :=
  if names = [everything] then some (.text (Json.laidOut (.record scope.visible)))
  else scope.find? names

end Scope

mutual

/-- The name of one step. -/
def Step.resolve (scope : Scope) : Step -> Option String
  | .name text => some text
  | .computed steps =>
      match (steps.resolve scope).bind scope.value? with
      | some (.text text) => some text
      | some value => value.numeral?
      | none => none

/-- The names along a path. -/
def Steps.resolve (scope : Scope) : Steps -> Option (List String)
  | .done => some []
  | .more step rest => do
      let name ← step.resolve scope
      let names ← rest.resolve scope
      some (name :: names)

end

/-- The value of a path, if there is one. -/
def Steps.value? (scope : Scope) (path : Steps) : Option Value :=
  (path.resolve scope).bind scope.value?

end Template
end ConfigWiring
