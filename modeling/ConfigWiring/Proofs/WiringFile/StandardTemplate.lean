import ConfigWiring.WiringFile.Basic

/-!
# The parts of the standard template

The standard template consists of texts, shown members of values, repetitions and one choice.
-/

namespace ConfigWiring

open Template

namespace Template

/-! ## Plain templates -/

namespace Expr

/-- The member of a value that a chain of names leads to. -/
def member (names : List String) : Expr := .ofCore (.variable (.ofNames names))

end Expr

namespace Nodes

/-- A sequence of parts. -/
def ofList : List Node -> Nodes
  | [] => nil
  | first :: rest => cons first (ofList rest)

end Nodes

/-! ## Comparing plain templates -/

/-- Whether two paths are the same and consist of plain names. -/
def Steps.same : Steps -> Steps -> Bool
  | .done, .done => true
  | .more (.name first) rest, .more (.name first') rest' => first == first' && rest.same rest'
  | _, _ => false

theorem Steps.eq_of_same
    {left right : Steps}
    (same : left.same right = true) :
    left = right := by
  match left, right with
  | .done, .done => rfl
  | .more (.name first) rest, .more (.name first') rest' =>
      simp only [Steps.same, Bool.and_eq_true, beq_iff_eq] at same
      rw [same.1, eq_of_same same.2]
  | .done, .more _ _ => simp [Steps.same] at same
  | .more _ _, .done => simp [Steps.same] at same
  | .more (.computed _) _, .more _ _ => simp [Steps.same] at same
  | .more (.name _) _, .more (.computed _) _ => simp [Steps.same] at same

/-- Whether two expressions are the same member of a value. -/
def Expr.same : Expr -> Expr -> Bool
  | .mk false (.variable path) .nil, .mk false (.variable path') .nil => path.same path'
  | _, _ => false

theorem Expr.eq_of_same
    {left right : Expr}
    (same : left.same right = true) :
    left = right := by
  unfold Expr.same at same
  split at same
  · rw [Steps.eq_of_same same]
  · cases same

mutual

/-- Whether two parts are the same text, member, choice or repetition. -/
def Node.same : Node -> Node -> Bool
  | .text content, .text content' => content == content'
  | .shown value, .shown value' => value.same value'
  | .choose condition body otherwise, .choose condition' body' otherwise' =>
      condition.same condition' && body.same body' && otherwise.same otherwise'
  | .repeat key item container body otherwise, .repeat key' item' container' body' otherwise' =>
      key == key' && item == item' && container.same container' && body.same body' &&
        otherwise.same otherwise'
  | _, _ => false

/-- Whether two sequences consist of the same plain parts. -/
def Nodes.same : Nodes -> Nodes -> Bool
  | .nil, .nil => true
  | .cons first rest, .cons first' rest' => first.same first' && rest.same rest'
  | _, _ => false

end

mutual

theorem Node.eq_of_same
    {left right : Node}
    (same : left.same right = true) :
    left = right := by
  unfold Node.same at same
  split at same
  · rw [eq_of_beq same]
  · rw [Expr.eq_of_same same]
  · simp only [Bool.and_eq_true] at same
    obtain ⟨⟨condition, body⟩, otherwise⟩ := same
    rw [Expr.eq_of_same condition, Nodes.eq_of_same body, Nodes.eq_of_same otherwise]
  · simp only [Bool.and_eq_true, beq_iff_eq] at same
    obtain ⟨⟨⟨⟨key, item⟩, container⟩, body⟩, otherwise⟩ := same
    rw [key, item, Expr.eq_of_same container, Nodes.eq_of_same body, Nodes.eq_of_same otherwise]
  · cases same

theorem Nodes.eq_of_same
    {left right : Nodes}
    (same : left.same right = true) :
    left = right := by
  unfold Nodes.same at same
  split at same
  · rfl
  · simp only [Bool.and_eq_true] at same
    rw [Node.eq_of_same same.1, Nodes.eq_of_same same.2]
  · cases same

end

end Template

namespace WiringTemplate

/-- What the standard template writes for each import. -/
def importParts : Nodes := .ofList [.text "\n\t\"", .shown (.member ["path"]), .text "\""]

/-- What the standard template writes for each import for its side effects. -/
def sideEffectParts : Nodes := .ofList [.text "\n\t_ \"", .shown (.member ["path"]), .text "\""]

/-- The text between the package clause and the imports. -/
def remarkText : String := "\n\n// Code generated by wiregen. DO NOT EDIT.\n\n"

/-- The text between the imports and the body of the function. -/
def initText : String := "\n\nfunc init() \x7b "

/-- The text of the body in front of the arguments of its call. -/
def registerText : String := "\n\ttypapp.AppendCtor"

/-- The text of a constructor in front of the quoted constructor name. -/
def nameText : String := "\n\t\t&typapp.Constructor\x7b\n\t\t\tName: "

/-- The text between the quoted constructor name and the type. -/
def functionText : String := ",\n\t\t\tFn: func() (*"

/-- The text between the two places of the type. -/
def variableText : String := ", error) \x7b\n\t\t\t\tvar cfg "

/-- The text between the type and the quoted prefix. -/
def processText : String := "\n\t\t\t\tif err := envconfig.Process("

/-- The text behind the quoted prefix. -/
def returnText : String :=
  ", &cfg); err != nil \x7b\n\t\t\t\t\treturn nil, err\n\t\t\t\t\x7d\n\t\t\t\treturn &cfg, nil\n\t\t\t\x7d,\n\t\t\x7d"

/-- What the standard template writes for each descriptor. -/
def constructorParts : Nodes :=
  .ofList [
    .text (nameText ++ "\""),
    .shown (.member ["cfg", "ctor_name"]),
    .text ("\"" ++ functionText),
    .shown (.member ["cfg", "spec_type"]),
    .text variableText,
    .shown (.member ["cfg", "spec_type"]),
    .text (processText ++ "\""),
    .shown (.member ["cfg", "prefix"]),
    .text ("\"" ++ (returnText ++ ","))]

/-- The parts of the standard template. -/
def standardParts : Nodes :=
  .ofList [
    .text "package ",
    .shown (.member ["package"]),
    .text (remarkText ++ "import ("),
    .repeat none "path" (.member ["imports"]) importParts .nil,
    .repeat none "path" (.member ["side_effects"]) sideEffectParts .nil,
    .text ("\n)" ++ initText),
    .choose (.member ["configs"])
      (.ofList [
        .text (registerText ++ "("),
        .repeat none "cfg" (.member ["configs"]) constructorParts .nil,
        .text "\n\t)"])
      .nil,
    .text "\n\x7d\n"]

/-- The characters of the standard template. -/
def standardChars : List Char := standardLines.flatMap fun line => line.toList ++ ['\n']

theorem toList_standardText : standardText.toList = standardChars := by
  rw [standardText, standardChars, String.toList_join, List.flatMap_map]
  simp

/-- Reading the characters of the standard template gives its parts. -/
theorem nodes?_standardChars :
    (match (Reading.skipComments standardChars.length standardChars).bind
        (Reading.nodes? (4 * standardChars.length + 8) .outermost false) with
      | some (nodes, .finish, _) => nodes.same standardParts
      | _ => false) = true := by
  decide +kernel

theorem parse_standardText : parse standardText = .ok ⟨standardParts⟩ := by
  have read := nodes?_standardChars
  have distinct : (allDistinct (standardParts.macros.map Macro.name) &&
      allDistinct (standardParts.blocks.map Prod.fst)) = true := by
    decide
  rw [parse, Template.parse, toList_standardText]
  split at read
  · next nodes rest found =>
      have nodesSame := Nodes.eq_of_same read
      subst nodesSame
      simp only [found, distinct, if_true]
  · cases read

end WiringTemplate
end ConfigWiring
