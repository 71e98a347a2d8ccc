import ConfigWiring.Shell.Calculation
import ConfigWiring.Shell.State
import ConfigWiring.Shell.Wildcard

/-!
# Filling in words

Filling in a word gives characters, quoted or not.  A value that is not quoted falls
into fields at blanks, and a field with wildcards stands for the files that fit it, if
there are any.
-/

namespace ConfigWiring
namespace Shell

/-- A piece of a word that is filled in. -/
inductive Piece where
  | letter (char : Char) (quoted : Bool)
  /-- A quotation, which makes a field even if it is empty. -/
  | quotation
  /-- The end of a field. -/
  | gap
  deriving DecidableEq, Repr

namespace Piece

/-- The pieces of a text that is not divided. -/
def ofText (quoted : Bool) (text : String) : List Piece :=
  text.toList.map fun char => .letter char quoted

/-- The pieces of a text that falls into fields at some separators; a separator that is
no blank makes a field in front of it even if that is empty. -/
def divide (separators : List Char) (text : String) : List Piece :=
  text.toList.flatMap fun char =>
    if !separators.contains char then [.letter char false]
    else if isGap char || char = '\n' then [.gap]
    else [.quotation, .gap]

/-- The pieces with the separators among the unquoted characters as the ends of
fields. -/
def divideAgain (separators : List Char) (pieces : List Piece) : List Piece :=
  pieces.flatMap fun piece =>
    match piece with
    | .letter char false => divide separators (String.singleton char)
    | other => [other]

/-- The fields of some pieces, given the field that has begun. -/
def fieldsFrom : Option (List MarkedChar) -> List Piece -> List (List MarkedChar)
  | begun, [] => begun.toList
  | begun, .letter char quoted :: pieces =>
      fieldsFrom (some (begun.getD [] ++ [(char, quoted)])) pieces
  | begun, .quotation :: pieces => fieldsFrom (some (begun.getD [])) pieces
  | begun, .gap :: pieces => begun.toList ++ fieldsFrom none pieces

/-- The fields of some pieces. -/
def fields (pieces : List Piece) : List (List MarkedChar) := fieldsFrom none pieces

/-- The characters of some pieces; the end of a field is a blank. -/
def marked (pieces : List Piece) : List MarkedChar :=
  pieces.filterMap fun piece =>
    match piece with
    | .letter char quoted => some (char, quoted)
    | .quotation => none
    | .gap => some (' ', false)

/-- The text of some pieces. -/
def text (pieces : List Piece) : String := String.ofList ((marked pieces).map (·.1))

end Piece

namespace Action

/-! ## Values -/

/-- The characters at which values fall into fields. -/
def separators : Action (List Char) :=
  return ((← valueOf? "IFS").getD " \t\n").toList

/-- The value of a parameter that is no list, if it has one. -/
def value? (name : String) : Action (Option String) := do
  let state ← get
  match name with
  | "#" => return some (toString state.arguments.length)
  | "?" => return some (toString state.status)
  | "$" => return some (toString state.process)
  | "-" => return some (String.ofList state.options)
  | "!" => return none
  | "0" => return some state.name
  | "@" | "*" =>
      return if state.arguments.isEmpty then none else some (" ".intercalate state.arguments)
  | _ =>
      match name.toNat? with
      | some position => return state.arguments[position - 1]?
      | none => return state.values.get? name

/-- The pieces of a value. -/
def piecesOf (divided quoted : Bool) (value : String) : Action (List Piece) := do
  if quoted then return Piece.ofText true value
  if divided then return Piece.divide (← separators) value
  return Piece.ofText false value

/-- The pieces of all arguments, each a field of its own. -/
def piecesOfArguments (divided quoted : Bool) : List String -> Action (List Piece)
  | [] => return []
  | [value] => do
      let mark := if quoted then [Piece.quotation] else []
      return mark ++ (← piecesOf divided quoted value)
  | value :: values => do
      let mark := if quoted then [Piece.quotation] else []
      let first ← piecesOf divided quoted value
      return mark ++ first ++ .gap :: (← piecesOfArguments divided quoted values)

/-- The pieces of the value of a parameter. -/
def piecesOfParameter (divided quoted : Bool) (name : String) (value : String) :
    Action (List Piece) := do
  let arguments := (← get).arguments
  if name = "@" then piecesOfArguments divided quoted arguments
  else if name = "*" && !quoted then piecesOfArguments divided false arguments
  else if name = "*" then
    let joint := ((← separators).head?.map String.singleton).getD ""
    return Piece.ofText true (joint.intercalate arguments)
  else piecesOf divided quoted value

/-- Nothing, where a value is missing; that is a mistake if it has been declared
one. -/
def missing (name : String) : Action (List Piece) := do
  if (← get).options.contains 'u' && !(["@", "*"].contains name) then abort
  return []

/-! ## Words -/

/-- The pieces of a word that stands for a value. -/
def instead (divided quoted : Bool) (word : Action (List Piece)) : Action (List Piece) := do
  let pieces ← word
  if divided && !quoted then return Piece.divideAgain (← separators) pieces
  return pieces

mutual

/-- Fill in a word, given what runs the scripts inside it.  The flag tells whether
values fall into fields. -/
def fill (run : List Char -> Action String) (divided : Bool) :
    List WordPart -> Action (List Piece)
  | [] => return []
  | part :: parts => do
      let first ← fillPart run divided part
      return first ++ (← fill run divided parts)

/-- Fill in a part of a word. -/
def fillPart (run : List Char -> Action String) (divided : Bool) :
    WordPart -> Action (List Piece)
  | .char char quoted => return [.letter char quoted]
  | .quotation => return [.quotation]
  | .output script quoted => do piecesOf divided quoted (← run script)
  | .result expression quoted => do
      let text := Piece.text (← fill run false expression)
      match Calculation.result? (← get).values text.toList with
      | some (number, values) =>
          modify fun state => { state with values }
          piecesOf divided quoted (toString number)
      | none => abort
  | .parameter name quoted use word => do
      let found ← value? name
      let value := found.getD ""
      let isMissing (emptyIsNone : Bool) : Bool := found.isNone || (emptyIsNone && value.isEmpty)
      match use with
      | .value =>
          if found.isNone then missing name else piecesOfParameter divided quoted name value
      | .length => return Piece.ofText quoted (toString value.length)
      | .orElse emptyIsNone =>
          if isMissing emptyIsNone then instead divided quoted (fill run divided word)
          else piecesOfParameter divided quoted name value
      | .orAssign emptyIsNone =>
          if isMissing emptyIsNone then
            if !isName name.toList then abort
            let text := Piece.text (← fill run false word)
            assign name text
            piecesOf divided quoted text
          else piecesOfParameter divided quoted name value
      | .orFail emptyIsNone =>
          if isMissing emptyIsNone then abort
          else piecesOfParameter divided quoted name value
      | .ifPresent emptyIsNone =>
          if isMissing emptyIsNone then return []
          else instead divided quoted (fill run divided word)
      | .withoutStart longest =>
          let pattern := Wildcard.ofMarked (Piece.marked (← fill run false word))
          piecesOf divided quoted
            (String.ofList (Wildcard.withoutStart longest pattern value.toList))
      | .withoutEnd longest =>
          let pattern := Wildcard.ofMarked (Piece.marked (← fill run false word))
          piecesOf divided quoted (String.ofList (Wildcard.withoutEnd longest pattern value.toList))

end

/-! ## Files that fit -/

/-- Whether a field has wildcards. -/
def hasWildcard (field : List MarkedChar) : Bool :=
  field.any fun (char, quoted) => !quoted && "*?[".toList.contains char

/-- The names in the directory that a text leads to, in order. -/
def namesIn (host : Host) (front : String) : List String :=
  let path : Path := ⟨if front.isEmpty then "." else front⟩
  match host.files.resolve host.place path with
  | .ok (_, node) => (node.entries.toList.map (·.1)).mergeSort (· ≤ ·)
  | .error _ => []

/-- The paths that begin with a text and go on as the pieces between slashes say. -/
def pathsFrom (host : Host) : String -> List (List MarkedChar) -> List String
  | front, [] => [front]
  | front, piece :: pieces =>
      let mark := if pieces.isEmpty then "" else "/"
      let spelling := String.ofList (piece.map (·.1))
      if !hasWildcard piece then pathsFrom host (front ++ spelling ++ mark) pieces
      else
        let pattern := Wildcard.ofMarked piece
        let fitting := (namesIn host front).filter fun name =>
          (name.toList.head? != some '.' || (piece.head?.map (·.1)) == some '.') &&
            Wildcard.fits pattern name.toList
        fitting.flatMap fun name => pathsFrom host (front ++ name ++ mark) pieces

/-- The pieces of a field between its slashes. -/
def betweenSlashes (field : List MarkedChar) : List (List MarkedChar) :=
  field.foldr
    (fun char pieces =>
      match pieces with
      | [] => [[char]]
      | piece :: rest => if char.1 = '/' then [] :: piece :: rest else (char :: piece) :: rest)
    [[]]

/-- What a field stands for. -/
def expandField (field : List MarkedChar) : Action (List String) := do
  let spelling := String.ofList (field.map (·.1))
  let state ← get
  if !hasWildcard field || state.options.contains 'f' then return [spelling]
  let host := state.host
  let exists? (path : String) : Bool :=
    match host.files.resolve host.place ⟨path⟩ with
    | .ok _ => true
    | .error _ => false
  match (pathsFrom host "" (betweenSlashes field)).filter exists? with
  | [] => return [spelling]
  | found => return found

/-- What some fields stand for. -/
def expandFields : List (List MarkedChar) -> Action (List String)
  | [] => return []
  | field :: fields => do
      let first ← expandField field
      return first ++ (← expandFields fields)

/-- The fields of a word. -/
def fieldsOf (run : List Char -> Action String) (word : Word) : Action (List String) := do
  expandFields (Piece.fields (← fill run true word))

/-- The fields of some words. -/
def fieldsOfAll (run : List Char -> Action String) : List Word -> Action (List String)
  | [] => return []
  | word :: words => do
      let first ← fieldsOf run word
      return first ++ (← fieldsOfAll run words)

/-- The text of a word that is not divided. -/
def textOf (run : List Char -> Action String) (word : Word) : Action String :=
  return Piece.text (← fill run false word)

/-- The pattern that a word spells. -/
def patternOf (run : List Char -> Action String) (word : Word) : Action (List Wildcard) :=
  return Wildcard.ofMarked (Piece.marked (← fill run false word))

end Action
end Shell
end ConfigWiring
