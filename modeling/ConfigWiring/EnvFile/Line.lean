import ConfigWiring.EnvFile.LogicalLine
import ConfigWiring.EnvFile.Value
import ConfigWiring.Text.Split

/-!
# Lines that give a name a value

A logical line gives a name a value: the name, an equals sign and the value, with
blanks around each.  The word `export` may stand in front of the name, and is a name
itself when an equals sign follows it.  A line of blanks and a comment say nothing.
-/

namespace ConfigWiring
namespace EnvFile

open Text

/-- What a logical line says. -/
inductive Line where
  /-- Nothing. -/
  | idle
  /-- That a name has a value made of the given pieces. -/
  | assignment (name : String) (pieces : List Piece)
  deriving DecidableEq, Repr

/-- Whether a character may begin a name. -/
def isNameStart (char : Char) : Bool := char.isAlpha || char == '_'

/-- Whether a character may stand in a name. -/
def isNameChar (char : Char) : Bool := char.isAlphanum || char == '_' || char == '.'

/-- The name at the start of a text, with what is behind it. -/
def readName? (text : List Char) : Option (List Char × List Char) :=
  if text.head?.any isNameStart then
    some (text.takeWhile isNameChar, text.dropWhile isNameChar)
  else none

/-- What is behind an equals sign that may have blanks in front. -/
def behindEquals? (text : List Char) : Option (List Char) := behind? ['='] (trimStart text)

/-- The name that a text begins with and gives a value, with what is behind the
equals sign. -/
def readTarget? (text : List Char) : Option (List Char × List Char) := do
  let (name, rest) ← readName? text
  return (name, ← behindEquals? rest)

/-- The name that a line gives a value, with what is behind the equals sign: a leading
`export` counts as the name only if an equals sign follows it. -/
def readHead? (text : List Char) : Option (List Char × List Char) :=
  match readTarget? text, readName? text with
  | some head, _ => some head
  | none, some (name, rest) =>
      if name = "export".toList then readTarget? (trimStart rest) else none
  | none, none => none

/-- Whether nothing is left but a comment. -/
def saysNothing (text : List Char) : Bool := text.isEmpty || text.head? == some '#'

namespace Line

/-- Read a logical line. -/
def read? (text : List Char) : Option Line :=
  let text := trimStart (trimEnd text)
  if saysNothing text then some idle
  else do
    let (name, rest) ← readHead? text
    let value := trimStart rest
    if saysNothing value then some (assignment (String.ofList name) [])
    else return assignment (String.ofList name) (← readValue? value)

/-- The line that gives a name a value. -/
def write (name value : String) : String :=
  name ++ "=" ++ String.ofList (writeValue value.toList) ++ "\n"

end Line

/-- What the logical lines of a text say; a malformed one is `none`. -/
def readLines (text : String) : List (Option Line) :=
  (logicalLines text.toList).map (·.bind Line.read?)

end EnvFile
end ConfigWiring
