import ConfigWiring.Text.Alphanumeric
import ConfigWiring.Text.Blank

/-!
# Values of env files

A value is written plainly, between single quotes, which keep everything as it is, or
between double quotes.  Outside of single quotes a backslash introduces one of a few
characters, and a dollar sign the name of a variable, which braces may enclose.
Reading a value gives its pieces; the names are looked up afterwards, so what they
stand for has no say in whether a value is well-formed.
-/

namespace ConfigWiring
namespace EnvFile

open Text

/-- A piece of a value. -/
inductive Piece where
  /-- A character that stands for itself. -/
  | char (char : Char)
  /-- A name that stands for its value. -/
  | variable (name : String)
  deriving DecidableEq, Repr

namespace Piece

/-- The text that a piece stands for. -/
def expand (valueOf : String -> String) : Piece -> List Char
  | .char value => [value]
  | .variable name => (valueOf name).toList

end Piece

/-- Where in a value a character is read. -/
inductive ValueState where
  /-- Outside of quotes. -/
  | plain
  /-- Between double quotes. -/
  | weak
  /-- Between single quotes. -/
  | strong
  /-- Behind a backslash, inside or outside of double quotes. -/
  | escape (quoted : Bool)
  /-- Behind a dollar sign and the letters of a name. -/
  | name (quoted : Bool) (letters : List Char)
  /-- Behind a dollar sign, an opening brace and the letters of a name. -/
  | braces (quoted : Bool) (letters : List Char)
  /-- Behind a blank that ends the value. -/
  | ended
  /-- Inside a comment. -/
  | comment
  deriving DecidableEq, Repr

namespace ValueState

/-- The state inside or outside of double quotes. -/
def base (quoted : Bool) : ValueState := if quoted then weak else plain

/-- The variable whose name has the given letters. -/
def variableOf (letters : List Char) : Piece := .variable (String.ofList letters)

/-- The character that a letter behind a backslash stands for. -/
def unescape? (char : Char) : Option Char :=
  match char with
  | '\\' | '\'' | '"' | '$' | ' ' => some char
  | 'n' => some '\n'
  | _ => none

/-- The state behind one more character, with the pieces that the character
completes, unless the character cannot stand there. -/
def next? : ValueState -> Char -> Option (ValueState × List Piece)
  | plain, char =>
      match char with
      | '$' => some (name false [], [])
      | '\'' => some (strong, [])
      | '"' => some (weak, [])
      | '\\' => some (escape false, [])
      | ' ' | '\t' => some (ended, [])
      | _ => some (plain, [.char char])
  | weak, char =>
      match char with
      | '$' => some (name true [], [])
      | '"' => some (plain, [])
      | '\\' => some (escape true, [])
      | _ => some (weak, [.char char])
  | strong, char => if char = '\'' then some (plain, []) else some (strong, [.char char])
  | escape quoted, char => (unescape? char).map fun meant => (base quoted, [.char meant])
  | name quoted letters, char =>
      if isAlphanumeric char then some (name quoted (letters ++ [char]), [])
      else if char = '\x7b' && letters.isEmpty then some (braces quoted [], [])
      else if char = '$' then some (name quoted [], [variableOf letters])
      else some (base quoted, [variableOf letters, .char char])
  | braces quoted letters, char =>
      if char = '\x7d' then some (base quoted, [variableOf letters])
      else some (braces quoted (letters ++ [char]), [])
  | ended, char =>
      match char with
      | ' ' | '\t' => some (ended, [])
      | '#' => some (comment, [])
      | _ => none
  | comment, _ => some (comment, [])

/-- The pieces that the end of the value completes, unless something is open. -/
def finish? : ValueState -> Option (List Piece)
  | plain | escape false | ended | comment => some []
  | name false letters => some [variableOf letters]
  | weak | strong | escape true | name true _ | braces _ _ => none

/-- The pieces of a text that is read from a state on. -/
def run? : ValueState -> List Char -> Option (List Piece)
  | state, [] => state.finish?
  | state, char :: rest => do
      let (behind, pieces) ← state.next? char
      return pieces ++ (← behind.run? rest)

end ValueState

/-- The pieces of a value. -/
def readValue? (text : List Char) : Option (List Piece) := ValueState.plain.run? text

/-- The text that pieces stand for. -/
def expandAll (valueOf : String -> String) (pieces : List Piece) : String :=
  String.ofList (pieces.flatMap (Piece.expand valueOf))

/-- Whether a value has to be quoted to be read back. -/
def needsQuotes (value : List Char) : Bool :=
  value.any isBlank || value.any (['#', '"', '\'', '\\', '$'].contains ·)

/-- A character between double quotes. -/
def escapeChar (char : Char) : List Char :=
  match char with
  | '"' => ['\\', '"']
  | '\\' => ['\\', '\\']
  | '\n' => ['\\', 'n']
  | '$' => ['\\', '$']
  | _ => [char]

/-- A value as it is written behind the equals sign. -/
def writeValue (value : List Char) : List Char :=
  if needsQuotes value then '"' :: value.flatMap escapeChar ++ ['"'] else value

end EnvFile
end ConfigWiring
