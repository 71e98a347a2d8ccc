import ConfigWiring.Text.Quoted

/-!
# Errors of typed configuration

Configuration values are read into typed fields.  An error says what was found,
what the field expects, and under which key.
-/

namespace ConfigWiring
namespace Config

/-- What stood in place of the expected value. -/
inductive Found where
  | bool (value : Bool)
  | unsigned (value : Nat)
  | signed (value : Int)
  /-- A floating-point number, by its shortest text. -/
  | float (digits : String)
  | char (value : Char)
  | text (value : String)
  | list
  | table
  /-- An integer beyond 64 bits, with the type that still holds it. -/
  | wide (value : Int) (width : String)
  deriving DecidableEq, Repr

namespace Found

/-- How an error names what was found. -/
def describe : Found -> String
  | bool value => "bool " ++ (if value then "true" else "false")
  | unsigned value => "unsigned int `" ++ toString value ++ "`"
  | signed value => "signed int `" ++ toString value ++ "`"
  | float digits => "float `" ++ digits ++ "`"
  | char value => "char " ++ Text.quotedChar value
  | text value => "string " ++ Text.quoted value
  | list => "sequence"
  | table => "map"
  | wide value width => "integer `" ++ toString value ++ "` as " ++ width

end Found

/-- Why a configuration is refused. -/
inductive Cause where
  /-- A file that is not well-formed. -/
  | malformed
  /-- A field that nothing gives and that has no default. -/
  | missingField (name : String)
  /-- A value of the wrong type. -/
  | invalidType (found : Found) (expected : String)
  /-- A number outside the range of its field. -/
  | invalidValue (found : Found) (expected : String)
  /-- A word that is none of the allowed ones. -/
  | unknownVariant (found : String) (allowed : List String)
  deriving DecidableEq, Repr

namespace Cause

/-- The allowed words as a phrase. -/
def oneOf : List String -> String
  | [] => "nothing"
  | [only] => "`" ++ only ++ "`"
  | [first, second] => "`" ++ first ++ "` or `" ++ second ++ "`"
  | words => "one of " ++ String.intercalate ", " (words.map fun word => "`" ++ word ++ "`")

/-- The wording of a cause. -/
def message : Cause -> String
  | malformed => "malformed configuration file"
  | missingField name => "missing field `" ++ name ++ "`"
  | invalidType found expected =>
      "invalid type: found " ++ found.describe ++ ", expected " ++ expected
  | invalidValue found expected =>
      "invalid value " ++ found.describe ++ ", expected " ++ expected
  | unknownVariant found allowed =>
      "unknown variant: found `" ++ found ++ "`, expected `" ++ oneOf allowed ++ "`"

end Cause

/-- A cause with the place where it arose. -/
structure Error where
  /-- The keys that lead to the refused value. -/
  key : List String
  cause : Cause
  deriving DecidableEq, Repr

namespace Error

/-- The key with a point between its parts. -/
def keyText (error : Error) : String := String.intercalate "." error.key

/-- The wording of an error. -/
def message (error : Error) : String :=
  if error.key.isEmpty then error.cause.message
  else error.cause.message ++ " for key \"" ++ error.keyText ++ "\""

end Error
end Config
end ConfigWiring
