import ConfigWiring.Config.Reading
import ConfigWiring.Container.Basic
import ConfigWiring.Text.CaseMap

/-!
# Constructors that read variables

A typed configuration is made from the variables of the process whose names begin with a
prefix and an underscore, in whatever case; the rest of a name, in lower case, is the key
of a field.
-/

namespace ConfigWiring
namespace Constructor

open Text Config

variable {value : Type}

/-- What the names of the variables with a prefix begin with. -/
def namespaceOf (namePrefix : String) : String := upperText namePrefix ++ "_"

/-- The text behind a leading part that takes up as many bytes as a given one and is equal
to it but for the case of ASCII letters. -/
def behindIgnoringCase? (leading text : String) : Option String :=
  let size := leading.utf8ByteSize
  let rec cut : List Char -> Nat -> List Char -> Option (List Char × List Char)
    | front, 0, rest => some (front.reverse, rest)
    | _, _ + 1, [] => none
    | front, room, char :: rest =>
        if char.utf8Size ≤ room then cut (char :: front) (room - char.utf8Size) rest else none
  match cut [] size text.toList with
  | some (front, rest) =>
      if front.map Char.toLower = leading.toList.map Char.toLower then some (String.ofList rest)
      else none
  | none => none

/-- The field that a variable fills, if it is one of a prefix. -/
def fieldKey? (namePrefix name : String) : Option String :=
  match behindIgnoringCase? (namespaceOf namePrefix) name with
  | some rest => if rest.isEmpty then none else some (lowerText rest)
  | none => none

/-- The fields that the variables of a prefix fill; of two variables for a field the later
counts. -/
def prefixedVariables (namePrefix : String) (environment : Environment) : Table :=
  environment.pairs.foldl (fun table (name, value) =>
      match fieldKey? namePrefix name with
      | some key => putField key (.text value) table
      | none => table)
    []

/-- The constructor that reads a value from the variables of a prefix. -/
def ofVariables (key : Key) (namePrefix : String) (reader : Reader value) :
    Constructor value where
  key := key
  factory := .look fun host =>
    match reader (.table (prefixedVariables namePrefix host.environment)) with
    | .ok read => .done read
    | .error error => .fail (.config error)

end Constructor
end ConfigWiring
