import ConfigWiring.Template.Value

/-!
# Values as JSON

A value is written as JSON without blanks, or with its items and fields on lines of
their own.  In a text the quote, the backslash and the control characters are escaped.
-/

namespace ConfigWiring
namespace Template
namespace Json

/-- A digit of a number in base sixteen. -/
def hexDigit (value : Nat) : Char := (Nat.digitChar (value % 16))

/-- A character inside of quotes. -/
def escaped (char : Char) : List Char :=
  match char with
  | '"' => ['\\', '"']
  | '\\' => ['\\', '\\']
  | '\n' => ['\\', 'n']
  | '\r' => ['\\', 'r']
  | '\t' => ['\\', 't']
  | '\x08' => ['\\', 'b']
  | '\x0c' => ['\\', 'f']
  | char =>
      if char.toNat < 0x20 then
        ['\\', 'u', '0', '0', hexDigit (char.toNat / 16), hexDigit char.toNat]
      else [char]

/-- A text in quotes. -/
def quoted (text : String) : String :=
  String.ofList ('"' :: text.toList.flatMap escaped ++ ['"'])

/-- A line break and the blanks at the start of a line. -/
def lineStart (depth : Nat) : String := String.ofList ('\n' :: List.replicate (2 * depth) ' ')

/-- Members between two brackets, on lines of their own if a depth is given. -/
def enclosed (opening closing : String) (depth? : Option Nat) (members : List String) :
    String :=
  match depth?, members with
  | _, [] => opening ++ closing
  | none, members => opening ++ ",".intercalate members ++ closing
  | some depth, members =>
      opening ++ lineStart (depth + 1) ++ ("," ++ lineStart (depth + 1)).intercalate members ++
        lineStart depth ++ closing

mutual

/-- A value as JSON, its members on lines of their own if a depth is given. -/
def write (depth? : Option Nat) : Value -> String
  | .null => "null"
  | .bool value => if value then "true" else "false"
  | .int value => toString value
  | .float value => Decimal.markedFrom (-5) value
  | .text value => quoted value
  | .list items => enclosed "[" "]" depth? (writeItems (depth?.map (· + 1)) items)
  | .record fields => enclosed "\x7b" "\x7d" depth? (writeFields (depth?.map (· + 1)) fields)

/-- The items of a list. -/
def writeItems (depth? : Option Nat) : List Value -> List String
  | [] => []
  | item :: items => write depth? item :: writeItems depth? items

/-- The fields of a record. -/
def writeFields (depth? : Option Nat) : List (String × Value) -> List String
  | [] => []
  | (name, value) :: fields =>
      (quoted name ++ (if depth?.isSome then ": " else ":") ++ write depth? value) ::
        writeFields depth? fields

end

/-- A value on one line without blanks. -/
def compact (value : Value) : String := write none value

/-- A value with its members on lines of their own. -/
def laidOut (value : Value) : String := write (some 0) value

end Json
end Template
end ConfigWiring
