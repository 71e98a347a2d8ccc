import ConfigWiring.Decimal.Reading
import ConfigWiring.Template.Basic
import ConfigWiring.Text.Split

/-!
# Words of template expressions

Marks, names, quoted texts, numbers and paths at the start of a text.  Each reading
gives what it has read and the text behind it.  Separators may stand in front of marks
and names, but not inside of a number or a path.
-/

namespace ConfigWiring
namespace Template
namespace Reading

open Text

/-- Whether a character separates the words of an expression. -/
def isSpace (char : Char) : Bool :=
  char == ' ' || char == '\t' || char == '\r' || char == '\n'

/-- The text without separators at its start. -/
def skip (text : List Char) : List Char := text.dropWhile isSpace

/-- The text behind a mark, which may stand behind separators. -/
def mark? (mark : String) (text : List Char) : Option (List Char) :=
  behind? mark.toList (skip text)

/-- Whether a name may begin with a character. -/
def isNameStart (char : Char) : Bool := char.isAlpha || char == '_'

/-- Whether a name may go on with a character. -/
def isNameChar (char : Char) : Bool := char.isAlphanum || char == '_'

/-- The name at the start of a text. -/
def name? (text : List Char) : Option (String × List Char) :=
  match skip text with
  | [] => none
  | first :: rest =>
      if isNameStart first then
        some (String.ofList (first :: rest.takeWhile isNameChar), rest.dropWhile isNameChar)
      else none

/-- A word with at least one separator behind it. -/
def spacedWord? (word : String) (text : List Char) : Option (List Char) :=
  match mark? word text with
  | some (char :: rest) => if isSpace char then some rest else none
  | _ => none

/-- The text between two equal quotes. -/
def quoted? (text : List Char) : Option (String × List Char) :=
  match text with
  | quote :: rest =>
      if quote = '"' || quote = '\'' || quote = Char.ofNat 96 then
        match rest.dropWhile (· != quote) with
        | _ :: after => some (String.ofList (rest.takeWhile (· != quote)), after)
        | [] => none
      else none
  | [] => none

/-- The digits of an integer at the start of a text: a zero, or digits that do not
begin with one. -/
def wholeDigits (text : List Char) : List Char :=
  match text with
  | '0' :: _ => ['0']
  | _ => text.takeWhile Char.isDigit

/-- The number at the start of a text. -/
def number? (text : List Char) : Option (Value × List Char) :=
  let (negative, body) := match text with
    | '-' :: rest => (true, rest)
    | _ => (false, text)
  let whole := wholeDigits body
  let rest := body.drop whole.length
  if whole.isEmpty then none
  else
    match rest with
    | '.' :: digit :: _ =>
        if digit.isDigit then
          let fraction := (rest.drop 1).takeWhile Char.isDigit
          let value := (Decimal.readFloat? (whole ++ '.' :: fraction)).getD 0.0
          some (.float (if negative then -value else value), rest.drop (fraction.length + 1))
        else some (integer negative whole, rest)
    | _ => some (integer negative whole, rest)
where
  /-- The value of the digits of an integer. -/
  integer (negative : Bool) (digits : List Char) : Value :=
    let value : Int := ((Decimal.readDigits? digits).getD 0 : Nat)
    .int (if negative then -value else value)

/-- The names behind points at the start of a text. -/
def dottedNames : Nat -> List Char -> List String × List Char
  | bound + 1, '.' :: rest =>
      let word := rest.takeWhile isNameChar
      if word.isEmpty then ([], '.' :: rest)
      else
        let (names, after) := dottedNames bound (rest.drop word.length)
        (String.ofList word :: names, after)
  | _, text => ([], text)

mutual

/-- The steps behind a variable: names behind points, and members in brackets. -/
def steps : Nat -> Steps -> List Char -> Steps × List Char
  | 0, path, text => (path, text)
  | bound + 1, path, text =>
      match dottedNames bound text with
      | ([], '[' :: rest) =>
          match bracketed? bound rest with
          | some (step, after) => steps bound (path.snoc step) after
          | none => (path, text)
      | ([], rest) => (path, rest)
      | (names, rest) =>
          steps bound (names.foldl (fun path name => path.snoc (.name name)) path) rest

/-- The member in brackets, up to the closing one. -/
def bracketed? : Nat -> List Char -> Option (Step × List Char)
  | 0, _ => none
  | bound + 1, text =>
      match member? bound text with
      | some (step, ']' :: after) => some (step, after)
      | _ => none

/-- What stands in brackets: a quoted name, a place, or a variable that holds one. -/
def member? : Nat -> List Char -> Option (Step × List Char)
  | 0, _ => none
  | bound + 1, text =>
      match quoted? text, number? text with
      | some (name, after), _ => some (.name name, after)
      | none, some (.int place, after) => some (.name (toString place), after)
      | none, some _ => none
      | none, none =>
          match text with
          | first :: _ =>
              if isNameStart first then
                (name? text).map fun (name, after) =>
                  let (path, rest) := steps bound (.more (.name name) .done) after
                  (.computed path, rest)
              else none
          | [] => none

end

/-- The variable at the start of a text. -/
def path? (bound : Nat) (text : List Char) : Option (Steps × List Char) :=
  (name? text).map fun (name, rest) => steps bound (.more (.name name) .done) rest

/-- The first of several readings that fits. -/
def firstOf {result : Type} : List (Unit -> Option result) -> Option result
  | [] => none
  | reading :: others =>
      match reading () with
      | some found => some found
      | none => firstOf others

/-- The operation between two numbers at the start of a text. -/
def mathOp? (text : List Char) : Option (MathOp × List Char) :=
  match skip text with
  | '+' :: rest => some (.plus, rest)
  | '-' :: rest => some (.minus, rest)
  | '*' :: rest => some (.times, rest)
  | '/' :: rest => some (.divide, rest)
  | '%' :: rest => some (.modulo, rest)
  | _ => none

/-- The comparison at the start of a text. -/
def compareOp? (text : List Char) : Option (CompareOp × List Char) :=
  match skip text with
  | '<' :: '=' :: rest => some (.atMost, rest)
  | '>' :: '=' :: rest => some (.atLeast, rest)
  | '>' :: rest => some (.greater, rest)
  | '<' :: rest => some (.less, rest)
  | '=' :: '=' :: rest => some (.equal, rest)
  | '!' :: '=' :: rest => some (.unequal, rest)
  | _ => none

/-- The word for true or false at the start of a text. -/
def truthWord? (text : List Char) : Option (Value × List Char) :=
  firstOf [
    fun _ => (mark? "true" text).map fun rest => (.bool true, rest),
    fun _ => (mark? "false" text).map fun rest => (.bool false, rest),
    fun _ => (mark? "True" text).map fun rest => (.bool true, rest),
    fun _ => (mark? "False" text).map fun rest => (.bool false, rest)]

/-- A literal at the start of a text: a truth value, a quoted text or a number. -/
def literal? (text : List Char) : Option (Value × List Char) :=
  firstOf [
    fun _ => truthWord? text,
    fun _ => (quoted? (skip text)).map fun (value, rest) => (.text value, rest),
    fun _ => number? (skip text)]

end Reading
end Template
end ConfigWiring
