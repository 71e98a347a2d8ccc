/-!
# Escapes in configuration texts

Between double quotes a backslash introduces a control character, the quote, the
backslash itself or a character given by its number.
-/

namespace ConfigWiring
namespace Config

/-- The value of a hexadecimal digit. -/
def hexDigit? (char : Char) : Option Nat :=
  if char.isDigit then some (char.toNat - '0'.toNat)
  else if 'a' ≤ char ∧ char ≤ 'f' then some (char.toNat - 'a'.toNat + 10)
  else if 'A' ≤ char ∧ char ≤ 'F' then some (char.toNat - 'A'.toNat + 10)
  else none

/-- The value of hexadecimal digits. -/
def hexValue? (digits : List Char) : Option Nat :=
  digits.foldl
    (fun value? digit => value?.bind fun value => (hexDigit? digit).map (16 * value + ·))
    (some 0)

/-- The character of a number, if there is one. -/
def charOf? (number : Nat) : Option Char :=
  if number.isValidChar then some (Char.ofNat number) else none

/-- The character that a letter behind a backslash stands for. -/
def simpleEscape? (letter : Char) : Option Char :=
  match letter with
  | 'b' => some '\x08'
  | 't' => some '\t'
  | 'n' => some '\n'
  | 'f' => some '\x0c'
  | 'r' => some '\r'
  | '"' => some '"'
  | '\\' => some '\\'
  | _ => none

/-- How many digits follow a letter that introduces a number. -/
def numberLength? (letter : Char) : Option Nat :=
  match letter with
  | 'u' => some 4
  | 'U' => some 8
  | _ => none

/-- The character that a text behind a backslash begins with, and how many characters
spell it. -/
def readEscape? : List Char -> Option (Char × Nat)
  | [] => none
  | letter :: rest =>
      match numberLength? letter with
      | some length =>
          if (rest.take length).length < length then none
          else ((hexValue? (rest.take length)).bind charOf?).map fun char => (char, length + 1)
      | none => (simpleEscape? letter).map fun char => (char, 1)

/-- Whether a character may stand in a text as itself. -/
def isTextChar (char : Char) : Bool := char == '\t' || (' ' ≤ char && char != '\x7f')

end Config
end ConfigWiring
