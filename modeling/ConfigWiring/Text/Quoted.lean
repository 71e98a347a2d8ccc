import ConfigWiring.Text.Printable

/-!
# Quoted text

A quoted text stands between double quotes on one line.  A backslash introduces
the quote, the backslash itself and the common control characters; every other
character that would not show as itself is given by its number.
-/

namespace ConfigWiring
namespace Text

/-- The hexadecimal digits of a number, in lower case. -/
def hexDigits (number : Nat) : List Char := Nat.toDigits 16 number

/-- How one character is written between double quotes. -/
def quoteChar (char : Char) : List Char :=
  match char with
  | '"' => ['\\', '"']
  | '\\' => ['\\', '\\']
  | '\n' => ['\\', 'n']
  | '\r' => ['\\', 'r']
  | '\t' => ['\\', 't']
  | '\x00' => ['\\', '0']
  | _ =>
      if isPrintable char && !isExtending char then [char]
      else ['\\', 'u', '\x7b'] ++ hexDigits char.toNat ++ ['\x7d']

/-- A text between double quotes. -/
def quoted (text : String) : String :=
  String.ofList ('"' :: text.toList.flatMap quoteChar ++ ['"'])

/-- A character between single quotes. -/
def quotedChar (char : Char) : String :=
  let body := match char with
    | '\'' => ['\\', '\'']
    | '"' => ['"']
    | _ => quoteChar char
  String.ofList ('\'' :: body ++ ['\''])

end Text
end ConfigWiring
