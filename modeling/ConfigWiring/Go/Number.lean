/-!
# Number literals

How many characters at the start of a text make up a whole number, a number with a
fraction or an exponent, or an imaginary number.  Underscores stand between digits
only, except that one may follow the mark of a base.  Zero means that no such
literal begins there.
-/

namespace ConfigWiring
namespace Go
namespace Number

/-- Whether a character is a binary digit. -/
def isBinaryDigit (char : Char) : Bool := char == '0' || char == '1'

/-- Whether a character is an octal digit. -/
def isOctalDigit (char : Char) : Bool := '0' ≤ char && char ≤ '7'

/-- Whether a character is a hexadecimal digit. -/
def isHexDigit (char : Char) : Bool :=
  char.isDigit || ('a' ≤ char && char ≤ 'f') || ('A' ≤ char && char ≤ 'F')

/-- The number of characters with which a run of digits goes on: digits, each with
at most one underscore in front of it. -/
def furtherDigits (isDigit : Char -> Bool) : List Char -> Nat
  | [] => 0
  | [char] => if isDigit char then 1 else 0
  | first :: second :: rest =>
      if isDigit first then 1 + furtherDigits isDigit (second :: rest)
      else if first = '_' && isDigit second then 2 + furtherDigits isDigit rest
      else 0

/-- The length of a run of digits. -/
def digits (isDigit : Char -> Bool) : List Char -> Nat
  | [] => 0
  | char :: rest => if isDigit char then 1 + furtherDigits isDigit rest else 0

/-- The length of a run of digits in front of which an underscore may stand. -/
def looseDigits (isDigit : Char -> Bool) : List Char -> Nat
  | '_' :: rest => if digits isDigit rest = 0 then 0 else 1 + digits isDigit rest
  | text => digits isDigit text

/-- A length that counts on from some characters in front of it; zero stays zero. -/
def behind (front length : Nat) : Nat := if length = 0 then 0 else front + length

/-- The lengths of the whole numbers of each base at the start of a text. -/
def wholeLengths : List Char -> List Nat
  | '0' :: rest =>
      [1, behind 1 (looseDigits isOctalDigit rest)] ++
        match rest with
        | mark :: digits =>
            if mark = 'b' || mark = 'B' then [behind 2 (looseDigits isBinaryDigit digits)]
            else if mark = 'o' || mark = 'O' then [behind 2 (looseDigits isOctalDigit digits)]
            else if mark = 'x' || mark = 'X' then [behind 2 (looseDigits isHexDigit digits)]
            else []
        | [] => []
  | text => [digits Char.isDigit text]

/-- The length of an exponent that one of two marks begins. -/
def exponent (small large : Char) : List Char -> Nat
  | mark :: sign :: rest =>
      if mark = small || mark = large then
        if sign = '+' || sign = '-' then behind 2 (digits Char.isDigit rest)
        else behind 1 (digits Char.isDigit (sign :: rest))
      else 0
  | _ => 0

/-- The length of a decimal fraction or exponent, or of both. -/
def decimalFraction (text : List Char) : Nat :=
  let whole := digits Char.isDigit text
  let rest := text.drop whole
  match rest with
  | '.' :: behindPoint =>
      let fraction := digits Char.isDigit behindPoint
      if whole = 0 && fraction = 0 then 0
      else whole + 1 + fraction + exponent 'e' 'E' (behindPoint.drop fraction)
  | _ => if whole = 0 then 0 else behind whole (exponent 'e' 'E' rest)

/-- The length of a hexadecimal number with an exponent. -/
def hexFraction : List Char -> Nat
  | '0' :: mark :: text =>
      if mark = 'x' || mark = 'X' then
        let whole := looseDigits isHexDigit text
        let rest := text.drop whole
        match rest with
        | '.' :: behindPoint =>
            let fraction := digits isHexDigit behindPoint
            if whole = 0 && fraction = 0 then 0
            else
              behind (2 + whole + 1 + fraction) (exponent 'p' 'P' (behindPoint.drop fraction))
        | _ => if whole = 0 then 0 else behind (2 + whole) (exponent 'p' 'P' rest)
      else 0
  | _ => 0

/-- The greatest of some lengths. -/
def longest (lengths : List Nat) : Nat := lengths.foldl max 0

/-- The length of the whole number at the start of a text. -/
def whole (text : List Char) : Nat := longest (wholeLengths text)

/-- The length of the number with a fraction or an exponent at the start of a
text. -/
def fractional (text : List Char) : Nat := max (decimalFraction text) (hexFraction text)

/-- The length of the imaginary number at the start of a text. -/
def imaginary (text : List Char) : Nat :=
  longest
    ((digits Char.isDigit text :: decimalFraction text :: hexFraction text ::
        wholeLengths text).map fun length =>
      if length > 0 && (text.drop length).head? = some 'i' then length + 1 else 0)

/-- The length of the number of any kind at the start of a text. -/
def length (text : List Char) : Nat :=
  longest [whole text, fractional text, imaginary text]

end Number
end Go
end ConfigWiring
