import ConfigWiring.Text.CaseMap

/-!
# Reading numbers

Integers are an optional sign and digits.  Decimals may have a point with digits on
at least one side of it and an exponent; the words for infinity and for no number
are read in any case.
-/

namespace ConfigWiring
namespace Decimal

/-- The value of decimal digits; nothing if there are none or another character
stands among them. -/
def readDigits? (text : List Char) : Option Nat :=
  if text.isEmpty || !text.all Char.isDigit then none
  else some (text.foldl (fun value char => value * 10 + (char.toNat - '0'.toNat)) 0)

/-- A natural number, perhaps behind a plus sign. -/
def readNat? : List Char -> Option Nat
  | '+' :: rest => readDigits? rest
  | text => readDigits? text

/-- An integer, perhaps behind a sign. -/
def readInt? : List Char -> Option Int
  | '-' :: rest => (readDigits? rest).map fun value => -(value : Int)
  | text => (readNat? text).map fun value => (value : Int)

/-- A decimal without its sign: its digits, and the power of ten of the last. -/
def readScientific? (text : List Char) : Option (Nat × Int) :=
  let isMark := fun char => char == 'e' || char == 'E'
  let coefficient := text.takeWhile (!isMark ·)
  let whole := coefficient.takeWhile (· != '.')
  let fraction := coefficient.drop (whole.length + 1)
  let exponent? : Option Int := match text.dropWhile (!isMark ·) with
    | [] => some 0
    | _ :: rest => readInt? rest
  match readDigits? (whole ++ fraction), exponent? with
  | some digits, some exponent => some (digits, exponent - fraction.length)
  | _, _ => none

/-- The text without its sign, and whether the sign is a minus. -/
def splitSign : List Char -> Bool × List Char
  | '-' :: rest => (true, rest)
  | '+' :: rest => (false, rest)
  | text => (false, text)

/-- A decimal as the nearest number of double precision. -/
def readFloat? (text : List Char) : Option Float :=
  let (negative, body) := splitSign text
  let value? : Option Float :=
    match String.ofList (body.map Char.toLower) with
    | "inf" | "infinity" => some (1.0 / 0.0)
    | "nan" => some (0.0 / 0.0)
    | _ => (readScientific? body).map fun (digits, exponent) =>
        Float.ofScientific digits (exponent < 0) exponent.natAbs
  value?.map fun value => if negative then -value else value

/-- A decimal as the nearest number of single precision. -/
def readSingle? (text : List Char) : Option Float :=
  let (negative, body) := splitSign text
  match readScientific? body with
  | some (digits, exponent) =>
      let value := (Float32.ofScientific digits (exponent < 0) exponent.natAbs).toFloat
      some (if negative then -value else value)
  | none => readFloat? text

end Decimal
end ConfigWiring
