import ConfigWiring.Config.Escape
import ConfigWiring.Config.Value
import ConfigWiring.Decimal.Reading
import ConfigWiring.Text.Split

/-!
# Plain values of TOML

Numbers, truth values and points in time stand without quotes.  Digits may be grouped by
underscores between them; an integer has 64 bits with a sign, and a positive number may
not be too large for a floating-point one.  A point in time is neither text nor number: it
is a table with a single field of a reserved name.
-/

namespace ConfigWiring
namespace Config
namespace Toml

open Text

/-- Digits grouped by underscores, without the underscores: none may stand at either end
or beside another. -/
def ungroup? (isDigit : Char -> Bool) (text : List Char) : Option (List Char) :=
  let groups := splitAll '_' text
  if groups.all fun group => !group.isEmpty && group.all isDigit then some groups.flatten
  else none

/-- The value of digits of a base. -/
def numberOf (base : Nat) (digits : List Char) : Nat :=
  digits.foldl (fun value digit => base * value + (hexDigit? digit).getD 0) 0

/-- Whether a number fits into 64 bits with a sign. -/
def fits (value : Int) : Bool := decide (-(Nat.pow 2 63 : Int) ≤ value) && decide (value < (Nat.pow 2 63 : Int))

/-- An integer of 64 bits. -/
def integer (value : Int) : Option Value := if fits value then some (.signed value) else none

/-- Whether digits have a zero in front that they do not need. -/
def hasIdleZero (digits : List Char) : Bool := digits.head? == some '0' && digits.length > 1

/-- A decimal integer without its sign. -/
def decimal? (text : List Char) : Option Nat :=
  match ungroup? Char.isDigit text with
  | some digits => if hasIdleZero digits then none else some (numberOf 10 digits)
  | none => none

/-- An integer. -/
def integer? (text : List Char) : Option Value :=
  match text with
  | '0' :: 'x' :: rest =>
      (ungroup? (fun char => (hexDigit? char).isSome) rest).bind fun digits =>
        integer (numberOf 16 digits)
  | '0' :: 'o' :: rest =>
      (ungroup? (fun char => '0' ≤ char && char ≤ '7') rest).bind fun digits =>
        integer (numberOf 8 digits)
  | '0' :: 'b' :: rest =>
      (ungroup? (fun char => char == '0' || char == '1') rest).bind fun digits =>
        integer (numberOf 2 digits)
  | '-' :: rest => (decimal? rest).bind fun value => integer (-(value : Int))
  | '+' :: rest => (decimal? rest).bind fun value => integer value
  | _ => (decimal? text).bind fun value => integer value

/-- The text without a sign in front. -/
def unsign (text : List Char) : List Char :=
  match text with
  | '-' :: rest | '+' :: rest => rest
  | _ => text

/-- Whether a text is a number with a fraction or an exponent. -/
def isFloat (text : List Char) : Bool :=
  let body := unsign text
  let isMark := fun char => char == 'e' || char == 'E'
  let coefficient := body.takeWhile (!isMark ·)
  let exponentGood := match body.dropWhile (!isMark ·) with
    | [] => coefficient.contains '.'
    | _ :: exponent => (ungroup? Char.isDigit (unsign exponent)).isSome
  let wholeGood := (decimal? (coefficient.takeWhile (· != '.'))).isSome
  let fractionGood := match coefficient.dropWhile (· != '.') with
    | [] => true
    | _ :: fraction => (ungroup? Char.isDigit fraction).isSome
  wholeGood && fractionGood && exponentGood

/-- A floating-point number. -/
def float? (text : List Char) : Option Value :=
  let value? := Decimal.readFloat? (text.filter (· != '_'))
  if unsign text = "inf".toList || unsign text = "nan".toList then value?.map .float
  else if isFloat text then
    match value? with
    | some value => if value.isInf && 0 < value then none else some (.float value)
    | none => none
  else none

/-- The number that exactly `count` digits spell, if it lies in a range. -/
def field? (count least most : Nat) (text : List Char) : Option Nat :=
  if text.length = count && text.all Char.isDigit then
    let value := numberOf 10 text
    if least ≤ value && value ≤ most then some value else none
  else none

/-- How many days a month of a year has. -/
def daysOf (year month : Nat) : Nat :=
  if month = 2 then
    if (year % 4 = 0 && year % 100 != 0) || year % 400 = 0 then 29 else 28
  else if [4, 6, 9, 11].contains month then 30 else 31

/-- Whether a text is a date. -/
def isDate (text : List Char) : Bool :=
  match splitAll '-' text with
  | [year, month, day] =>
      match field? 4 0 9999 year, field? 2 1 12 month with
      | some year, some month => (field? 2 1 (daysOf year month) day).isSome
      | _, _ => false
  | _ => false

/-- Whether a text is a time of day. -/
def isTime (text : List Char) : Bool :=
  match splitAll ':' text with
  | [hour, minute, second] =>
      let whole := second.takeWhile (· != '.')
      let fractionGood := match second.dropWhile (· != '.') with
        | [] => true
        | _ :: fraction => !fraction.isEmpty && fraction.all Char.isDigit
      (field? 2 0 23 hour).isSome && (field? 2 0 59 minute).isSome &&
        (field? 2 0 60 whole).isSome && fractionGood
  | _ => false

/-- Whether a text is the distance of a local time. -/
def isOffset (text : List Char) : Bool :=
  match text with
  | ['z'] | ['Z'] => true
  | sign :: rest =>
      (sign == '+' || sign == '-') &&
        match splitAll ':' rest with
        | [hour, minute] => (field? 2 0 23 hour).isSome && (field? 2 0 59 minute).isSome
        | _ => false
  | [] => false

/-- Whether a text is a time of day with the distance of the local time, if it has one. -/
def isZonedTime (text : List Char) : Bool :=
  let isZone := fun char => ['z', 'Z', '+', '-'].contains char
  let offset := text.dropWhile (!isZone ·)
  isTime (text.takeWhile (!isZone ·)) && (offset.isEmpty || isOffset offset)

/-- Whether a text is a date, a time of day, or both. -/
def isMoment (text : List Char) : Bool :=
  isDate text || isTime text ||
    (isDate (text.take 10) &&
      match text.drop 10 with
      | mark :: time => (mark == 'T' || mark == 't' || mark == ' ') && isZonedTime time
      | [] => false)

/-- The name of the only field of a point in time. -/
def momentKey : String := "$__toml_private_datetime"

/-- A point in time. -/
def moment (spelling : String) : Value := .table [(momentKey, .text spelling)]

/-- The value of a text without quotes. -/
def scalar? (text : List Char) : Option Value :=
  if text = "true".toList then some (.bool true)
  else if text = "false".toList then some (.bool false)
  else if isMoment text then some (moment (String.ofList text))
  else (integer? text).or (float? text)

end Toml
end Config
end ConfigWiring
