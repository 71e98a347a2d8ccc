import ConfigWiring.Config.Reading
import ConfigWiring.Decimal.Reading
import ConfigWiring.Text.Blank

/-!
# Reading typed values from plain text

Variables of a process are plain texts, so a reader for them takes a text for a truth value
or a number where the field wants one.  A text with a point is a floating-point number, one
that begins with a minus sign an integer with a sign, and any other an integer without one;
a text that spells none of these stays a text.
-/

namespace ConfigWiring
namespace Config
namespace Lossy

open Text

/-- The words for the truth. -/
def trueWords : List String := ["true", "yes", "1", "on"]

/-- The words for the untruth. -/
def falseWords : List String := ["false", "no", "0", "off"]

/-- The truth value that a text spells, in any case. -/
def flag? (text : String) : Option Bool :=
  let word := String.ofList (text.toList.map Char.toLower)
  if trueWords.contains word then some true
  else if falseWords.contains word then some false
  else none

/-- Read a truth value. -/
def flag : Reader Bool := fun value =>
  match value with
  | .text text =>
      match flag? text with
      | some truth => .ok truth
      | none => Reader.mistyped value "a boolean"
  | _ => Reader.flag value

/-- A number that a text spells. -/
inductive Number where
  | unsigned (value : Nat)
  | signed (value : Int)
  | float (value : Float)

/-- The longest text, in bytes, of a floating-point number of single precision. -/
def singleLength : Nat := 7

/-- The number that a text spells, with blanks around it or not. -/
def number? (text : String) : Option Number :=
  let digits := trim text.toList
  if digits.contains '.' then
    let value? :=
      if (String.ofList digits).utf8ByteSize ≤ singleLength then Decimal.readSingle? digits
      else Decimal.readFloat? digits
    value?.map .float
  else if digits.head? = some '-' then
    match Decimal.readInt? digits with
    | some value => if -(Nat.pow 2 127 : Int) ≤ value then some (.signed value) else none
    | none => none
  else
    match Decimal.readNat? digits with
    | some value => if value < Nat.pow 2 128 then some (.unsigned value) else none
    | none => none

namespace Number

/-- How an error names a number; one that needs more than 64 bits is named with them. -/
def found : Number -> Found
  | unsigned value => if value < Nat.pow 2 64 then .unsigned value else .wide value "u128"
  | signed value => if -(Nat.pow 2 63 : Int) ≤ value then .signed value else .wide value "i128"
  | float value => .float (Decimal.plain value)

/-- The number as an integer of 64 bits, if it is one. -/
def integer? : Number -> Option Int
  | unsigned value => if value < Nat.pow 2 64 then some value else none
  | signed value => if -(Nat.pow 2 63 : Int) ≤ value then some value else none
  | float _ => none

end Number

/-- Read an integer within bounds. -/
def integer (expected : String) (least most : Int) : Reader Int := fun value =>
  match value with
  | .text text =>
      match number? text with
      | none => Reader.mistyped value expected
      | some number =>
          match number.integer? with
          | none => .error ⟨[], .invalidType number.found expected⟩
          | some integer =>
              if least ≤ integer && integer ≤ most then .ok integer
              else .error ⟨[], .invalidValue number.found expected⟩
  | _ => Reader.mistyped value expected

/-- Read an integer of some bits without a sign. -/
def unsigned (bits : Nat) : Reader Int :=
  integer ("u" ++ toString bits) 0 ((Nat.pow 2 bits : Int) - 1)

/-- Read an integer of some bits with a sign. -/
def signed (bits : Nat) : Reader Int :=
  integer ("i" ++ toString bits) (-(Nat.pow 2 (bits - 1) : Int)) ((Nat.pow 2 (bits - 1) : Int) - 1)

/-- The floating-point number nearest to an integer. -/
def nearest (integer : Int) : Float :=
  let size := Float.ofScientific integer.natAbs false 0
  if integer < 0 then -size else size

/-- Read a floating-point number of double precision. -/
def float : Reader Float := fun value =>
  match value with
  | .text text =>
      match number? text with
      | none => Reader.mistyped value "f64"
      | some (.float number) => .ok number
      | some number =>
          match number.integer? with
          | some integer => .ok (nearest integer)
          | none => .error ⟨[], .invalidType number.found "f64"⟩
  | _ => Reader.mistyped value "f64"

end Lossy
end Config
end ConfigWiring
