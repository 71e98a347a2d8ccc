/-!
# Floating-point numbers

## Shortest decimals

A finite floating-point number is `mantissa * 2 ^ exponent`.  The decimals that
read back as it fill an interval around it; the shortest of them, and of those the
nearest to the number, is its decimal.  All comparisons are between natural
numbers, so nothing is rounded on the way.
-/

namespace ConfigWiring
namespace Decimal

/-- A positive binary number `mantissa * 2 ^ exponent`.  The lower neighbour is
nearer than the upper one where the mantissa is the least of its scale. -/
structure Binary where
  mantissa : Nat
  exponent : Int
  narrowBelow : Bool
  deriving DecidableEq, Repr

/-- A decimal number `digits * 10 ^ exponent`. -/
structure Digits where
  digits : Nat
  exponent : Int
  deriving DecidableEq, Repr

namespace Binary

/-- The number of quarter units of the last place: numerator and denominator of
`quarters * 2 ^ exponent / 10 ^ scale`. -/
def quotient (number : Binary) (quarters : Nat) (scale : Int) : Nat × Nat :=
  (quarters * Nat.pow 2 number.exponent.toNat * Nat.pow 10 (-scale).toNat,
    4 * Nat.pow 2 (-number.exponent).toNat * Nat.pow 10 scale.toNat)

/-- Whether `digits * 10 ^ scale` reads back as the number.  The ends of the
interval belong to it if the mantissa is even. -/
def readsBack (number : Binary) (digits : Nat) (scale : Int) : Bool :=
  let low := 4 * number.mantissa - (if number.narrowBelow then 1 else 2)
  let high := 4 * number.mantissa + 2
  let (lowNumerator, denominator) := number.quotient low scale
  let (highNumerator, _) := number.quotient high scale
  let scaled := digits * denominator
  if number.mantissa % 2 = 0 then lowNumerator ≤ scaled && scaled ≤ highNumerator
  else lowNumerator < scaled && scaled < highNumerator

/-- The exponent of the leading decimal digit. -/
def leadingExponent (number : Binary) : Int :=
  let (numerator, denominator) := number.quotient (4 * number.mantissa) 0
  if denominator ≤ numerator then
    (Nat.toDigits 10 (numerator / denominator)).length - 1
  else
    match (List.range 400).find? fun shift => denominator ≤ numerator * Nat.pow 10 shift with
    | some shift => -(shift : Int)
    | none => 0

/-- The decimal with the given number of digits that reads back as the number, the
nearer one if two do and the greater one if both are as near. -/
def withLength? (number : Binary) (length : Nat) : Option Digits :=
  let scale := number.leadingExponent - length + 1
  let (numerator, denominator) := number.quotient (4 * number.mantissa) scale
  let below := numerator / denominator
  let rest := numerator % denominator
  let nearer := if 2 * rest < denominator then below else below + 1
  let other := if nearer = below then below + 1 else below
  if number.readsBack nearer scale then some ⟨nearer, scale⟩
  else if number.readsBack other scale then some ⟨other, scale⟩
  else none

/-- The shortest decimal that reads back as the number; seventeen digits always
do. -/
def shortest (number : Binary) : Digits :=
  ((List.range 18).findSome? fun length => number.withLength? (length + 1)).getD ⟨0, 0⟩

end Binary

/-- The parts of a floating-point number: whether it is negative, and its value. -/
inductive Parts where
  | zero
  | finite (number : Binary)
  | infinite
  | notANumber
  deriving DecidableEq, Repr

/-- Whether a floating-point number carries a minus sign. -/
def isNegative (value : Float) : Bool := value.toBits.toNat / Nat.pow 2 63 = 1

/-- Take a floating-point number apart. -/
def partsOf (value : Float) : Parts :=
  let bits : Nat := value.toBits.toNat
  let biased : Nat := bits / Nat.pow 2 52 % Nat.pow 2 11
  let fraction : Nat := bits % Nat.pow 2 52
  if biased = 0x7FF then if fraction = 0 then .infinite else .notANumber
  else if biased = 0 then
    if fraction = 0 then .zero else .finite ⟨fraction, -1074, false⟩
  else .finite ⟨Nat.pow 2 52 + fraction, (biased : Int) - 1075, fraction = 0 && 1 < biased⟩

/-!
## Writing floating-point numbers

Two ways of writing the shortest decimal of a number.  The plain way writes all
places.  The marked way always shows that the number is no integer, and writes
very large and very small numbers with an exponent.
-/

/-- The decimal digits of a number. -/
def digitsOf (number : Nat) : List Char := Nat.toDigits 10 number

/-- A decimal without zeros at its end. -/
def trimZeros : Nat -> Digits -> Digits
  | 0, decimal => decimal
  | bound + 1, decimal =>
      if decimal.digits % 10 = 0 ∧ decimal.digits ≠ 0 then
        trimZeros bound ⟨decimal.digits / 10, decimal.exponent + 1⟩
      else decimal

/-- All places of a decimal: the whole part and the fraction. -/
def places (decimal : Digits) : List Char × List Char :=
  let digits := digitsOf decimal.digits
  if decimal.exponent ≥ 0 then (digits ++ List.replicate decimal.exponent.toNat '0', [])
  else
    let after := (-decimal.exponent).toNat
    if digits.length > after then
      (digits.take (digits.length - after), digits.drop (digits.length - after))
    else (['0'], List.replicate (after - digits.length) '0' ++ digits)

/-- The shortest decimal of a binary number without zeros at its end. -/
def decimalOf (number : Binary) : Digits := trimZeros 20 number.shortest

/-- The exponent of the leading digit of a decimal. -/
def magnitude (decimal : Digits) : Int :=
  (digitsOf decimal.digits).length - 1 + decimal.exponent

/-- The fraction behind its point, if there is one. -/
def withPoint (fraction : List Char) : List Char :=
  if fraction.isEmpty then [] else '.' :: fraction

/-- A decimal with its point behind the leading digit and an exponent. -/
def scientific (decimal : Digits) : List Char :=
  let digits := digitsOf decimal.digits
  digits.take 1 ++ withPoint (digits.drop 1) ++ 'e' :: (toString (magnitude decimal)).toList

/-- A text with a minus sign in front if a number carries one. -/
def signed (value : Float) (text : List Char) : String :=
  String.ofList (if isNegative value then '-' :: text else text)

/-- A floating-point number with all its places. -/
def plain (value : Float) : String :=
  match partsOf value with
  | .notANumber => "NaN"
  | .infinite => signed value "inf".toList
  | .zero => signed value ['0']
  | .finite number =>
      let (whole, fraction) := places (decimalOf number)
      signed value (whole ++ withPoint fraction)

/-- A floating-point number that shows its point or an exponent: positional from the
given exponent of the leading digit up to but not including `1e16`. -/
def markedFrom (least : Int) (value : Float) : String :=
  match partsOf value with
  | .notANumber => "NaN"
  | .infinite => signed value "inf".toList
  | .zero => signed value "0.0".toList
  | .finite number =>
      let decimal := decimalOf number
      if least ≤ magnitude decimal ∧ magnitude decimal < 16 then
        let (whole, fraction) := places decimal
        signed value (whole ++ '.' :: (if fraction.isEmpty then ['0'] else fraction))
      else signed value (scientific decimal)

/-- A floating-point number that shows its point or an exponent: positional from
`1e-4` up to but not including `1e16`. -/
def marked (value : Float) : String := markedFrom (-4) value

/-!
## Remainders, powers and rounding of floating-point numbers

The remainder of a division is exact and has the sign of the dividend.  Powers are
formed by repeated squaring, and a number is cut to an integer towards zero within
the range of 64 bits.
-/

/-- The remainder of `dividend / divisor`, both finite and the divisor not zero. -/
def remainderOf (dividend divisor : Binary) : Float :=
  let scale := min dividend.exponent divisor.exponent
  let top := dividend.mantissa * Nat.pow 2 (dividend.exponent - scale).toNat
  let bottom := divisor.mantissa * Nat.pow 2 (divisor.exponent - scale).toNat
  Float.scaleB (Float.ofNat (top % bottom)) scale

/-- The remainder of a division, with the sign of the dividend. -/
def remainder (dividend divisor : Float) : Float :=
  match partsOf dividend, partsOf divisor with
  | .notANumber, _ | _, .notANumber | .infinite, _ | _, .zero => 0.0 / 0.0
  | .zero, _ | _, .infinite => dividend
  | .finite top, .finite bottom =>
      let rest := remainderOf top bottom
      if isNegative dividend then -rest else rest

/-- Multiply a result by the powers of a base that the binary digits of an exponent
name; `bound` limits the digits. -/
def powerFrom : (bound : Nat) -> (result base : Float) -> (exponent : Nat) -> Float
  | 0, result, _, _ => result
  | bound + 1, result, base, exponent =>
      let result := if exponent % 2 = 1 then result * base else result
      if exponent / 2 = 0 then result else powerFrom bound result (base * base) (exponent / 2)

/-- A power of ten. -/
def powerOfTen (exponent : Int) : Float :=
  let power := powerFrom 64 1.0 10.0 exponent.natAbs
  if exponent < 0 then 1.0 / power else power

/-- The integer that a number is cut to: towards zero, and the nearest of 64 bits. -/
def truncated (value : Float) : Int := value.toInt64.toInt

end Decimal
end ConfigWiring
