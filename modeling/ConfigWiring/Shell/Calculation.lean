import ConfigWiring.Environment.Basic
import ConfigWiring.Shell.Word

/-!
# Calculations

A calculation works on whole numbers.  Its operators have ranks, and operators of one
rank group to the left.  A name stands for the number that its value spells; a name
without a value stands for zero.
-/

namespace ConfigWiring
namespace Shell
namespace Calculation

/-- The operators between two numbers with their ranks, longer ones first. -/
def operators : List (String × Nat) :=
  [("||", 1), ("&&", 2), ("==", 6), ("!=", 6), ("<=", 7), (">=", 7), ("<<", 8), (">>", 8),
    ("|", 3), ("^", 4), ("&", 5), ("<", 7), (">", 7), ("+", 9), ("-", 9), ("*", 10), ("/", 10),
    ("%", 10)]

/-- The number that stands for a truth value. -/
def truth (holds : Bool) : Int := if holds then 1 else 0

/-- The bits of a number in a word of 64 bits. -/
def wordOf (number : Int) : Nat := (number % Int.pow 2 64).toNat

/-- The number that a word of 64 bits stands for. -/
def ofWord (bits : Nat) : Int :=
  if bits < Nat.pow 2 63 then Int.ofNat bits else Int.ofNat bits - Int.pow 2 64

/-- What an operator makes of two numbers; nothing by zero can be divided. -/
def combined? (operator : String) (left right : Int) : Option Int :=
  match operator with
  | "||" => some (truth (left != 0 || right != 0))
  | "&&" => some (truth (left != 0 && right != 0))
  | "==" => some (truth (left == right))
  | "!=" => some (truth (left != right))
  | "<=" => some (truth (left ≤ right))
  | ">=" => some (truth (right ≤ left))
  | "<" => some (truth (left < right))
  | ">" => some (truth (right < left))
  | "|" => some (ofWord (wordOf left ||| wordOf right))
  | "^" => some (ofWord (wordOf left ^^^ wordOf right))
  | "&" => some (ofWord (wordOf left &&& wordOf right))
  | "<<" => some (ofWord ((wordOf left <<< (wordOf right % 64)) % Nat.pow 2 64))
  | ">>" => some (left / Int.pow 2 (wordOf right % 64))
  | "+" => some (ofWord (wordOf (left + right)))
  | "-" => some (ofWord (wordOf (left - right)))
  | "*" => some (ofWord (wordOf (left * right)))
  | "/" => if right = 0 then none else some (left.tdiv right)
  | "%" => if right = 0 then none else some (left.tmod right)
  | _ => none

/-- The digit that a character is. -/
def digit? (char : Char) : Option Nat :=
  if char.isDigit then some (char.toNat - '0'.toNat)
  else
    let lower := char.toLower
    if 'a' ≤ lower && lower ≤ 'f' then some (lower.toNat - 'a'.toNat + 10) else none

/-- The number that digits of a base spell. -/
def ofDigits? (base : Nat) (digits : List Char) : Option Int :=
  if digits.isEmpty then none
  else
    (digits.foldlM
      (fun number char =>
        match digit? char with
        | some digit => if digit < base then some (number * base + digit) else none
        | none => none) 0).map Int.ofNat

/-- The number that a text of digits spells; a leading zero tells another base. -/
def number? : List Char -> Option Int
  | '0' :: 'x' :: digits | '0' :: 'X' :: digits => ofDigits? 16 digits
  | '0' :: char :: digits => ofDigits? 8 (char :: digits)
  | digits => ofDigits? 10 digits

/-- The number that the value of a name spells. -/
def valueNumber? (value : String) : Option Int :=
  match Text.trimWhile isGap value.toList with
  | [] => some 0
  | '-' :: digits => (number? digits).map (- ·)
  | '+' :: digits => number? digits
  | digits => number? digits

/-- What stands behind blanks. -/
def skip (text : List Char) : List Char := text.dropWhile fun char => isGap char || char == '\n'

/-- The operators that change a name's value, with the operator between the old value
and the new one, if there is one. -/
def assignments : List (String × Option String) :=
  ("=", none) :: ["<<", ">>", "+", "-", "*", "/", "%", "&", "^", "|"].map fun operator =>
    (operator ++ "=", some operator)

/-- The operator at the start of a text that changes a name's value. -/
def assignment? (text : List Char) : Option (Option String × List Char) :=
  if ['=', '='].isPrefixOf text then none
  else
    assignments.findSome? fun (spelling, operator) =>
      (Text.behind? spelling.toList text).map fun rest => (operator, rest)

/-- What has been calculated: a number, the rest of the text, and the values of the
names. -/
abbrev Outcome : Type := Option (Int × List Char × Entries)

mutual

/-- Read a number with what may stand in front of it. -/
def operand? : Nat -> Entries -> List Char -> Outcome
  | 0, _, _ => none
  | bound + 1, values, text =>
      let changed (change : Int -> Int) (rest : List Char) : Outcome :=
        (operand? bound values rest).map fun (number, state) => (change number, state)
      match skip text with
      | '-' :: rest => changed (fun number => - number) rest
      | '+' :: rest => changed (fun number => number) rest
      | '!' :: rest => changed (fun number => truth (number == 0)) rest
      | '~' :: rest => changed (fun number => - number - 1) rest
      | '(' :: rest =>
          match choice? bound values rest with
          | some (number, rest, values) =>
              match skip rest with
              | ')' :: behind => some (number, behind, values)
              | _ => none
          | none => none
      | char :: rest =>
          let word := (char :: rest).takeWhile isNameChar
          let name := String.ofList word
          let behind := (char :: rest).dropWhile isNameChar
          if !isNameStart char then (number? word).map fun number => (number, behind, values)
          else
            let old := valueNumber? ((values.get? name).getD "")
            match assignment? (skip behind) with
            | none => old.map fun number => (number, behind, values)
            | some (operator, rest) =>
                match choice? bound values rest with
                | none => none
                | some (right, rest, values) =>
                    let number :=
                      match operator with
                      | none => some right
                      | some operator => old.bind fun left => combined? operator left right
                    number.map fun number => (number, rest, values.put name (toString number))
      | [] => none

/-- Read an expression whose operators have at least a certain rank. -/
def expression? : Nat -> Nat -> Entries -> List Char -> Outcome
  | 0, _, _, _ => none
  | bound + 1, rank, values, text =>
      match operand? bound values text with
      | some (left, rest, values) => behind? bound rank left values rest
      | none => none

/-- Read on behind a number. -/
def behind? : Nat -> Nat -> Int -> Entries -> List Char -> Outcome
  | 0, _, left, values, text => some (left, text, values)
  | bound + 1, rank, left, values, text =>
      let text := skip text
      let found := operators.find? fun (spelling, _) => spelling.toList.isPrefixOf text
      match found with
      | some (spelling, own) =>
          if own < rank then some (left, text, values)
          else
            match expression? bound (own + 1) values (text.drop spelling.length) with
            | some (right, rest, values) =>
                match combined? spelling left right with
                | some number => behind? bound rank number values rest
                | none => none
            | none => none
      | none => some (left, text, values)

/-- Read an expression, or a condition with two expressions to choose from. -/
def choice? : Nat -> Entries -> List Char -> Outcome
  | 0, _, _ => none
  | bound + 1, values, text =>
      match expression? bound 1 values text with
      | none => none
      | some (condition, rest, values) =>
          match skip rest with
          | '?' :: rest =>
              match choice? bound values rest with
              | none => none
              | some (first, rest, values) =>
                  match skip rest with
                  | ':' :: rest =>
                      (choice? bound values rest).map fun (second, state) =>
                        (if condition = 0 then second else first, state)
                  | _ => none
          | rest => some (condition, rest, values)

end

/-- The result of a calculation and the values that it leaves, if it makes sense. -/
def result? (values : Entries) (text : List Char) : Option (Int × Entries) :=
  match choice? (8 * text.length + 16) values text with
  | some (number, rest, values) => if (skip rest).isEmpty then some (number, values) else none
  | none => none

end Calculation
end Shell
end ConfigWiring
