import ConfigWiring.Config.Escape
import ConfigWiring.Config.Value
import ConfigWiring.Decimal.Reading
import ConfigWiring.Text.Blank

/-!
# Values of environment variables

The value of a variable is read as a literal: a truth value, a number, a text between
quotes, a list or a table.  Anything else is a plain text, without the blanks around it
where a literal could have stood, and as it is where a literal breaks off.
-/

namespace ConfigWiring
namespace Config
namespace Literal

open Text

/-- Whether a character is one of the blanks of literals. -/
def isSpace (char : Char) : Bool :=
  char == ' ' || char == '\t' || char == '\n' || char == '\r' || char == '\x0c'

/-- Whether a character separates literals. -/
def isSeparator (char : Char) : Bool := [',', '\x7b', '\x7d', '[', ']'].contains char

/-- Whether a character may stand in a bare key. -/
def isKeyChar (char : Char) : Bool := char.isAlphanum || char == '_' || char == '-'

/-- The largest number of 64 bits without a sign. -/
def maxUnsigned : Nat := Nat.pow 2 64 - 1

/-- The smallest number of 64 bits with a sign. -/
def minSigned : Int := -(Nat.pow 2 63 : Int)

/-- A plain word: a number if it reads as one, else a text. -/
def word (spelling : List Char) : Value :=
  let trimmed := trim spelling
  let float? := if trimmed.contains '.' then Decimal.readFloat? trimmed else none
  match float?, Decimal.readNat? trimmed, Decimal.readInt? trimmed with
  | some value, _, _ => .float value
  | none, some value, _ =>
      if value ≤ maxUnsigned then .unsigned value else .text (String.ofList trimmed)
  | none, none, some value =>
      if minSigned ≤ value then .signed value else .text (String.ofList trimmed)
  | none, none, none => .text (String.ofList trimmed)

/-- The text up to a closing quote, with escapes resolved, and what is behind the
quote; `covered` characters of an escape are skipped. -/
def quotedText? : (covered : Nat) -> List Char -> Option (List Char × List Char)
  | _, [] => none
  | covered + 1, _ :: rest => quotedText? covered rest
  | 0, char :: rest =>
      if char = '"' then some ([], rest)
      else if char = '\\' then
        match readEscape? rest with
        | none => none
        | some (meant, length) =>
            (quotedText? length rest).map fun (text, behind) => (meant :: text, behind)
      else if isTextChar char then
        (quotedText? 0 rest).map fun (text, behind) => (char :: text, behind)
      else none

/-- The key of a field, with what is behind it. -/
def key? (text : List Char) : Option (String × List Char) :=
  match text with
  | '"' :: rest => (quotedText? 0 rest).map fun (key, behind) => (String.ofList key, behind)
  | _ =>
      let key := text.takeWhile isKeyChar
      if key.isEmpty then none else some (String.ofList key, text.dropWhile isKeyChar)

/-- A text without the blanks at its start. -/
def skip (text : List Char) : List Char := text.dropWhile isSpace

mutual

/-- A literal at the start of a text, with what is behind it; `depth` bounds how deep
literals nest. -/
def value? : (depth : Nat) -> List Char -> Option (Value × List Char)
  | 0, _ => none
  | depth + 1, text => do
      let start := skip text
      let (value, behind) ←
        match start with
        | 't' :: 'r' :: 'u' :: 'e' :: rest => some (.bool true, rest)
        | 'f' :: 'a' :: 'l' :: 's' :: 'e' :: rest => some (.bool false, rest)
        | '\x7b' :: rest =>
            (fields? depth rest).map fun (fields, behind) => (.table fields, behind)
        | '[' :: rest => (items? depth rest).map fun (items, behind) => (.list items, behind)
        | '"' :: rest =>
            (quotedText? 0 rest).map fun (text, behind) => (.text (String.ofList text), behind)
        | '\'' :: char :: '\'' :: rest => some (.char char, rest)
        | '\'' :: _ => none
        | _ =>
            some (word (start.takeWhile (!isSeparator ·)), start.dropWhile (!isSeparator ·))
      return (value, skip behind)

/-- The items of a list up to its end. -/
def items? : (depth : Nat) -> List Char -> Option (List Value × List Char)
  | 0, _ => none
  | _ + 1, ']' :: rest => some ([], rest)
  | depth + 1, text => do
      let (item, behind) ← value? depth text
      match behind with
      | ',' :: rest =>
          let (items, behind) ← items? depth rest
          return (item :: items, behind)
      | ']' :: rest => return ([item], rest)
      | _ => none

/-- The fields of a table up to its end; the last value of a key counts. -/
def fields? : (depth : Nat) -> List Char -> Option (Table × List Char)
  | 0, _ => none
  | _ + 1, '\x7d' :: rest => some ([], rest)
  | depth + 1, text => do
      let (key, behind) ← key? (skip text)
      let '=' :: behind := skip behind | none
      let (value, behind) ← value? depth behind
      let kept (fields : Table) : Table :=
        if (fields.lookup key).isSome then fields else putField key value fields
      match behind with
      | ',' :: rest =>
          let (fields, behind) ← fields? depth rest
          return (kept fields, behind)
      | '\x7d' :: rest => return (kept [], rest)
      | _ => none

end

/-- The value of a variable's text. -/
def parse (text : String) : Value :=
  match value? (2 * text.length + 2) text.toList with
  | some (value, []) => value
  | _ => .text text

end Literal
end Config
end ConfigWiring
