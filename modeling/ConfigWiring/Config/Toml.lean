import ConfigWiring.Config.TomlDocument
import ConfigWiring.Config.TomlScalar

/-!
# Reading TOML

A document has one statement on each line: a key with its value, or the header of a table.
Blanks and comments may stand around them.  Texts stand between one or three quotes; with
three they may go over several lines.  Lists and tables nest less than eighty deep, and a
key has fewer than eighty parts.
-/

namespace ConfigWiring
namespace Config
namespace Toml

/-- The text behind blanks of a line. -/
def skipSpace (text : List Char) : List Char :=
  text.dropWhile fun char => char == ' ' || char == '\t'

/-- The text behind a line break, if it begins with one. -/
def behindBreak? : List Char -> Option (List Char)
  | '\n' :: rest => some rest
  | '\r' :: '\n' :: rest => some rest
  | _ => none

/-- The text behind a comment, which ends in front of a line break. -/
def skipComment : List Char -> List Char
  | '#' :: rest => rest.dropWhile isTextChar
  | text => text

/-- The text behind blanks, comments and line breaks; `lines` bounds the breaks. -/
def skipLines : (lines : Nat) -> List Char -> List Char
  | 0, text => text
  | lines + 1, text =>
      let behind := skipComment (skipSpace text)
      match behindBreak? behind with
      | some rest => skipLines lines rest
      | none => behind

/-- Whether a character may stand in a bare key. -/
def isBareChar (char : Char) : Bool := char.isAlphanum || char == '_' || char == '-'

/-- The text up to a closing quote on the same line, with escapes resolved, and what is
behind the quote; `covered` characters of an escape are skipped. -/
def basicText? : (covered : Nat) -> List Char -> Option (List Char × List Char)
  | _, [] => none
  | covered + 1, _ :: rest => basicText? covered rest
  | 0, char :: rest =>
      if char = '"' then some ([], rest)
      else if char = '\\' then
        match readEscape? rest with
        | none => none
        | some (meant, length) =>
            (basicText? length rest).map fun (text, behind) => (meant :: text, behind)
      else if isTextChar char then
        (basicText? 0 rest).map fun (text, behind) => (char :: text, behind)
      else none

/-- The text up to a closing single quote on the same line, and what is behind it. -/
def literalText? : List Char -> Option (List Char × List Char)
  | [] => none
  | char :: rest =>
      if char = '\'' then some ([], rest)
      else if isTextChar char then
        (literalText? rest).map fun (text, behind) => (char :: text, behind)
      else none

/-- How many quotes a text begins with. -/
def quoteRun (quote : Char) (text : List Char) : Nat := (text.takeWhile (· == quote)).length

/-- How many characters a backslash at the end of a line takes with it: the blanks behind
it, the line break and all blanks of the lines that follow. -/
def lineJoin? (text : List Char) : Option Nat :=
  let behind := skipSpace text
  match behindBreak? behind with
  | none => none
  | some rest =>
      let isGap := fun char => char == ' ' || char == '\t' || char == '\n' || char == '\r'
      some (text.length - (rest.dropWhile isGap).length)

/-- The text of several lines up to three closing quotes; up to two more quotes belong to
the text. -/
def longText? (quote : Char) : (covered : Nat) -> List Char -> Option (List Char × List Char)
  | _, [] => none
  | covered + 1, _ :: rest => longText? quote covered rest
  | 0, char :: rest =>
      if char = quote && 2 ≤ quoteRun quote rest then
        let run := quoteRun quote (char :: rest)
        if run ≤ 5 then some (List.replicate (run - 3) quote, rest.drop (run - 1)) else none
      else if char = '\\' && quote = '"' then
        match readEscape? rest, lineJoin? rest with
        | some (meant, length), _ =>
            (longText? quote length rest).map fun (text, behind) => (meant :: text, behind)
        | none, some length => longText? quote length rest
        | none, none => none
      else if char = '\r' then
        match rest with
        | '\n' :: _ => longText? quote 0 rest
        | _ => none
      else if isTextChar char || char = '\n' then
        (longText? quote 0 rest).map fun (text, behind) => (char :: text, behind)
      else none

/-- The text behind a line break at its start, if there is one. -/
def dropBreak (text : List Char) : List Char := (behindBreak? text).getD text

/-- A text between quotes, with what is behind it. -/
def quoted? : List Char -> Option (List Char × List Char)
  | '"' :: '"' :: '"' :: rest => longText? '"' 0 (dropBreak rest)
  | '\'' :: '\'' :: '\'' :: rest => longText? '\'' 0 (dropBreak rest)
  | '"' :: rest => basicText? 0 rest
  | '\'' :: rest => literalText? rest
  | _ => none

/-- One part of a key, with what is behind it. -/
def keyPart? (text : List Char) : Option (String × List Char) :=
  match text with
  | '"' :: rest => (basicText? 0 rest).map fun (key, behind) => (String.ofList key, behind)
  | '\'' :: rest => (literalText? rest).map fun (key, behind) => (String.ofList key, behind)
  | _ =>
      let key := text.takeWhile isBareChar
      if key.isEmpty then none else some (String.ofList key, text.dropWhile isBareChar)

/-- How many parts a key may have, and how deep values may nest. -/
def nestingLimit : Nat := 79

/-- The parts of a dotted key, with what is behind it; `parts` bounds their number. -/
def keyWithin? : (parts : Nat) -> List Char -> Option (List String × List Char)
  | 0, _ => none
  | parts + 1, text => do
      let (part, behind) ← keyPart? (skipSpace text)
      match skipSpace behind with
      | '.' :: rest =>
          let (others, behind) ← keyWithin? parts rest
          return (part :: others, behind)
      | rest => return ([part], rest)

/-- A dotted key, with what is behind it. -/
def key? (text : List Char) : Option (List String × List Char) := keyWithin? nestingLimit text

/-- Whether a character may stand in a value without quotes. -/
def isScalarChar (char : Char) : Bool :=
  char.isAlphanum || ['_', '-', '+', '.', ':'].contains char

/-- A value without quotes, with what is behind it; one blank may stand between a date and
a time of day. -/
def scalarAt? (text : List Char) : Option (Value × List Char) :=
  let word := text.takeWhile isScalarChar
  let behind := text.dropWhile isScalarChar
  match behind with
  | ' ' :: time =>
      let further := time.takeWhile isScalarChar
      if isDate word && isZonedTime further then
        some (moment (String.ofList (word ++ ' ' :: further)), time.dropWhile isScalarChar)
      else (scalar? word).map (·, behind)
  | _ => (scalar? word).map (·, behind)

mutual

/-- A value at the start of a text, with what is behind it; `levels` bounds how deep values
nest and `bound` the number of steps. -/
def value? : (bound levels : Nat) -> List Char -> Option (Value × List Char)
  | 0, _, _ => none
  | bound + 1, levels, text =>
      match text with
      | '[' :: rest =>
          match levels with
          | 0 => none
          | levels + 1 =>
              (items? bound levels (skipLines bound rest)).map fun (items, behind) =>
                (.list items, behind)
      | '\x7b' :: rest =>
          match levels, skipSpace rest with
          | 0, _ => none
          | _ + 1, '\x7d' :: behind => some (.table [], behind)
          | levels + 1, rest =>
              (fields? bound levels [] rest).map fun (fields, behind) =>
                (.table (finishFields fields), behind)
      | '"' :: _ | '\'' :: _ =>
          (quoted? text).map fun (text, behind) => (.text (String.ofList text), behind)
      | _ => scalarAt? text

/-- The items of a list up to its end. -/
def items? : (bound levels : Nat) -> List Char -> Option (List Value × List Char)
  | 0, _, _ => none
  | _ + 1, _, ']' :: rest => some ([], rest)
  | bound + 1, levels, text => do
      let (item, behind) ← value? bound levels text
      match skipLines bound behind with
      | ',' :: rest =>
          let (items, behind) ← items? bound levels (skipLines bound rest)
          return (item :: items, behind)
      | ']' :: rest => return ([item], rest)
      | _ => none

/-- The fields of a table on one line up to its end, behind the fields so far. -/
def fields? : (bound levels : Nat) -> Fields -> List Char -> Option (Fields × List Char)
  | 0, _, _, _ => none
  | bound + 1, levels, fields, text => do
      let (keys, behind) ← key? text
      let '=' :: behind := behind | none
      let (value, behind) ← value? bound levels (skipSpace behind)
      let fields ← assign [] keys value fields
      match skipSpace behind with
      | ',' :: rest => fields? bound levels fields rest
      | '\x7d' :: rest => return (fields, rest)
      | _ => none

end

/-- The keys of a header in front of its closing brackets, with what is behind them. -/
def header? (closing : List Char) (text : List Char) :
    Option (List String × List Char) := do
  let (keys, behind) ← key? text
  return (keys, ← Text.behind? closing behind)

/-- One statement of a document below the table of a header: the header that holds behind
it, all fields, and the rest of the document. -/
def statement? (bound : Nat) (header : List String) (fields : Fields) (text : List Char) :
    Option (List String × Fields × List Char) :=
  match text with
  | '[' :: '[' :: rest => do
      let (keys, behind) ← header? [']', ']'] rest
      return (keys, ← openListed keys fields, behind)
  | '[' :: rest => do
      let (keys, behind) ← header? [']'] rest
      return (keys, ← openTable keys fields, behind)
  | _ => do
      let (keys, behind) ← key? text
      let '=' :: behind := behind | none
      let (value, behind) ← value? bound nestingLimit (skipSpace behind)
      return (header, ← assign header keys value fields, behind)

/-- The fields of the statements of a document; `lines` bounds their number. -/
def statements? (bound : Nat) :
    (lines : Nat) -> List String -> Fields -> List Char -> Option Fields
  | 0, _, _, _ => none
  | lines + 1, header, fields, text =>
      match skipLines bound text with
      | [] => some fields
      | start => do
          let (header, fields, behind) ← statement? bound header fields start
          match skipComment (skipSpace behind) with
          | [] => some fields
          | behind => statements? bound lines header fields (← behindBreak? behind)

/-- The table that a document spells, if it is well-formed. -/
def parse? (text : String) : Option Table :=
  let spelling := match text.toList with
    | '\ufeff' :: rest => rest
    | spelling => spelling
  let bound := 2 * spelling.length + 2
  (statements? bound bound [] [] spelling).map finishFields

end Toml
end Config
end ConfigWiring
