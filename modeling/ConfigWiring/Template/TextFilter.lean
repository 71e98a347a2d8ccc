import ConfigWiring.Template.Argument
import ConfigWiring.Text.CaseMap
import ConfigWiring.Text.Grapheme
import ConfigWiring.Text.Split
import ConfigWiring.Text.WordCharacter

/-!
# Filters on texts

The filters that take a text.  Arguments that name a separator may spell a line feed and
a tab as a backslash with a letter.
-/

namespace ConfigWiring
namespace Template
namespace TextFilter

open Text

/-- A separator with its spelt line feeds and tabs. -/
def unescaped (text : List Char) : List Char :=
  replaceAll ['\\', 't'] ['\t'] (replaceAll ['\\', 'n'] ['\n'] text)

/-- The text with its first character in upper case and the others in lower case. -/
def capitalize : List Char -> List Char
  | [] => []
  | first :: rest => upper first ++ lowerFrom [] rest

/-- Whether a character stands in a word or is an apostrophe. -/
def inWord (char : Char) : Bool := isWordChar char || char == '\''

/-- A run of word characters and apostrophes, capitalized from its first to its last word
character. -/
def titleRun (run : List Char) : List Char :=
  let lead := run.takeWhile (!isWordChar ·)
  let body := dropEndWhile (!isWordChar ·) (run.drop lead.length)
  lead ++ capitalize body ++ run.drop (lead.length + body.length)

/-- The text behind the given run, with every word capitalized. -/
def titleFrom (run : List Char) : List Char -> List Char
  | [] => titleRun run.reverse
  | char :: rest =>
      if inWord char then titleFrom (char :: run) rest
      else titleRun run.reverse ++ char :: titleFrom [] rest

/-- The number of words between blanks. -/
def wordCount (within : Bool) : List Char -> Nat
  | [] => 0
  | char :: rest =>
      if isBlank char then wordCount false rest
      else (if within then 0 else 1) + wordCount true rest

/-- Remove a part from the start as often as it stands there. -/
def dropRepeated (part : List Char) : (bound : Nat) -> List Char -> List Char
  | 0, text => text
  | bound + 1, text =>
      if part.isEmpty then text
      else
        match behind? part text with
        | some rest => dropRepeated part bound rest
        | none => text

/-- The pieces of a text between the occurrences of a pattern, behind a number of
characters that an occurrence already covers. -/
def piecesFrom (pattern : List Char) : (covered : Nat) -> List Char -> List (List Char)
  | _, [] => [[]]
  | covered + 1, _ :: rest => piecesFrom pattern covered rest
  | 0, char :: rest =>
      if pattern.isPrefixOf (char :: rest) then [] :: piecesFrom pattern (pattern.length - 1) rest
      else
        match piecesFrom pattern 0 rest with
        | [] => [[char]]
        | piece :: others => (char :: piece) :: others

/-- The pieces of a text between the occurrences of a pattern; an empty pattern stands
around every character. -/
def pieces (pattern text : List Char) : List (List Char) :=
  if pattern.isEmpty then [] :: text.map (fun char => [char]) ++ [[]]
  else piecesFrom pattern 0 text

/-- A text with its first characters and an ending, if it is longer. -/
def truncate (length : Nat) (ending text : List Char) : List Char :=
  let characters := graphemes text
  if characters.length ≤ length then text else (characters.take length).flatten ++ ending

/-- The lines of a text with something in front of all but the first. -/
def indent (lead : List Char) (first blank : Bool) (text : List Char) : List Char :=
  let indented := fun line => if blank || !(trimStart line).isEmpty then lead ++ line else line
  match lines text with
  | [] => []
  | line :: others =>
      joinAll '\n' ((if first then lead ++ line else line) :: others.map indented)

/-- How many characters the comment or tag at the start of a text has. -/
def tagLength? (text : List Char) : Option Nat :=
  match behind? "<!--".toList text with
  | some rest =>
      let line := rest.takeWhile (· != '\n')
      match (List.range (line.length + 1)).find? fun start =>
          "-->".toList.isPrefixOf (line.drop start) with
      | some start => some (start + 7)
      | none => plainTag? text
  | none => plainTag? text
where
  /-- How many characters a tag has, up to its closing bracket. -/
  plainTag? : List Char -> Option Nat
    | '<' :: rest =>
        let inside := rest.takeWhile (· != '>')
        if inside.length < rest.length then some (inside.length + 2) else none
    | _ => none

/-- The text without comments and tags, behind characters that one covers. -/
def stripTags : (covered : Nat) -> List Char -> List Char
  | _, [] => []
  | covered + 1, _ :: rest => stripTags covered rest
  | 0, char :: rest =>
      match tagLength? (char :: rest) with
      | some length => stripTags (length - 1) rest
      | none => char :: stripTags 0 rest

/-- The text without the blanks between two tags, behind characters already seen. -/
def dropSpaces : (covered : Nat) -> List Char -> List Char
  | _, [] => []
  | covered + 1, _ :: rest => dropSpaces covered rest
  | 0, char :: rest =>
      let blanks := rest.takeWhile isBlank
      if char = '>' && !blanks.isEmpty && (rest.drop blanks.length).head? == some '<' then
        '>' :: '<' :: dropSpaces (blanks.length + 1) rest
      else char :: dropSpaces 0 rest

/-- A character of a marked-up text. -/
def markupChar (apostrophe slash : String) : Char -> List Char
  | '&' => "&amp;".toList
  | '<' => "&lt;".toList
  | '>' => "&gt;".toList
  | '"' => "&quot;".toList
  | '\'' => apostrophe.toList
  | '/' => slash.toList
  | char => [char]

/-- The value of a digit of a base up to thirty-six. -/
def digitOf? (base : Nat) (char : Char) : Option Nat :=
  let value? :=
    if char.isDigit then some (char.toNat - '0'.toNat)
    else if char.isLower then some (char.toNat - 'a'.toNat + 10)
    else if char.isUpper then some (char.toNat - 'A'.toNat + 10)
    else none
  value?.filter (· < base)

/-- The integer of 64 bits that a text spells in a base, perhaps behind a sign. -/
def readInBase? (base : Nat) (text : List Char) : Option Int :=
  let (negative, digits) := Decimal.splitSign text
  if digits.isEmpty then none
  else
    match digits.mapM (digitOf? base) with
    | none => none
    | some values =>
        let size : Int := (values.foldl (fun value digit => value * base + digit) 0 : Nat)
        Argument.int? (.int (if negative then -size else size))

/-- The text behind the mark of a base, as often as it stands there. -/
def behindBaseMark (base : Nat) (text : List Char) : List Char :=
  match base with
  | 2 => dropRepeated ['0', 'b'] text.length text
  | 8 => dropRepeated ['0', 'o'] text.length text
  | 16 => dropRepeated ['0', 'x'] text.length text
  | _ => text

/-- A text as the characters that a filter makes of it. -/
def changed (change : List Char -> List Char) : Value -> Option Value
  | .text text => some (.text (String.ofList (change text.toList)))
  | _ => none

/-- The filters that make a text of a text without arguments. -/
def plain? (name : String) : Option (List Char -> List Char) :=
  match name with
  | "upper" => some (·.flatMap upper)
  | "lower" => some (lowerFrom [])
  | "trim" => some trim
  | "trim_start" => some trimStart
  | "trim_end" => some trimEnd
  | "capitalize" => some capitalize
  | "title" => some (titleFrom [])
  | "linebreaksbr" => some fun text =>
      replaceAll ['\n'] "<br>".toList (replaceAll ['\r', '\n'] "<br>".toList text)
  | "striptags" => some (stripTags 0)
  | "spaceless" => some (dropSpaces 0)
  | "escape" => some (·.flatMap (markupChar "&#x27;" "&#x2F;"))
  | "escape_xml" => some (·.flatMap (markupChar "&apos;" "/"))
  | "addslashes" => some (·.flatMap fun char =>
      if "\\\"'".toList.contains char then ['\\', char] else [char])
  | _ => none

/-- The filters that make a text of a text with arguments. -/
def withArguments? (name : String) (arguments : Named) : Option (List Char -> List Char) :=
  match name with
  | "trim_start_matches" => do
      let part := unescaped (← Argument.required? Argument.text? "pat" arguments)
      some fun text => dropRepeated part text.length text
  | "trim_end_matches" => do
      let part := unescaped (← Argument.required? Argument.text? "pat" arguments)
      some fun text => (dropRepeated part.reverse text.length text.reverse).reverse
  | "truncate" => do
      let length ← Argument.orElse? Argument.count? 255 "length" arguments
      let ending ← Argument.orElse? Argument.text? ['…'] "end" arguments
      some (truncate length ending)
  | "replace" => do
      let pattern ← Argument.required? Argument.text? "from" arguments
      let replacement ← Argument.required? Argument.text? "to" arguments
      some fun text => replacement.intercalate (pieces pattern text)
  | "indent" => do
      let lead ← Argument.orElse? Argument.text? "    ".toList "prefix" arguments
      let first ← Argument.orElse? Argument.flag? false "first" arguments
      let blank ← Argument.orElse? Argument.flag? false "blank" arguments
      some (indent lead first blank)
  | _ => none

/-- Apply a filter on texts. -/
def filtered? (name : String) (arguments : Named) (value : Value) : Option Value :=
  match (plain? name).or (withArguments? name arguments) with
  | some change => changed change value
  | none =>
      match name, value with
      | "wordcount", .text text => some (.int (wordCount false text.toList))
      | "split", .text text =>
          (Argument.required? Argument.text? "pat" arguments).map fun pattern =>
            .list ((pieces (unescaped pattern) text.toList).map fun piece =>
              .text (String.ofList piece))
      | _, _ => none

end TextFilter
end Template
end ConfigWiring
