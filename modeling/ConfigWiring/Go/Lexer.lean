import ConfigWiring.Go.Number
import ConfigWiring.Go.Token
import ConfigWiring.Text.Blank
import ConfigWiring.Text.Identifier

/-!
# Cutting Go source text into tokens

The lexer reads the text from left to right and takes the longest token at each
place.  Blanks and comments separate tokens.  A character that begins no token,
such as a quote that is never closed, becomes a stray token of its own, so every
text has tokens and the parser decides whether they make sense.
-/

namespace ConfigWiring
namespace Go

open Text

namespace Lexer

/-- The reserved words. -/
def keywords : List String :=
  ["break", "case", "chan", "const", "continue", "default", "defer", "else", "fallthrough",
    "for", "func", "go", "goto", "if", "import", "interface", "map", "package", "range",
    "return", "select", "struct", "switch", "type", "var"]

/-- Operators and punctuation marks, longer ones before their beginnings. -/
def marks : List String :=
  ["<<=", ">>=", "&^=", "...", "&&", "||", "<-", "++", "--", "==", "!=", "<=", ">=", ":=",
    "+=", "-=", "*=", "/=", "%=", "&=", "|=", "^=", "<<", ">>", "&^", "+", "-", "*", "/", "%",
    "&", "|", "^", "<", ">", "=", "!", "(", ")", "[", "]", "\x7b", "\x7d", ",", ";", ".", ":", "~"]

/-- The length of a block comment behind its opening mark, up to and with the
closing one. -/
def blockLength? : List Char -> Option Nat
  | [] => none
  | [_] => none
  | '*' :: '/' :: _ => some 2
  | _ :: rest => (blockLength? rest).map (· + 1)

/-- The length of the comment at the start of a text, if one stands there. -/
def commentLength? : List Char -> Option Nat
  | '/' :: '/' :: rest => some (2 + (rest.takeWhile (· != '\n')).length)
  | '/' :: '*' :: rest => (blockLength? rest).map (· + 2)
  | _ => none

/-- Whether the first characters of a text are a number of hexadecimal digits. -/
def startsWithHex (count : Nat) (text : List Char) : Bool :=
  (text.take count).length == count && (text.take count).all Number.isHexDigit

/-- Whether a text may stand behind a backslash in a string between double
quotes. -/
def isEscape : List Char -> Bool
  | 'x' :: rest => startsWithHex 2 rest
  | 'u' :: rest => startsWithHex 4 rest
  | 'U' :: rest => startsWithHex 8 rest
  | _ :: _ => true
  | [] => false

/-- The length of a string between double quotes behind its opening quote. -/
def interpretedLength? : List Char -> Option Nat
  | [] => none
  | '"' :: _ => some 1
  | '\n' :: _ => none
  | '\\' :: escaped :: rest =>
      if isEscape (escaped :: rest) then (interpretedLength? rest).map (· + 2) else none
  | '\\' :: [] => none
  | _ :: rest => (interpretedLength? rest).map (· + 1)

/-- The length of a string between back quotes behind its opening quote. -/
def rawLength? : List Char -> Option Nat
  | [] => none
  | char :: rest => if char = Char.ofNat 96 then some 1 else (rawLength? rest).map (· + 1)

/-- Whether a text begins with a number of octal digits. -/
def startsWithOctal (count : Nat) (text : List Char) : Bool :=
  (text.take count).length == count &&
    (text.take count).all Number.isOctalDigit

/-- The length of an escape in a rune behind its backslash. -/
def runeEscapeLength? : List Char -> Option Nat
  | 'x' :: rest => if startsWithHex 2 rest then some 3 else none
  | 'u' :: rest => if startsWithHex 4 rest then some 5 else none
  | 'U' :: rest => if startsWithHex 8 rest then some 9 else none
  | char :: rest =>
      if startsWithOctal 3 (char :: rest) then some 3
      else if "abfnrtv\\'\"".toList.contains char then some 1
      else none
  | [] => none

/-- The length of a rune behind its opening quote. -/
def runeLength? : List Char -> Option Nat
  | '\\' :: rest =>
      match runeEscapeLength? rest with
      | some length => if (rest.drop length).head? = some '\'' then some (length + 2) else none
      | none => none
  | char :: '\'' :: _ => if char = '\'' then none else some 2
  | _ => none

/-- The class of a word. -/
def wordKind (word : List Char) : TokenKind :=
  if keywords.any (·.toList == word) then .keyword else .identifier

/-- The class of the token that begins with the first character, and the number
of further characters that belong to it. -/
def lexeme (first : Char) (rest : List Char) : TokenKind × Nat :=
  if isIdentifierStart first then
    let further := rest.takeWhile isIdentifierContinue
    (wordKind (first :: further), further.length)
  else
    let length := Number.length (first :: rest)
    if length > 0 then (.number, length - 1)
    else if first = '"' then
      match interpretedLength? rest with
      | some length => (.interpreted, length)
      | none => (.stray, 0)
    else if first = Char.ofNat 96 then
      match rawLength? rest with
      | some length => (.raw, length)
      | none => (.stray, 0)
    else if first = '\'' then
      match runeLength? rest with
      | some length => (.rune, length)
      | none => (.stray, 0)
    else
      match marks.find? fun mark => mark.toList.isPrefixOf (first :: rest) with
      | some mark => (.mark, mark.length - 1)
      | none => (.stray, 0)

/-- The number of line feeds in a text. -/
def breaks (text : List Char) : Nat := text.count '\n'

/-- Where the lexer stands. -/
structure Place where
  /-- The number of characters read. -/
  offset : Nat
  /-- The number of line feeds read. -/
  row : Nat
  /-- Whether a line feed was read outside comments since the last token. -/
  afterBreak : Bool
  /-- The comments read since the last token, the latest first. -/
  comments : List Comment

namespace Place

/-- Where every text begins. -/
def start : Place := ⟨0, 0, false, []⟩

/-- The place behind a character. -/
def advance (place : Place) (char : Char) : Place :=
  { place with
    offset := place.offset + 1
    row := if char = '\n' then place.row + 1 else place.row }

/-- The place behind a blank. -/
def pass (place : Place) (blank : Char) : Place :=
  { place.advance blank with afterBreak := place.afterBreak || blank == '\n' }

/-- A token at the place. -/
def token (place : Place) (kind : TokenKind) (text : List Char) : Token where
  kind
  text
  offset := place.offset
  startRow := place.row
  endRow := place.row + breaks text
  afterBreak := place.afterBreak
  comments := place.comments.reverse

/-- The place with a comment noted that begins there. -/
def note (place : Place) (text : List Char) : Place :=
  { place with comments := ⟨text, place.row, place.row + breaks text⟩ :: place.comments }

/-- The place with nothing noted since the last token. -/
def fresh (place : Place) : Place := { place with afterBreak := false, comments := [] }

end Place

/-- The tokens of the rest of a text.  The number tells how many characters at its
start belong to a token or comment that is already read. -/
def run : Nat -> Place -> List Char -> List Token
  | _, place, [] => [place.token .finish []]
  | covered + 1, place, char :: rest => run covered (place.advance char) rest
  | 0, place, char :: rest =>
      if isBlank char then run 0 (place.pass char) rest
      else
        match commentLength? (char :: rest) with
        | some length =>
            run (length - 1) ((place.note ((char :: rest).take length)).advance char) rest
        | none =>
            if char = '\x00' then
              place.token .mark [char] :: run 0 (place.fresh.advance char) rest
            else
              let (kind, further) := lexeme char rest
              place.token kind (char :: rest.take further) ::
                run further (place.fresh.advance char) rest

/-- The byte order mark, which is passed over at the start of a text. -/
def orderMark : Char := Char.ofNat 0xFEFF

end Lexer

/-- The tokens of a source text, with the end of the text as the last one. -/
def tokenize : List Char -> List Token
  | [] => Lexer.run 0 Lexer.Place.start []
  | char :: rest =>
      if char = Lexer.orderMark then Lexer.run 0 (Lexer.Place.start.pass char) rest
      else Lexer.run 0 Lexer.Place.start (char :: rest)

end Go
end ConfigWiring
