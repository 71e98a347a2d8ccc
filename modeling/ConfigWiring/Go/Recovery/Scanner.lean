import ConfigWiring.Go.Lexer
import ConfigWiring.Go.Recovery.Terminal

/-!
# Looking for terminals

Which terminal stands at a place depends on which ones are looked for: a line feed is
a blank unless a line may end there, and two marks in a row are one longer mark only
where that one fits.  Of the terminals that are looked for the longest one is taken.
-/

namespace ConfigWiring
namespace Go
namespace Recovery

open Text

/-- A source text, prepared for looking at any of its places. -/
structure SourceText where
  chars : Array Char
  /-- What stands behind each place. -/
  rests : Array (List Char)
  /-- The number of bytes in front of each place. -/
  bytes : Array Nat
  /-- The number of line feeds in front of each place. -/
  rows : Array Nat

namespace SourceText

/-- The rests of a text, the whole text first and the empty one last. -/
def restsOf : List Char -> List (List Char)
  | [] => [[]]
  | char :: rest => (char :: rest) :: restsOf rest

/-- The sums of the sizes of the first characters. -/
def sums (size : Char -> Nat) : Nat -> List Char -> List Nat
  | sum, [] => [sum]
  | sum, char :: rest => sum :: sums size (sum + size char) rest

/-- Prepare a text. -/
def ofChars (text : List Char) : SourceText where
  chars := text.toArray
  rests := (restsOf text).toArray
  bytes := (sums Char.utf8Size 0 text).toArray
  rows := (sums (fun char => if char = '\n' then 1 else 0) 0 text).toArray

/-- The number of characters. -/
def length (source : SourceText) : Nat := source.chars.size

/-- What stands behind a place. -/
def rest (source : SourceText) (place : Nat) : List Char := source.rests.getD place []

/-- The text between two places. -/
def between (source : SourceText) (start stop : Nat) : List Char :=
  (source.rest start).take (stop - start)

end SourceText

/-- Where a terminal stands. -/
structure Find where
  terminal : Nat
  start : Nat
  stop : Nat
  deriving DecidableEq, Repr

namespace Scanner

/-- The length of the longest escape at the start of a text; zero without one. -/
def escapeLength : List Char -> Nat
  | '\\' :: char :: rest =>
      let hex := (rest.takeWhile Number.isHexDigit).length
      if char = 'x' then if hex ≥ 2 then 2 + hex else 0
      else if char = 'u' then if hex ≥ 4 then 6 else 0
      else if char = 'U' then if hex ≥ 8 then 10 else 0
      else
        let digits := ((char :: rest).take 3).takeWhile Char.isDigit
        if digits.length ≥ 2 then 1 + digits.length else 2
  | _ => 0

/-- The length of a rune with its quotes; zero without one. -/
def runeLength : List Char -> Nat
  | '\'' :: rest => ((Lexer.runeLength? rest).map (· + 1)).getD 0
  | _ => 0

/-- A terminal that is looked for, with its length, if it is not empty. -/
def candidate? (sought : TerminalSet) (terminal : Terminal) (length : Nat) :
    Option (Nat × Nat) :=
  if length > 0 && sought.contains terminal.code then some (terminal.code, length) else none

/-- The terminals inside a string that stand at the start of a text. -/
def inString? (sought : TerminalSet) (text : List Char) : Option (Nat × Nat) :=
  let quoted := text.takeWhile fun char => char != '"' && char != '\n' && char != '\\'
  let raw := text.takeWhile (· != Char.ofNat 96)
  let closing := if text.head? = some '"' then 1 else 0
  (candidate? sought .quotedText quoted.length).or
    ((candidate? sought .closingQuote closing).or
      ((candidate? sought .escape (escapeLength text)).or
        (candidate? sought .rawText raw.length)))

/-- The longer of two candidates; of equally long ones the first. -/
def longer (first second : Option (Nat × Nat)) : Option (Nat × Nat) :=
  match first, second with
  | some (terminal, length), some (terminal', length') =>
      if length' > length then some (terminal', length') else some (terminal, length)
  | some found, none => some found
  | none, found => found

/-- The mark at the start of a text. -/
def mark? (sought : TerminalSet) (text : List Char) : Option (Nat × Nat) :=
  (Terminal.marks.find? fun (spelling, code) =>
      sought.contains code && spelling.isPrefixOf text).map
    fun (spelling, code) => (code, spelling.length)

/-- The terminal at the start of a text that does not begin with a blank. -/
def lexeme? (sought : TerminalSet) (text : List Char) : Option (Nat × Nat) :=
  let zeroes := if text.head? = some '\x00' then 1 else 0
  (candidate? sought .zero zeroes).or
    ((candidate? sought .comment ((Lexer.commentLength? text).getD 0)).or
      ((candidate? sought .identifier
          (if text.head?.any isIdentifierStart then
            (text.takeWhile isIdentifierContinue).length.max 1
          else 0)).or
        ([candidate? sought .whole (Number.whole text),
            candidate? sought .fractional (Number.fractional text),
            candidate? sought .imaginary (Number.imaginary text),
            candidate? sought .rune (runeLength text)].foldl longer (mark? sought text))))

/-- The number of blanks at the start of a text in front of the terminal behind
them.  Line feeds are no blanks if they are looked for. -/
def blankCount (breaks : Bool) (text : List Char) : Nat :=
  (text.takeWhile fun char => isBlank char && !(breaks && char == '\n')).length

/-- The blanks in front of the terminal at a place; a byte order mark is one at the
start of the text. -/
def skipBlanks (breaks : Bool) (place : Nat) (text : List Char) : Nat :=
  match place, text with
  | 0, char :: rest =>
      if char = Lexer.orderMark then 1 + blankCount breaks rest
      else blankCount breaks (char :: rest)
  | _, text => blankCount breaks text

/-- Where the next terminal stands that is looked for, or only where something else
stands. -/
def find (sought : TerminalSet) (source : SourceText) (place : Nat) : Except Nat Find :=
  let text := source.rest place
  match inString? sought text with
  | some (terminal, length) => .ok ⟨terminal, place, place + length⟩
  | none =>
      let breaks := sought.contains Terminal.lineBreak.code
      let start := place + skipBlanks breaks place text
      let rest := source.rest start
      match rest with
      | [] => .ok ⟨Terminal.finish.code, start, start⟩
      | char :: _ =>
          if char = '\n' && breaks then
            .ok ⟨Terminal.lineBreak.code, start, start + (rest.takeWhile (· == '\n')).length⟩
          else
            match lexeme? sought rest with
            | some (terminal, length) => .ok ⟨terminal, start, start + length⟩
            | none => .error start

/-! ## Text that is no terminal -/

/-- How many characters of a text are looked at in vain for a number of hexadecimal
digits. -/
def hexAttempt (count : Nat) (text : List Char) : Nat :=
  ((text.take count).takeWhile Number.isHexDigit).length

/-- How many characters are looked at in vain behind the backslash in a rune. -/
def runeEscapeAttempt : List Char -> Nat
  | [] => 0
  | char :: rest =>
      if char = 'x' then 1 + hexAttempt 2 rest
      else if char = 'u' then 1 + hexAttempt 4 rest
      else if char = 'U' then 1 + hexAttempt 8 rest
      else if Number.isOctalDigit char then
        (((char :: rest).take 3).takeWhile Number.isOctalDigit).length
      else if "abfnrtv\\'\"".toList.contains char then 1
      else 0

/-- How many characters are looked at in vain behind the backslash of an escape. -/
def escapeAttempt : List Char -> Nat
  | [] => 0
  | char :: rest =>
      if char = 'x' then 1 + hexAttempt 2 rest
      else if char = 'u' then 1 + hexAttempt 4 rest
      else if char = 'U' then 1 + hexAttempt 8 rest
      else 0

/-- How many characters of a text are looked at before it turns out that no terminal
begins there.  Escapes begin only where no blank has been skipped. -/
def attempt (direct : Bool) : List Char -> Nat
  | '\'' :: '\\' :: rest => 2 + runeEscapeAttempt rest
  | ['\''] => 1
  | '\'' :: char :: _ => if char = '\'' then 1 else 2
  | '\\' :: rest => if direct then 1 + escapeAttempt rest else 0
  | _ => 0

/-- The end of a text without terminals, from where it was last looked at.  It ends
in front of the next place from which a terminal can be found. -/
def strayEnd (source : SourceText) : Nat -> Nat -> Nat -> Nat
  | 0, stop, _ => stop
  | bound + 1, stop, reached =>
      if reached = stop && reached ≥ source.length then stop
      else
        let stop := if reached = stop then reached + 1 else reached
        match find Terminal.soughtSet source stop with
        | .ok _ => stop
        | .error start => strayEnd source bound stop
            (start + attempt (start == stop) (source.rest start))

end Scanner
end Recovery
end Go
end ConfigWiring
