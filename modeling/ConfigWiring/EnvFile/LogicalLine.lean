import ConfigWiring.Text.Blank

/-!
# Logical lines of env files

A line of an env file goes on behind a line feed while a quote is open.  A backslash
covers the character behind it, in either kind of quotes as well as outside of them,
and a blank followed by a number sign begins a comment that reaches to the end of
the line.  A text that ends inside of quotes, behind a backslash or behind a blank
leaves its last logical line unfinished.
-/

namespace ConfigWiring
namespace EnvFile

open Text

/-- What is open at a place of the text. -/
inductive LineState where
  /-- Nothing. -/
  | plain
  /-- A backslash outside of quotes. -/
  | escape
  /-- A blank behind which a comment may begin. -/
  | blank
  /-- Double quotes. -/
  | weak
  /-- A backslash inside of double quotes. -/
  | weakEscape
  /-- Single quotes. -/
  | strong
  /-- A backslash inside of single quotes. -/
  | strongEscape
  deriving DecidableEq, Repr

namespace LineState

/-- What a character opens outside of quotes. -/
def opening (char : Char) : LineState :=
  match char with
  | '\\' => escape
  | '"' => weak
  | '\'' => strong
  | _ => plain

/-- The state behind one more character, unless a comment begins with it. -/
def next? : LineState -> Char -> Option LineState
  | plain, char =>
      if isBlank char && char != '\n' && char != '\r' then some blank else some (opening char)
  | blank, char => if char = '#' then none else some (opening char)
  | escape, _ => some plain
  | weak, char =>
      some (if char = '\\' then weakEscape else if char = '"' then plain else weak)
  | weakEscape, _ => some weak
  | strong, char =>
      some (if char = '\\' then strongEscape else if char = '\'' then plain else strong)
  | strongEscape, _ => some strong

end LineState

/-- Where a line ends. -/
inductive LineEnd where
  /-- At the end of the line, in a state. -/
  | inState (state : LineState)
  /-- In front of a comment, behind the given text. -/
  | beforeComment (text : List Char)
  deriving DecidableEq, Repr

namespace LineState

/-- Follow a line from a state. -/
def run : LineState -> List Char -> LineEnd
  | state, [] => .inState state
  | state, char :: rest =>
      match state.next? char with
      | none => .beforeComment []
      | some behind =>
          match behind.run rest with
          | .inState last => .inState last
          | .beforeComment text => .beforeComment (char :: text)

@[simp] theorem run_nil (state : LineState) : state.run [] = .inState state := by
  rw [run]

end LineState

/-- The lines of a text, each with its line feed. -/
def keptLines : List Char -> List (List Char)
  | [] => []
  | char :: rest =>
      if char = '\n' then [char] :: keptLines rest
      else
        match keptLines rest with
        | [] => [[char]]
        | line :: lines => (char :: line) :: lines

theorem flatten_keptLines (text : List Char) : (keptLines text).flatten = text := by
  induction text with
  | nil => rfl
  | cons char rest ih =>
      rw [keptLines]
      split
      · simp [ih]
      · split
        · next none => simpa [none] using ih
        · next line lines some =>
            rw [some] at ih
            simpa using ih

/-- Whether a text is a comment as a whole. -/
def isComment (text : List Char) : Bool := (trimStart text).head? == some '#'

/-- The logical lines that begin with the given lines, seen from the text of an open
logical line and its state; an unfinished one is `none`. -/
def logicalLinesFrom :
    (begun : List Char) -> LineState -> List (List Char) -> List (Option (List Char))
  | _, .plain, [] => []
  | _, _, [] => [none]
  | begun, state, line :: lines =>
      if isComment (begun ++ line) then logicalLinesFrom [] .plain lines
      else
        match state.run line with
        | .beforeComment text => some (begun ++ text) :: logicalLinesFrom [] .plain lines
        | .inState .plain => some (begun ++ line) :: logicalLinesFrom [] .plain lines
        | .inState state => logicalLinesFrom (begun ++ line) state lines

/-- The logical lines of a text that are no comments; an unfinished one is `none`. -/
def logicalLines (text : List Char) : List (Option (List Char)) :=
  logicalLinesFrom [] .plain (keptLines text)

end EnvFile
end ConfigWiring
