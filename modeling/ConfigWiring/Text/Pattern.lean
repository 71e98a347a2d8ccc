import ConfigWiring.Text.Blank
import ConfigWiring.Text.CaseMap
import ConfigWiring.Text.WordCharacter

/-!
# Patterns

A pattern describes parts of a text.  Its meaning is a relation between places of the
text: from where a part may begin to where it may end.  The relation is computed for
whole sets of places at once, so repetitions need no search.
-/

namespace ConfigWiring
namespace Text

/-- A set of characters. -/
inductive CharSet where
  | none
  | between (first last : Char)
  | word
  | digit
  | blank
  /-- The characters that differ from those of a set by case only. -/
  | anyCase (set : CharSet)
  | union (left right : CharSet)
  | meet (left right : CharSet)
  | outside (set : CharSet)
  deriving DecidableEq, Repr

namespace CharSet

/-- The characters that differ from one by case only. -/
def caseVariants (char : Char) : List Char :=
  let simple := fun (image : List Char) => if image.length = 1 then image else []
  let near := char :: simple (lower char) ++ simple (upper char)
  near ++ near.flatMap fun other => simple (lower other) ++ simple (upper other)

/-- Whether a set has a character. -/
def contains : CharSet -> Char -> Bool
  | none, _ => false
  | between first last, char => first ≤ char && char ≤ last
  | word, char => isWordChar char
  | digit, char => isDecimalDigit char
  | blank, char => isBlank char
  | anyCase set, char => (caseVariants char).any set.contains
  | union left right, char => left.contains char || right.contains char
  | meet left right, char => left.contains char && right.contains char
  | outside set, char => !set.contains char

/-- The set of one character. -/
def only (char : Char) : CharSet := between char char

end CharSet

/-- What may be asked of a place between two characters. -/
inductive Anchor where
  | textStart | textEnd | lineStart | lineEnd
  | wordBorder | noWordBorder | wordStart | wordEnd | noWordBefore | noWordBehind
  deriving DecidableEq, Repr

namespace Anchor

/-- Whether a place, given by the characters on its sides, is as asked. -/
def holds (before behind : Option Char) : Anchor -> Bool
  | textStart => before.isNone
  | textEnd => behind.isNone
  | lineStart => before.all (· == '\n')
  | lineEnd => behind.all (· == '\n')
  | wordBorder => before.any isWordChar != behind.any isWordChar
  | noWordBorder => before.any isWordChar == behind.any isWordChar
  | wordStart => !before.any isWordChar && behind.any isWordChar
  | wordEnd => before.any isWordChar && !behind.any isWordChar
  | noWordBefore => !before.any isWordChar
  | noWordBehind => !behind.any isWordChar

end Anchor

/-- A pattern. -/
inductive Pattern where
  | empty
  | oneOf (set : CharSet)
  | place (anchor : Anchor)
  | sequence (first second : Pattern)
  | choice (left right : Pattern)
  | repeat (least : Nat) (most : Option Nat) (body : Pattern)
  deriving Repr

namespace Pattern

/-- Places without repetitions. -/
def merge (known further : List Nat) : List Nat :=
  known ++ further.filter (!known.contains ·)

/-- The places reached by a number of steps. -/
def afterSteps (step : List Nat -> List Nat) : Nat -> List Nat -> List Nat
  | 0, places => places
  | count + 1, places => if places.isEmpty then [] else afterSteps step count (step places)

/-- The places reached by up to a number of steps from the newest of the known ones. -/
def withinSteps (step : List Nat -> List Nat) : Nat -> (known newest : List Nat) -> List Nat
  | 0, known, _ => known
  | count + 1, known, newest =>
      let further := (step newest).filter (!known.contains ·)
      if further.isEmpty then known else withinSteps step count (known ++ further) further

/-- The places where a part may end that begins at one of the given places. -/
def ends (text : Array Char) : Pattern -> List Nat -> List Nat
  | empty, places => places
  | oneOf set, places =>
      (places.filter fun start => (text[start]?).any set.contains).map (· + 1)
  | place anchor, places =>
      places.filter fun here =>
        anchor.holds (if here = 0 then none else text[here - 1]?) text[here]?
  | sequence first second, places => second.ends text (first.ends text places)
  | choice left right, places => merge (left.ends text places) (right.ends text places)
  | .repeat least most body, places =>
      let reached := afterSteps (body.ends text) least places
      withinSteps (body.ends text) ((most.map (· - least)).getD (text.size + 1)) reached reached

/-- Whether a part of a text is as the pattern describes. -/
def occursIn (pattern : Pattern) (text : List Char) : Bool :=
  !(pattern.ends text.toArray (List.range (text.length + 1))).isEmpty

end Pattern
end Text
end ConfigWiring
