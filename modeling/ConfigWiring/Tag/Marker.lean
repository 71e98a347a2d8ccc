import ConfigWiring.Tag.Params

/-!
# Markers in documentation text

A declaration is selected by a marker that stands in its documentation as a word
of its own, optionally followed by parameters in parentheses.  The first such
word decides; a parenthesis inside a quoted value does not close the list.
-/

namespace ConfigWiring
namespace Tag

open Text

/-- What a search for a marker found. -/
inductive MarkerMatch where
  /-- No whole-word occurrence. -/
  | absent
  /-- An occurrence, with the text between the parentheses behind it. -/
  | present (params : String)
  deriving DecidableEq, Repr

namespace Marker

/-- Whether a word may end in front of the given text. -/
def endsWord : List Char -> Bool
  | [] => true
  | char :: _ => isBlank char || char == '('

/-- The text behind the first whole-word occurrence of a marker.  The flag tells
whether a word may begin at the start of the text. -/
def behindFirst (marker : List Char) : Bool -> List Char -> Option (List Char)
  | _, [] => none
  | mayBegin, char :: rest =>
      let behind := (char :: rest).drop marker.length
      if mayBegin && marker.isPrefixOf (char :: rest) && endsWord behind then some behind
      else behindFirst marker (isBlank char) rest

/-- The text up to the first closing parenthesis outside double quotes.  The flag
tells whether the text starts inside quotes, where a backslash takes the next
character along. -/
def untilParen : Bool -> List Char -> Option (List Char)
  | _, [] => none
  | false, char :: rest =>
      if char = ')' then some [] else (untilParen (char == '"') rest).map (char :: ·)
  | true, '\\' :: escaped :: rest =>
      (untilParen true rest).map fun text => '\\' :: escaped :: text
  | true, char :: rest => (untilParen (char != '"') rest).map (char :: ·)

/-- The parameter text behind a marker: what stands in parentheses after spaces
and tabs, or nothing if no parenthesis opens. -/
def paramsBehind (behind : List Char) : Except SyntaxError (List Char) :=
  match behind.dropWhile fun char => char == ' ' || char == '\t' with
  | '(' :: inside =>
      match untilParen false inside with
      | some text => .ok text
      | none => .error .unclosedParen
  | _ => .ok []

/-- Look for a marker in documentation text.  An empty marker is never found. -/
def find (doc marker : String) : Except SyntaxError MarkerMatch :=
  if marker.isEmpty then .ok .absent
  else
    match behindFirst marker.toList true doc.toList with
    | none => .ok .absent
    | some behind => (paramsBehind behind).map fun text => .present (String.ofList text)

end Marker
end Tag
end ConfigWiring
