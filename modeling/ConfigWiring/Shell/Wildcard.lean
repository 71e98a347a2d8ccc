/-!
# Wildcards

A pattern fits a text as a whole.  A star stands for any text, a question mark for any
character and a list in brackets for one of its characters; what is quoted stands for
itself.
-/

namespace ConfigWiring
namespace Shell

/-- A part of a pattern. -/
inductive Wildcard where
  | exactly (char : Char)
  | anyChar
  | anyText
  /-- A character between two others, or none of them. -/
  | range (negated : Bool) (members : List (Char × Char))
  deriving DecidableEq, Repr

/-- A character with the mark whether it is quoted. -/
abbrev MarkedChar : Type := Char × Bool

namespace Wildcard

/-- The characters of a list in brackets and what stands behind the bracket that closes
it; the flag tells whether a closing bracket would be the first character. -/
def listed? : Bool -> List MarkedChar -> Option (List Char × List MarkedChar)
  | _, [] => none
  | isFirst, (char, quoted) :: rest =>
      if char = ']' && !quoted && !isFirst then some ([], rest)
      else (listed? false rest).map fun (chars, behind) => (char :: chars, behind)

/-- The ranges in a list of characters; a hyphen between two of them makes one. -/
def ranges : List Char -> List (Char × Char)
  | [] => []
  | first :: '-' :: last :: rest => (first, last) :: ranges rest
  | char :: rest => (char, char) :: ranges rest

/-- The parts of a pattern.  The number bounds its length. -/
def read : Nat -> List MarkedChar -> List Wildcard
  | 0, _ => []
  | _, [] => []
  | bound + 1, (char, quoted) :: rest =>
      if quoted then exactly char :: read bound rest
      else if char = '*' then anyText :: read bound rest
      else if char = '?' then anyChar :: read bound rest
      else if char = '[' then
        let negated := rest.head? == some ('!', false) || rest.head? == some ('^', false)
        match listed? true (if negated then rest.drop 1 else rest) with
        | some (chars, behind) => range negated (ranges chars) :: read bound behind
        | none => exactly char :: read bound rest
      else exactly char :: read bound rest

/-- The parts of a pattern. -/
def ofMarked (pattern : List MarkedChar) : List Wildcard := read pattern.length pattern

/-- Whether a part fits a single character. -/
def fitsChar (char : Char) : Wildcard -> Bool
  | exactly own => own == char
  | anyChar => true
  | anyText => false
  | range negated members =>
      members.any (fun (first, last) => first ≤ char && char ≤ last) != negated

/-- Whether a pattern fits a text. -/
def fits : List Wildcard -> List Char -> Bool
  | [], text => text.isEmpty
  | anyText :: pattern, [] => fits pattern []
  | anyText :: pattern, char :: text =>
      fits pattern (char :: text) || fits (anyText :: pattern) text
  | _ :: _, [] => false
  | part :: pattern, char :: text => part.fitsChar char && fits pattern text
termination_by pattern text => pattern.length + text.length

/-- The text without the start of a certain length, for the first of some lengths whose
start fits a pattern. -/
def dropStart (pattern : List Wildcard) (text : List Char) (lengths : List Nat) : List Char :=
  match lengths.find? fun length => fits pattern (text.take length) with
  | some length => text.drop length
  | none => text

/-- The text without the end behind a certain length, for the first of some lengths
behind which the end fits a pattern. -/
def dropEnd (pattern : List Wildcard) (text : List Char) (lengths : List Nat) : List Char :=
  match lengths.find? fun length => fits pattern (text.drop length) with
  | some length => text.take length
  | none => text

/-- The text without its shortest or longest start that fits a pattern. -/
def withoutStart (longest : Bool) (pattern : List Wildcard) (text : List Char) : List Char :=
  let lengths := List.range (text.length + 1)
  dropStart pattern text (if longest then lengths.reverse else lengths)

/-- The text without its shortest or longest end that fits a pattern. -/
def withoutEnd (longest : Bool) (pattern : List Wildcard) (text : List Char) : List Char :=
  let lengths := List.range (text.length + 1)
  dropEnd pattern text (if longest then lengths else lengths.reverse)

end Wildcard
end Shell
end ConfigWiring
