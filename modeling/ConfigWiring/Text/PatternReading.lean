import ConfigWiring.Text.Pattern
import ConfigWiring.Text.Split

/-!
# Reading patterns

The written form of patterns: characters stand for themselves, brackets list sets, and
`*`, `+`, `?` and counts in braces repeat what stands before them.  Groups may be named,
and letters behind a question mark switch modes on and off.  A pattern that is not
well-formed is refused as a whole.
-/

namespace ConfigWiring
namespace Text
namespace Pattern

/-- The modes that a pattern is read in. -/
structure Mode where
  /-- Letters stand for both cases. -/
  anyCase : Bool
  /-- The starts and ends of lines count as those of the text. -/
  lines : Bool
  /-- The point stands for line feeds, too. -/
  allChars : Bool
  /-- Blanks and remarks between the parts of the pattern are skipped. -/
  spaced : Bool
  deriving DecidableEq, Repr

namespace Mode

/-- The mode at the start of a pattern. -/
def plain : Mode := ⟨false, false, false, false⟩

/-- The mode with one letter switched on or off; letters without an effect on whether a
pattern occurs change nothing. -/
def switch? (letter : Char) (value : Bool) (mode : Mode) : Option Mode :=
  match letter with
  | 'i' => some { mode with anyCase := value }
  | 'm' => some { mode with lines := value }
  | 's' => some { mode with allChars := value }
  | 'x' => some { mode with spaced := value }
  | 'U' | 'u' | 'R' => some mode
  | _ => none

/-- A set as the mode takes it. -/
def set (mode : Mode) (set : CharSet) : CharSet := if mode.anyCase then .anyCase set else set

end Mode

/-- The text without what a mode skips. -/
def skipIdle (mode : Mode) : (bound : Nat) -> List Char -> List Char
  | 0, text => text
  | bound + 1, text =>
      if !mode.spaced then text
      else
        match text with
        | '#' :: rest => skipIdle mode bound (rest.dropWhile (· != '\n'))
        | char :: rest => if isBlank char then skipIdle mode bound rest else text
        | [] => []

/-- The value of digits of base sixteen. -/
def hexValue? (digits : List Char) : Option Nat :=
  if digits.isEmpty then none
  else
    digits.foldlM (fun value char =>
      if char.isDigit then some (16 * value + (char.toNat - '0'.toNat))
      else if 'a' ≤ char && char ≤ 'f' then some (16 * value + (char.toNat - 'a'.toNat + 10))
      else if 'A' ≤ char && char ≤ 'F' then some (16 * value + (char.toNat - 'A'.toNat + 10))
      else none) 0

/-- The character of a code point, if there is one. -/
def charOf? (code : Nat) : Option Char :=
  if code.isValidChar then some (Char.ofNat code) else none

/-- The character that hexadecimal digits name: in braces, or as many as told. -/
def codedChar? (length : Nat) (text : List Char) : Option (Char × List Char) :=
  match text with
  | '{' :: rest =>
      let digits := rest.takeWhile (· != '}')
      match rest.drop digits.length with
      | _ :: after => ((hexValue? digits).bind charOf?).map fun char => (char, after)
      | [] => none
  | text =>
      if text.length < length then none
      else ((hexValue? (text.take length)).bind charOf?).map fun char => (char, text.drop length)

/-- A character behind a backslash that stands for one character. -/
def escapedChar? : List Char -> Option (Char × List Char)
  | 'x' :: rest => codedChar? 2 rest
  | 'u' :: rest => codedChar? 4 rest
  | 'U' :: rest => codedChar? 8 rest
  | 'a' :: rest => some ('\x07', rest)
  | 'f' :: rest => some ('\x0c', rest)
  | 't' :: rest => some ('\t', rest)
  | 'n' :: rest => some ('\n', rest)
  | 'r' :: rest => some ('\r', rest)
  | 'v' :: rest => some ('\x0b', rest)
  | char :: rest =>
      if char.toNat < 0x80 && !char.isAlphanum && char != '<' && char != '>' then
        some (char, rest)
      else none
  | [] => none

/-- The set that a letter behind a backslash names. -/
def escapedSet? : List Char -> Option (CharSet × List Char)
  | 'd' :: rest => some (.digit, rest)
  | 'D' :: rest => some (.outside .digit, rest)
  | 's' :: rest => some (.blank, rest)
  | 'S' :: rest => some (.outside .blank, rest)
  | 'w' :: rest => some (.word, rest)
  | 'W' :: rest => some (.outside .word, rest)
  | _ => none

/-- The anchor that stands behind a backslash. -/
def escapedAnchor? : List Char -> Option (Anchor × List Char)
  | 'A' :: rest => some (.textStart, rest)
  | 'z' :: rest => some (.textEnd, rest)
  | 'B' :: rest => some (.noWordBorder, rest)
  | '<' :: rest => some (.wordStart, rest)
  | '>' :: rest => some (.wordEnd, rest)
  | 'b' :: rest =>
      let named := [("\x7bstart\x7d", Anchor.wordStart), ("\x7bend\x7d", .wordEnd),
        ("\x7bstart-half\x7d", .noWordBefore), ("\x7bend-half\x7d", .noWordBehind)]
      some ((named.findSome? fun (name, anchor) =>
        (behind? name.toList rest).map fun after => (anchor, after)).getD (.wordBorder, rest))
  | _ => none

/-- The sets with names between colons. -/
def namedSet? (name : String) : Option CharSet :=
  let lower := CharSet.between 'a' 'z'
  let upper := CharSet.between 'A' 'Z'
  let digits := CharSet.between '0' '9'
  let alpha := CharSet.union lower upper
  let alnum := CharSet.union alpha digits
  let graph := CharSet.between '!' '~'
  match name with
  | "alnum" => some alnum
  | "alpha" => some alpha
  | "ascii" => some (.between '\x00' '\x7f')
  | "blank" => some (.union (.only '\t') (.only ' '))
  | "cntrl" => some (.union (.between '\x00' '\x1f') (.only '\x7f'))
  | "digit" => some digits
  | "graph" => some graph
  | "lower" => some lower
  | "print" => some (.between ' ' '~')
  | "punct" => some (.meet graph (.outside alnum))
  | "space" => some (.union (.between '\t' '\r') (.only ' '))
  | "upper" => some upper
  | "word" => some (.union alnum (.only '_'))
  | "xdigit" => some (.union digits (.union (.between 'a' 'f') (.between 'A' 'F')))
  | _ => none

/-- A set with a name between colons and brackets. -/
def colonSet? (text : List Char) : Option (CharSet × List Char) :=
  (behind? "[:".toList text).bind fun rest =>
    let (negated, body) := match rest with
      | '^' :: body => (true, body)
      | body => (false, body)
    let name := body.takeWhile (· != ':')
    match behind? ":]".toList (body.drop name.length), namedSet? (String.ofList name) with
    | some after, some found => some (if negated then .outside found else found, after)
    | _, _ => none

/-- One character of a set. -/
def memberChar? : List Char -> Option (Char × List Char)
  | '\\' :: rest => escapedChar? rest
  | '[' :: _ => none
  | char :: rest => some (char, rest)
  | [] => none

/-- One character of a set, or a range of characters. -/
def memberRange? (mode : Mode) (text : List Char) : Option (CharSet × List Char) :=
  match memberChar? text with
  | none => none
  | some (first, rest) =>
      match skipIdle mode rest.length rest with
      | '-' :: behind =>
          match skipIdle mode behind.length behind with
          | ']' :: _ | '-' :: _ => some (mode.set (.only first), rest)
          | behind =>
              match memberChar? behind with
              | some (last, after) =>
                  if first ≤ last then some (mode.set (.between first last), after) else none
              | none => none
      | _ => some (mode.set (.only first), rest)

mutual

/-- The set behind an opening bracket, up to the closing one. -/
def set? (mode : Mode) : (bound : Nat) -> List Char -> Option (CharSet × List Char)
  | 0, _ => none
  | bound + 1, text =>
      let (negated, body) := match text with
        | '^' :: body => (true, body)
        | body => (false, body)
      let start := skipIdle mode body.length body
      let (lead, rest) := leadingHyphens .none start
      let (lead, rest) := match rest with
        | ']' :: rest => if lead = .none then (CharSet.only ']', rest) else (lead, ']' :: rest)
        | rest => (lead, rest)
      (members? mode bound none lead rest).map fun (found, after) =>
        (if negated then .outside found else found, after)

/-- The hyphens at the start of a set. -/
def leadingHyphens (found : CharSet) : List Char -> CharSet × List Char
  | '-' :: rest => leadingHyphens (.only '-') rest
  | text => (found, text)

/-- The rest of a set behind the members found so far, and behind an operation that
waits for them. -/
def members? (mode : Mode) : (bound : Nat) -> Option (CharSet × Char) -> CharSet -> List Char ->
    Option (CharSet × List Char)
  | 0, _, _, _ => none
  | bound + 1, pending, found, text =>
      match skipIdle mode text.length text with
      | [] => none
      | ']' :: rest => some (combine pending found, rest)
      | '&' :: '&' :: rest => members? mode bound (some (combine pending found, '&')) .none rest
      | '-' :: '-' :: rest => members? mode bound (some (combine pending found, '-')) .none rest
      | '~' :: '~' :: rest => members? mode bound (some (combine pending found, '~')) .none rest
      | '[' :: rest =>
          match colonSet? ('[' :: rest) with
          | some (named, after) => members? mode bound pending (.union found (mode.set named)) after
          | none =>
              match set? mode bound rest with
              | some (inner, after) => members? mode bound pending (.union found inner) after
              | none => none
      | text =>
          match text with
          | '\\' :: rest =>
              match escapedSet? rest with
              | some (named, after) => members? mode bound pending (.union found named) after
              | none => addRange? mode bound pending found text
          | text => addRange? mode bound pending found text

/-- The rest of a set that begins with a character or a range. -/
def addRange? (mode : Mode) : (bound : Nat) -> Option (CharSet × Char) -> CharSet -> List Char ->
    Option (CharSet × List Char)
  | 0, _, _, _ => none
  | bound + 1, pending, found, text =>
      match memberRange? mode text with
      | some (range, after) => members? mode bound pending (.union found range) after
      | none => none

/-- The members of a set with those that an operation waits with. -/
def combine : Option (CharSet × Char) -> CharSet -> CharSet
  | none, found => found
  | some (left, '&'), found => .meet left found
  | some (left, '-'), found => .meet left (.outside found)
  | some (left, _), found =>
      .union (.meet left (.outside found)) (.meet found (.outside left))

end

/-- The number at the start of a text. -/
def count? (text : List Char) : Option (Nat × List Char) :=
  let digits := text.takeWhile Char.isDigit
  if digits.isEmpty then none
  else
    let value := digits.foldl (fun value char => 10 * value + (char.toNat - '0'.toNat)) 0
    if value < Nat.pow 2 32 then some (value, text.drop digits.length) else none

/-- The counts behind an opening brace, up to the closing one. -/
def counts? (text : List Char) : Option (Nat × Option Nat × List Char) :=
  match count? text with
  | some (least, '}' :: rest) => some (least, some least, rest)
  | some (least, ',' :: '}' :: rest) => some (least, none, rest)
  | some (least, ',' :: rest) =>
      match count? rest with
      | some (most, '}' :: after) => if least ≤ most then some (least, some most, after) else none
      | _ => none
  | _ => none

/-- The text without a question mark at its start. -/
def skipLazy : List Char -> List Char
  | '?' :: rest => rest
  | text => text

/-- A pattern with the repetitions behind it. -/
def repeated? (mode : Mode) : (bound : Nat) -> Pattern -> List Char ->
    Option (Pattern × List Char)
  | 0, pattern, text => some (pattern, text)
  | bound + 1, pattern, text =>
      match skipIdle mode text.length text with
      | '*' :: rest => repeated? mode bound (.repeat 0 none pattern) (skipLazy rest)
      | '+' :: rest => repeated? mode bound (.repeat 1 none pattern) (skipLazy rest)
      | '?' :: rest => repeated? mode bound (.repeat 0 (some 1) pattern) (skipLazy rest)
      | '{' :: rest =>
          match counts? rest with
          | some (least, most, after) =>
              repeated? mode bound (.repeat least most pattern) (skipLazy after)
          | none => none
      | text => some (pattern, text)

/-- The modes that letters switch, up to a colon or the end of a group. -/
def modes? (value : Bool) (mode : Mode) : List Char -> Option (Mode × List Char)
  | '-' :: rest => if value then modes? false mode rest else none
  | ':' :: rest => some (mode, ':' :: rest)
  | ')' :: rest => some (mode, ')' :: rest)
  | letter :: rest => (mode.switch? letter value).bind fun mode => modes? value mode rest
  | [] => none

/-- The text behind the name of a group. -/
def behindGroupName? (text : List Char) : Option (List Char) :=
  let name := text.takeWhile (· != '>')
  let wellFormed := match name with
    | first :: rest => (first.isAlpha || first == '_') &&
        rest.all fun char => char.isAlphanum || "_.[]".toList.contains char
    | [] => false
  match text.drop name.length with
  | _ :: after => if wellFormed then some after else none
  | [] => none

/-- How a group begins: whether it only switches modes for what follows, its mode, and
the text behind its beginning. -/
def groupStart? (mode : Mode) (text : List Char) : Option (Bool × Mode × List Char) :=
  match text with
  | '?' :: 'P' :: '<' :: rest => (behindGroupName? rest).map fun after => (false, mode, after)
  | '?' :: '<' :: rest => (behindGroupName? rest).map fun after => (false, mode, after)
  | '?' :: ')' :: _ => none
  | '?' :: rest =>
      match modes? true mode rest with
      | some (inner, ':' :: after) => some (false, inner, after)
      | some (inner, ')' :: after) => some (true, inner, after)
      | _ => none
  | text => some (false, mode, text)

/-- The point: every character, or every one but the line feed. -/
def point (mode : Mode) : CharSet :=
  if mode.allChars then .outside .none else .outside (.only '\n')

mutual

/-- The alternatives up to the end of the text or of the group. -/
def choices? : (bound : Nat) -> Mode -> List Char -> Option (Pattern × List Char)
  | 0, _, _ => none
  | bound + 1, mode, text =>
      match parts? bound mode text with
      | none => none
      | some (first, mode, '|' :: rest) =>
          (choices? bound mode rest).map fun (others, after) => (.choice first others, after)
      | some (first, _, rest) => some (first, rest)

/-- The parts up to the next alternative, with the mode behind them. -/
def parts? : (bound : Nat) -> Mode -> List Char -> Option (Pattern × Mode × List Char)
  | 0, _, _ => none
  | bound + 1, mode, text =>
      match skipIdle mode text.length text with
      | [] => some (.empty, mode, [])
      | '|' :: rest => some (.empty, mode, '|' :: rest)
      | ')' :: rest => some (.empty, mode, ')' :: rest)
      | '(' :: rest =>
          match groupStart? mode rest with
          | none => none
          | some (true, mode, after) => parts? bound mode after
          | some (false, inner, inside) =>
              match choices? bound inner inside with
              | some (group, ')' :: after) => continued? bound mode group after
              | _ => none
      | '[' :: rest =>
          match set? mode bound rest with
          | some (found, after) => continued? bound mode (.oneOf found) after
          | none => none
      | '.' :: rest => continued? bound mode (.oneOf (point mode)) rest
      | '^' :: rest =>
          continued? bound mode (.place (if mode.lines then .lineStart else .textStart)) rest
      | '$' :: rest =>
          continued? bound mode (.place (if mode.lines then .lineEnd else .textEnd)) rest
      | '\\' :: rest =>
          match escapedSet? rest, escapedAnchor? rest, escapedChar? rest with
          | some (found, after), _, _ => continued? bound mode (.oneOf found) after
          | none, some (anchor, after), _ => continued? bound mode (.place anchor) after
          | none, none, some (char, after) =>
              continued? bound mode (.oneOf (mode.set (.only char))) after
          | none, none, none => none
      | char :: rest =>
          if "*+?\x7b".toList.contains char then none
          else continued? bound mode (.oneOf (mode.set (.only char))) rest

/-- A part with its repetitions, and the parts behind it. -/
def continued? : (bound : Nat) -> Mode -> Pattern -> List Char ->
    Option (Pattern × Mode × List Char)
  | 0, _, _, _ => none
  | bound + 1, mode, first, text =>
      (repeated? mode text.length first text).bind fun (first, rest) =>
        (parts? bound mode rest).map fun (others, found) => (.sequence first others, found)

end

/-- Read a pattern. -/
def read? (text : List Char) : Option Pattern :=
  match choices? (4 * text.length + 4) .plain text with
  | some (pattern, []) => some pattern
  | _ => none

end Pattern
end Text
end ConfigWiring
