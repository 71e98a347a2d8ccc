import ConfigWiring.Shell.Calculation

/-!
# Texts to write

Words are written one behind another, or as a format says.  Both know escapes for
characters that are hard to spell, and one escape ends the text.
-/

namespace ConfigWiring
namespace Shell
namespace Output

/-- The character that a letter behind a backslash stands for. -/
def escapes : List (Char × Char) :=
  [('a', Char.ofNat 7), ('b', Char.ofNat 8), ('f', Char.ofNat 12), ('n', '\n'), ('r', '\r'),
    ('t', '\t'), ('v', Char.ofNat 11), ('\\', '\\')]

/-- The character that octal digits spell. -/
def octalChar (digits : List Char) : Char :=
  Char.ofNat (digits.foldl (fun number digit => number * 8 + (digit.toNat - '0'.toNat)) 0 % 256)

/-- Whether a character is an octal digit. -/
def isOctal (char : Char) : Bool := '0' ≤ char && char ≤ '7'

/-- A text with its escapes replaced, and whether an escape ends it.  The flag tells
whether octal digits have a zero in front; the number bounds the length. -/
def unescape (zeroInFront : Bool) : Nat -> List Char -> List Char × Bool
  | 0, text => (text, false)
  | _, [] => ([], false)
  | bound + 1, '\\' :: char :: rest =>
      let go (chars : List Char) (rest : List Char) : List Char × Bool :=
        let (text, ended) := unescape zeroInFront bound rest
        (chars ++ text, ended)
      let digits := ((char :: rest).take 3).takeWhile isOctal
      if char = 'c' && zeroInFront then ([], true)
      else if char = '0' && zeroInFront then
        let digits := (rest.take 3).takeWhile isOctal
        go [octalChar digits] (rest.drop digits.length)
      else if !digits.isEmpty && !zeroInFront then
        go [octalChar digits] ((char :: rest).drop digits.length)
      else
        match escapes.lookup char with
        | some escaped => go [escaped] rest
        | none => go ['\\', char] rest
  | bound + 1, char :: rest =>
      let (text, ended) := unescape zeroInFront bound rest
      (char :: text, ended)

/-- The text of some words, which ends a line unless the first word says otherwise. -/
def words (given : List String) : String :=
  let (finish, given) :=
    match given with
    | "-n" :: rest => ("", rest)
    | _ => ("\n", given)
  let joined := (" ".intercalate given).toList
  let (text, ended) := unescape true joined.length joined
  String.ofList text ++ if ended then "" else finish

/-! ## Formats -/

/-- How a field of a format is laid out. -/
structure Layout where
  toLeft : Bool
  withZeros : Bool
  withSign : Bool
  width : Nat
  precision : Option Nat

namespace Layout

/-- A text at its place in a field. -/
def place (layout : Layout) (text : List Char) : List Char :=
  let gap := layout.width - text.length
  if layout.toLeft then text ++ List.replicate gap ' ' else List.replicate gap ' ' ++ text

/-- Digits with a sign at their place in a field. -/
def placeDigits (layout : Layout) (negative : Bool) (digits : List Char) : List Char :=
  let sign := if negative then ['-'] else if layout.withSign then ['+'] else []
  let wanted :=
    match layout.precision with
    | some precision => precision
    | none => if layout.withZeros && !layout.toLeft then layout.width - sign.length else 0
  layout.place (sign ++ List.replicate (wanted - digits.length) '0' ++ digits)

/-- The layout at the start of a text, and what stands behind it. -/
def read (text : List Char) : Layout × List Char :=
  let flags := text.takeWhile fun char => "-+ #0".toList.contains char
  let text := text.drop flags.length
  let width := text.takeWhile Char.isDigit
  let text := text.drop width.length
  let (precision, text) :=
    match text with
    | '.' :: rest =>
        let digits := rest.takeWhile Char.isDigit
        (some ((String.ofList digits).toNat?.getD 0), rest.drop digits.length)
    | _ => (none, text)
  (⟨flags.contains '-', flags.contains '0', flags.contains '+',
    (String.ofList width).toNat?.getD 0, precision⟩, text)

end Layout

/-- What following a format gives. -/
structure Formatted where
  text : List Char
  /-- The words that have not been used. -/
  words : List String
  /-- The status that tells whether the format and all words made sense. -/
  status : Nat
  /-- Whether an escape has ended the text. -/
  ended : Bool

/-- The number that a word stands for. -/
def numberOf? (word : String) : Option Int :=
  match word.toList with
  | '\'' :: char :: _ | '"' :: char :: _ => some char.toNat
  | _ => Calculation.valueNumber? word

/-- A word as a field of a kind, and whether it makes sense. -/
def field (layout : Layout) (kind : Char) (word : String) : List Char × Bool :=
  let cut (text : List Char) : List Char :=
    match layout.precision with
    | some precision => text.take precision
    | none => text
  if kind = 's' then (layout.place (cut word.toList), true)
  else if kind = 'c' then (layout.place [word.toList.headD '\x00'], true)
  else
    let number := (numberOf? word).getD 0
    let sound := (numberOf? word).isSome
    let magnitude := if kind = 'd' || kind = 'i' then number.natAbs else Calculation.wordOf number
    let digits :=
      if kind = 'o' then Nat.toDigits 8 magnitude
      else if kind = 'x' then Nat.toDigits 16 magnitude
      else if kind = 'X' then (Nat.toDigits 16 magnitude).map Char.toUpper
      else Nat.toDigits 10 magnitude
    let negative := number < 0 && (kind = 'd' || kind = 'i')
    (layout.placeDigits negative digits, sound)

/-- Follow a format once.  The number bounds its length. -/
def followOnce : Nat -> List Char -> List String -> Formatted
  | 0, _, words => ⟨[], words, 0, true⟩
  | _, [], words => ⟨[], words, 0, false⟩
  | bound + 1, '%' :: '%' :: rest, words =>
      let further := followOnce bound rest words
      { further with text := '%' :: further.text }
  | bound + 1, '%' :: rest, words =>
      let (layout, rest) := Layout.read rest
      match rest with
      | [] => ⟨[], words, 2, true⟩
      | kind :: rest =>
          if kind = 'b' then
            let word := ((words.head?).getD "").toList
            let (text, ended) := unescape true word.length word
            if ended then ⟨layout.place text, words.tail, 0, true⟩
            else
              let further := followOnce bound rest words.tail
              { further with text := layout.place text ++ further.text }
          else if !"scdiuoxX".toList.contains kind then ⟨[], words, 2, true⟩
          else
            let (text, sound) := field layout kind ((words.head?).getD "")
            let further := followOnce bound rest words.tail
            { further with
              text := text ++ further.text
              status := if sound then further.status else max 1 further.status }
  | bound + 1, char :: rest, words =>
      let further := followOnce bound rest words
      { further with text := char :: further.text }

/-- Follow a format again and again while words are left.  The number bounds how
often. -/
def follow (format : List Char) : Nat -> List String -> List Char × Nat
  | 0, _ => ([], 0)
  | bound + 1, words =>
      let once := followOnce (format.length + 1) format words
      if once.ended || once.words.isEmpty || once.words.length = words.length then
        (once.text, once.status)
      else
        let (text, status) := follow format bound once.words
        (once.text ++ text, max once.status status)

/-- The text that some words give in a format, and the status that tells whether all of
it makes sense. -/
def formatted (format : String) (given : List String) : List Char × Nat :=
  let (format, _) := unescape false format.length format.toList
  follow format (given.length + 1) given

end Output
end Shell
end ConfigWiring
