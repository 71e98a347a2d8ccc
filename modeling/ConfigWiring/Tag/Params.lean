import ConfigWiring.Text.Blank

/-!
# Tag parameters

A tag carries an ordered list of `key:"value"` pairs.  Blanks separate the pairs
and may surround the colon.  Inside a value a backslash stands for the character
behind it, whichever that is.  This module holds the reader, the matching writer
and the causes for which a text is refused.
-/

namespace ConfigWiring
namespace Tag

open Text

/-- Why the text of a tag is refused. -/
inductive SyntaxError where
  /-- No colon stands behind the key. -/
  | missingColon (key : String)
  /-- The value of the key does not open with a double quote. -/
  | missingQuote (key : String)
  /-- The value of the key never closes. -/
  | unterminatedValue (key : String)
  /-- A pair has nothing in front of its colon or quote. -/
  | emptyKey
  /-- The parenthesis around the parameters never closes. -/
  | unclosedParen
  deriving DecidableEq, Repr

namespace SyntaxError

/-- The wording of a tag error. -/
def message : SyntaxError -> String
  | missingColon key => "expected ':' after key '" ++ key ++ "'"
  | missingQuote key => "value for '" ++ key ++ "' must be double-quoted"
  | unterminatedValue key => "unterminated value for '" ++ key ++ "'"
  | emptyKey => "parameter is missing its key"
  | unclosedParen => "parameter list is missing ')'"

end SyntaxError

/-- The parameters of a tag in the order in which they are written. -/
structure Params where
  /-- The pairs of key and value. -/
  entries : List (String × String)
  deriving DecidableEq, Repr

namespace Params

instance : Inhabited Params := ⟨⟨[]⟩⟩

/-- The value of the first pair with the given key. -/
def get? (params : Params) (key : String) : Option String := params.entries.lookup key

/-- The value of a key, where an empty value counts as none. -/
def nonEmpty? (params : Params) (key : String) : Option String :=
  (params.get? key).filter (!·.isEmpty)

/-- The number of pairs. -/
def size (params : Params) : Nat := params.entries.length

/-- Whether there are no pairs. -/
def isEmpty (params : Params) : Bool := params.entries.isEmpty

@[simp] theorem get?_empty (key : String) : get? ⟨[]⟩ key = none := rfl

theorem get?_cons_self (key value : String) (rest : List (String × String)) :
    get? ⟨(key, value) :: rest⟩ key = some value := by
  simp [get?]

/-! ## Reading -/

/-- Whether a character may stand in a key. -/
def isKeyChar (char : Char) : Bool := char != ':' && char != '"' && !isBlank char

/-- The value behind an opening quote, with its escapes undone, and the text
behind the closing quote; nothing if the value never closes. -/
def readValue : List Char -> Option (List Char × List Char)
  | [] => none
  | '"' :: rest => some ([], rest)
  | '\\' :: escaped :: rest => (readValue rest).map fun (value, after) => (escaped :: value, after)
  | char :: rest => (readValue rest).map fun (value, after) => (char :: value, after)

theorem length_of_readValue {text value after : List Char}
    (read : readValue text = some (value, after)) : after.length < text.length := by
  fun_induction readValue text generalizing value with
  | case1 => simp at read
  | case2 rest => simp_all
  | case3 escaped rest ih =>
      obtain ⟨⟨inner, left⟩, found, same⟩ := Option.map_eq_some_iff.1 read
      cases same
      have := ih found
      simp; omega
  | case4 char rest _ _ ih =>
      obtain ⟨⟨inner, left⟩, found, same⟩ := Option.map_eq_some_iff.1 read
      cases same
      have := ih found
      simp; omega

/-- The quoted value behind the colon of the given key, and the text behind it. -/
def readQuoted (key : String) (text : List Char) :
    Except SyntaxError (List Char × List Char) :=
  match trimStart text with
  | '"' :: quoted =>
      match readValue quoted with
      | some split => .ok split
      | none => .error (.unterminatedValue key)
  | _ => .error (.missingQuote key)

/-- One pair at the start of a text, and the text behind it. -/
def readPair (text : List Char) : Except SyntaxError ((String × String) × List Char) :=
  match text.takeWhile isKeyChar, trimStart (text.dropWhile isKeyChar) with
  | [], _ => .error .emptyKey
  | key, ':' :: behindColon =>
      match readQuoted (String.ofList key) behindColon with
      | .ok (value, after) => .ok ((String.ofList key, String.ofList value), after)
      | .error error => .error error
  | key, _ => .error (.missingColon (String.ofList key))

theorem length_trimStart_le (text : List Char) : (trimStart text).length ≤ text.length :=
  (List.dropWhile_sublist isBlank).length_le

theorem length_of_readQuoted {key : String} {text value after : List Char}
    (read : readQuoted key text = .ok (value, after)) : after.length < text.length := by
  unfold readQuoted at read
  split at read
  · next quoted quote =>
      split at read
      · next split found =>
          cases read
          have shorter := length_of_readValue found
          have behind := length_trimStart_le text
          rw [quote, List.length_cons] at behind
          omega
      · cases read
  · cases read

theorem length_of_readPair {text after : List Char} {pair : String × String}
    (read : readPair text = .ok (pair, after)) : after.length < text.length := by
  unfold readPair at read
  split at read
  · cases read
  · next _ behindColon colon _ =>
      split at read
      · next value left found =>
          cases read
          have shorter := length_of_readQuoted found
          have behind := length_trimStart_le (text.dropWhile isKeyChar)
          have dropped := (List.dropWhile_sublist isKeyChar (l := text)).length_le
          rw [colon, List.length_cons] at behind
          omega
      · cases read
  · cases read

/-- The pairs of a text, up to the first malformed one. -/
def readPairs (text : List Char) : Except SyntaxError (List (String × String)) :=
  match _ : trimStart text with
  | [] => .ok []
  | char :: rest =>
      match _ : readPair (char :: rest) with
      | .error error => .error error
      | .ok (pair, after) => (readPairs after).map (pair :: ·)
termination_by text.length
decreasing_by
  have shorter := length_of_readPair ‹readPair _ = _›
  have behind := length_trimStart_le text
  rw [‹trimStart text = _›] at behind
  omega

/-- Read the parameters of a tag. -/
def parse (text : String) : Except SyntaxError Params :=
  (readPairs text.toList).map Params.mk

/-! ## Writing -/

/-- A value with a backslash in front of each backslash and double quote. -/
def escapeValue (value : List Char) : List Char :=
  value.flatMap fun char => if char = '"' ∨ char = '\\' then ['\\', char] else [char]

/-- A pair as it is written in a tag. -/
def writePair (pair : String × String) : List Char :=
  pair.1.toList ++ [':', '"'] ++ escapeValue pair.2.toList ++ ['"']

/-- A list of pairs as it is written in a tag, one blank between two pairs. -/
def writePairs (pairs : List (String × String)) : List Char :=
  [' '].intercalate (pairs.map writePair)

/-- Write the parameters of a tag. -/
def print (params : Params) : String := String.ofList (writePairs params.entries)

theorem readValue_escapeValue (value after : List Char) :
    readValue (escapeValue value ++ '"' :: after) = some (value, after) := by
  induction value with
  | nil => rfl
  | cons char rest ih =>
      by_cases special : char = '"' ∨ char = '\\'
      · simp only [escapeValue, List.flatMap_cons, special, if_true] at ih ⊢
        rcases special with rfl | rfl <;> simp [readValue, ih]
      · obtain ⟨notQuote, notSlash⟩ := not_or.1 special
        simp only [escapeValue, List.flatMap_cons, special, if_false] at ih ⊢
        simp only [List.cons_append, List.nil_append]
        rw [readValue]
        · simp [ih]
        · exact notQuote
        · intro _ _ same
          exact absurd same notSlash

end Params
end Tag
end ConfigWiring
