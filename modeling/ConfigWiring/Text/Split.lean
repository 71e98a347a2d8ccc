import ConfigWiring.Text.Blank

/-!
# Cutting and joining text

Cutting at every occurrence of a separator keeps the empty pieces, so joining the
pieces with the separator gives the text back.  Lines are the pieces between line
feeds, where a final line feed ends the last line and begins no further one.
-/

namespace ConfigWiring
namespace Text

/-- The pieces of a text between the occurrences of a separator; at least one. -/
def splitAll (separator : Char) : List Char -> List (List Char)
  | [] => [[]]
  | char :: rest =>
      if char = separator then [] :: splitAll separator rest
      else
        match splitAll separator rest with
        | [] => [[char]]
        | piece :: pieces => (char :: piece) :: pieces

/-- The pieces joined with a separator between them. -/
def joinAll (separator : Char) (pieces : List (List Char)) : List Char :=
  [separator].intercalate pieces

theorem splitAll_ne_nil (separator : Char) (text : List Char) :
    splitAll separator text ≠ [] := by
  cases text with
  | nil => simp [splitAll]
  | cons char rest =>
      rw [splitAll]
      split
      · simp
      · split <;> simp

/-- A text without the separator is one piece. -/
theorem splitAll_of_not_mem
    {separator : Char}
    {text : List Char}
    (whole : separator ∉ text) :
    splitAll separator text = [text] := by
  induction text with
  | nil => rfl
  | cons char rest inductionHypothesis =>
      rw [List.mem_cons, not_or] at whole
      rw [splitAll, if_neg (Ne.symm whole.1), inductionHypothesis whole.2]

theorem joinAll_splitAll (separator : Char) (text : List Char) :
    joinAll separator (splitAll separator text) = text := by
  induction text with
  | nil => rfl
  | cons char rest ih =>
      rw [splitAll]
      split
      · next same =>
          subst same
          cases pieces : splitAll char rest with
          | nil => exact absurd pieces (splitAll_ne_nil char rest)
          | cons piece others =>
              rw [pieces] at ih
              simpa [joinAll, List.intercalate, List.intersperse] using ih
      · split
        · next none => exact absurd none (splitAll_ne_nil separator rest)
        · next piece others some =>
            rw [some] at ih
            cases others with
            | nil => simpa [joinAll, List.intercalate, List.intersperse] using ih
            | cons next others =>
                simpa [joinAll, List.intercalate, List.intersperse] using ih

/-- The lines of a text, each without its line feed. -/
def rawLines (text : List Char) : List (List Char) :=
  let pieces := splitAll '\n' text
  if pieces.getLast? = some [] then pieces.dropLast else pieces

/-- The text without one given character at its end. -/
def dropFinal (final : Char) (text : List Char) : List Char :=
  if text.getLast? = some final then text.dropLast else text

/-- The lines of a text, each without its line feed and a carriage return in
front of it. -/
def lines (text : List Char) : List (List Char) := (rawLines text).map (dropFinal '\r')

/-- Two ways to cut a list where a property ends are one. -/
theorem append_inj_of_forall
    {element : Type}
    (property : element -> Prop)
    {front back front' back' : List element}
    (same : front ++ back = front' ++ back')
    (inFront : ∀ one ∈ front, property one)
    (inBack : ∀ one ∈ back, ¬property one)
    (inFront' : ∀ one ∈ front', property one)
    (inBack' : ∀ one ∈ back', ¬property one) :
    front = front' ∧ back = back' := by
  rcases List.append_eq_append_iff.1 same with ⟨between, rfl, rfl⟩ | ⟨between, rfl, rfl⟩
  · cases between with
    | nil => simp
    | cons one others => exact absurd (inFront' one (by simp)) (inBack one (by simp))
  · cases between with
    | nil => simp
    | cons one others => exact absurd (inFront one (by simp)) (inBack' one (by simp))

/-- The text behind a leading part, if the text begins with that part. -/
def behind? : (leading text : List Char) -> Option (List Char)
  | [], text => some text
  | _ :: _, [] => none
  | expected :: leading, char :: text =>
      if expected = char then behind? leading text else none

theorem behind?_append (leading text : List Char) :
    behind? leading (leading ++ text) = some text := by
  induction leading with
  | nil => rfl
  | cons char leading ih => simp [behind?, ih]

theorem eq_append_of_behind? {leading text rest : List Char}
    (found : behind? leading text = some rest) : text = leading ++ rest := by
  fun_induction behind? leading text with
  | case1 text => simpa using found
  | case2 => cases found
  | case3 expected leading text ih => simp [ih found]
  | case4 => cases found

/-- Every occurrence of a pattern replaced, from left to right and without
overlaps; an empty pattern occurs nowhere. -/
def replaceAll (pattern replacement : List Char) (text : List Char) : List Char :=
  go text 0
where
  /-- Replace behind a number of characters that an occurrence already covers. -/
  go : List Char -> Nat -> List Char
    | [], _ => []
    | _ :: rest, covered + 1 => go rest covered
    | char :: rest, 0 =>
        if !pattern.isEmpty && pattern.isPrefixOf (char :: rest) then
          replacement ++ go rest (pattern.length - 1)
        else char :: go rest 0

/-- Whether a part occurs anywhere in a text. -/
def occursIn (part : List Char) : List Char -> Bool
  | [] => part.isEmpty
  | char :: rest => part.isPrefixOf (char :: rest) || occursIn part rest

/-- Whether a text ends with a given part. -/
def endsWith (final text : List Char) : Bool := final.isSuffixOf text

/-- The text without the characters at either end that satisfy a test. -/
def trimWhile (test : Char -> Bool) (text : List Char) : List Char :=
  dropEndWhile test (text.dropWhile test)

/-- Only the characters at the ends that satisfy a test are trimmed. -/
theorem trimWhile_append
    {test : Char -> Bool}
    {front text back : List Char}
    (before : ∀ char ∈ front, test char = true)
    (behind : ∀ char ∈ back, test char = true)
    (opens : ∀ char ∈ text.head?, test char = false)
    (ends : ∀ char ∈ text.getLast?, test char = false) :
    trimWhile test (front ++ (text ++ back)) = text := by
  have reversed : ∀ char ∈ back.reverse, test char = true := fun char present =>
    behind char (List.mem_reverse.1 present)
  have kept {text : List Char} (opens : ∀ char ∈ text.head?, test char = false) :
      text.dropWhile test = text := by
    cases text with
    | nil => rfl
    | cons first rest => rw [List.dropWhile_cons_of_neg (by simp [opens first rfl])]
  have started : (front ++ (text ++ back)).dropWhile test = (text ++ back).dropWhile test :=
    List.dropWhile_append_of_pos before
  have finished : dropEndWhile test (text ++ back) = text := by
    rw [dropEndWhile, List.reverse_append, List.dropWhile_append_of_pos reversed,
      kept (by simpa using ends), List.reverse_reverse]
  rw [trimWhile, started]
  cases text with
  | nil =>
      have none : (back ++ []).dropWhile test = [] := List.dropWhile_append_of_pos behind
      rw [List.nil_append, ← List.append_nil back, none]
      rfl
  | cons first rest =>
      rw [List.cons_append, List.dropWhile_cons_of_neg (by simp [opens first rfl]),
        ← List.cons_append, finished]

end Text
end ConfigWiring
