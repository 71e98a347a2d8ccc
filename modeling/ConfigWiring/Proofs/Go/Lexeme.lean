import ConfigWiring.Go.Lexer
import ConfigWiring.Proofs.Go.Reading

/-!
# Texts spelled from lexemes

A text that is spelled from blanks, comments, words, strings and marks is cut into exactly these,
provided that none of them goes on with the first character behind it.
-/

namespace ConfigWiring

open Text

namespace Text

/-- A code point of a table lies in one of its ranges. -/
theorem RangeTable.exists_mem_of_contains
    {table : RangeTable}
    {code : Nat}
    (contained : table.contains code = true) :
    ∃ range ∈ table, range.1 ≤ code ∧ code ≤ range.2 := by
  induction table with
  | nil => cases contained
  | cons range rest inductionHypothesis =>
      rw [contains] at contained
      split at contained
      · cases contained
      · split at contained
        · exact ⟨range, List.mem_cons_self, by omega, by omega⟩
        · obtain ⟨other, present, bounds⟩ := inductionHypothesis contained
          exact ⟨other, List.mem_cons_of_mem _ present, bounds⟩

end Text

namespace Go
namespace Number

/-! ## No numbers -/

theorem digits_eq_zero
    {isDigit : Char -> Bool}
    {text : List Char}
    (other : text.head?.any isDigit = false) :
    digits isDigit text = 0 := by
  cases text with
  | nil => rfl
  | cons first rest =>
      have differs : isDigit first = false := by simpa using other
      simp [digits, differs]

/-- No number begins with a character that is no digit, except with a point in front of one. -/
theorem length_eq_zero
    {first : Char}
    {rest : List Char}
    (noDigit : first.isDigit = false)
    (noFraction : first = '.' -> rest.head?.any Char.isDigit = false) :
    length (first :: rest) = 0 := by
  have nonzero : first ≠ '0' := by
    rintro rfl
    cases noDigit
  have whole : digits Char.isDigit (first :: rest) = 0 := digits_eq_zero (by simpa using noDigit)
  have lengths : wholeLengths (first :: rest) = [0] := by
    unfold wholeLengths
    split
    · next same => exact absurd (List.cons.inj same).1 nonzero
    · rw [whole]
  have decimal : decimalFraction (first :: rest) = 0 := by
    unfold decimalFraction
    simp only [whole, List.drop_zero]
    split
    · next behindPoint same =>
        obtain ⟨rfl, rfl⟩ := List.cons.inj same
        rw [digits_eq_zero (noFraction rfl)]
        rfl
    · rfl
  have hex : hexFraction (first :: rest) = 0 := by
    unfold hexFraction
    split
    · next same => exact absurd (List.cons.inj same).1 nonzero
    · rfl
  simp [length, Number.whole, fractional, imaginary, longest, lengths, decimal, hex, whole]

end Number

/-! ## Lexemes -/

/-- What a text is spelled from. -/
inductive Lexeme where
  /-- A blank. -/
  | blank (char : Char)
  /-- A comment that goes on to the end of its line. -/
  | remark (text : List Char)
  /-- A token of the given kind. -/
  | token (kind : TokenKind) (text : List Char)
  deriving DecidableEq, Repr

namespace Lexeme

/-- The characters of a lexeme. -/
def spelling : Lexeme -> List Char
  | blank char => [char]
  | remark text => text
  | token _ text => text

/-- The text that is spelled from some lexemes. -/
def spell (lexemes : List Lexeme) : List Char := lexemes.flatMap spelling

@[simp] theorem spell_nil : spell [] = [] := rfl

@[simp] theorem spell_cons (first : Lexeme) (rest : List Lexeme) :
    spell (first :: rest) = first.spelling ++ spell rest := rfl

@[simp] theorem spell_append (front back : List Lexeme) :
    spell (front ++ back) = spell front ++ spell back :=
  List.flatMap_append

/-- Whether a text is a word: an identifier or a reserved one. -/
def isWord : List Char -> Bool
  | [] => false
  | first :: rest => isIdentifierStart first && rest.all isIdentifierContinue

/-- Whether a text is a mark that does not go on with the given character. -/
def isMark (text : List Char) (next : Option Char) : Bool :=
  Lexer.marks.any (·.toList == text) && text.head? != some '/' &&
    !(text ++ next.toList)[1]?.any Char.isDigit &&
    !next.any fun char => Lexer.marks.any fun mark => (text ++ [char]).isPrefixOf mark.toList

/-- Whether a text is a string between double quotes. -/
def isInterpreted : List Char -> Bool
  | '"' :: body => Lexer.interpretedLength? body == some body.length
  | _ => false

/-- Whether the lexer cuts a lexeme off a text that begins with the given character. -/
def isCut (next : Option Char) : Lexeme -> Bool
  | blank char => isBlank char
  | remark text => text.take 2 == ['/', '/'] && text.all (· != '\n') && next == some '\n'
  | token kind text =>
      match kind with
      | .identifier | .keyword =>
          isWord text && Lexer.wordKind text == kind && !next.any isIdentifierContinue
      | .interpreted => isInterpreted text
      | .mark => isMark text next
      | _ => false

/-- The first character of some lexemes or, if they have none, of the text behind them. -/
def upcoming (next : Option Char) (lexemes : List Lexeme) : Option Char :=
  (spell lexemes).head?.or next

theorem upcoming_append (next : Option Char) (front back : List Lexeme) :
    upcoming next (front ++ back) = upcoming (upcoming next back) front := by
  simp [upcoming, List.head?_append, Option.or_assoc]

/-- Whether the lexer cuts each of some lexemes off the text behind it, which ends with a text that
begins with the given character. -/
def areCut (next : Option Char) : List Lexeme -> Bool
  | [] => true
  | first :: rest => first.isCut (upcoming next rest) && areCut next rest

theorem areCut_append (next : Option Char) (front back : List Lexeme) :
    areCut next (front ++ back) = (areCut (upcoming next back) front && areCut next back) := by
  induction front with
  | nil => rfl
  | cons first rest inductionHypothesis =>
      simp [areCut, inductionHypothesis, upcoming_append, Bool.and_assoc]

end Lexeme

/-! ## Cutting one lexeme -/

namespace Lexer

variable {first : Char} {further rest : List Char}

/-- No identifier begins with a blank. -/
theorem isBlank_of_isIdentifierStart (start : isIdentifierStart first = true) :
    isBlank first = false := by
  have apart : ∀ range ∈ blankRanges, ∀ offset < range.2 + 1 - range.1,
      identifierStartRanges.contains (range.1 + offset) = false := by decide +kernel
  refine Bool.eq_false_iff.2 fun blank => ?_
  obtain ⟨range, present, low, high⟩ := RangeTable.exists_mem_of_contains blank
  have outside := apart range present (first.toNat - range.1) (by omega)
  rw [Nat.add_sub_cancel' low] at outside
  simp only [isIdentifierStart, outside, Bool.or_false, beq_iff_eq] at start
  subst start
  revert blank
  decide

theorem commentLength?_eq_none (noComment : first ≠ '/') :
    commentLength? (first :: rest) = none := by
  unfold commentLength?
  split
  · next same => exact absurd (List.cons.inj same).1 noComment
  · next same => exact absurd (List.cons.inj same).1 noComment
  · rfl

theorem commentLength?_of_remark
    {text : List Char}
    (slashes : text.take 2 = ['/', '/'])
    (oneLine : '\n' ∉ text)
    (ends : rest.head? = some '\n') :
    commentLength? (text ++ rest) = some text.length := by
  obtain ⟨body, rfl⟩ : ∃ body, text = '/' :: '/' :: body := by
    rw [← List.take_append_drop 2 text, slashes]
    exact ⟨_, rfl⟩
  obtain ⟨more, rfl⟩ := List.head?_eq_some_iff.1 ends
  have whole : (body ++ '\n' :: more).takeWhile (· != '\n') = body := by
    rw [List.takeWhile_append_of_pos]
    · simp
    · intro char present
      simp only [bne_iff_ne, ne_eq]
      rintro rfl
      exact oneLine (by simp [present])
  rw [List.cons_append, List.cons_append, commentLength?, whole]
  simp only [List.length_cons, Nat.add_comm 2]

/-- A word is cut off if it does not go on. -/
theorem lexeme_word
    (word : Lexeme.isWord (first :: further) = true)
    (ends : rest.head?.any isIdentifierContinue = false) :
    lexeme first (further ++ rest) = (wordKind (first :: further), further.length) := by
  simp only [Lexeme.isWord, Bool.and_eq_true, List.all_eq_true] at word
  have taken : (further ++ rest).takeWhile isIdentifierContinue = further := by
    rw [List.takeWhile_append_of_pos word.2]
    cases rest with
    | nil => simp
    | cons next rest =>
        have stops : isIdentifierContinue next = false := by simpa using ends
        simp [stops]
  simp [lexeme, word.1, taken]

theorem startsWithHex_append
    {count : Nat}
    {text : List Char}
    (hex : startsWithHex count text = true)
    (rest : List Char) :
    startsWithHex count (text ++ rest) = true := by
  have inside : count ≤ text.length := by
    simp only [startsWithHex, Bool.and_eq_true, beq_iff_eq, List.length_take] at hex
    omega
  rw [startsWithHex, List.take_append_of_le_length inside]
  exact hex

/-- An escape stays one whatever stands behind it. -/
theorem isEscape_append
    {text : List Char}
    (escape : isEscape text = true)
    (rest : List Char) :
    isEscape (text ++ rest) = true := by
  unfold isEscape at escape
  split at escape
  · exact startsWithHex_append escape rest
  · exact startsWithHex_append escape rest
  · exact startsWithHex_append escape rest
  · next first more noByte noShort noLong =>
      rw [List.cons_append, isEscape]
      · exact noByte
      · exact noShort
      · exact noLong
  · cases escape

/-- The length of a string does not depend on what stands behind it. -/
theorem interpretedLength?_append
    {body : List Char}
    {length : Nat}
    (closed : interpretedLength? body = some length)
    (rest : List Char) :
    interpretedLength? (body ++ rest) = some length := by
  fun_induction interpretedLength? body generalizing length with
  | case1 => cases closed
  | case2 => simpa [interpretedLength?] using closed
  | case3 => cases closed
  | case4 escaped body escape inductionHypothesis =>
      obtain ⟨inner, found, rfl⟩ := Option.map_eq_some_iff.1 closed
      have extended := isEscape_append escape rest
      simp only [List.cons_append] at extended ⊢
      rw [interpretedLength?, if_pos extended, inductionHypothesis found]
      rfl
  | case5 => cases closed
  | case6 => cases closed
  | case7 char body noQuote noBreak noEscape noEnd inductionHypothesis =>
      obtain ⟨inner, found, rfl⟩ := Option.map_eq_some_iff.1 closed
      have noBackslash : char ≠ '\\' := by
        rintro rfl
        cases body with
        | nil => exact noEnd rfl rfl
        | cons escaped more => exact noEscape escaped more rfl rfl
      rw [List.cons_append, interpretedLength?, inductionHypothesis found]
      · rfl
      · exact noQuote
      · exact noBreak
      · exact fun _ _ same => absurd same noBackslash
      · exact fun same => absurd same noBackslash

/-- A string is cut off whatever stands behind it. -/
theorem lexeme_interpreted
    {body : List Char}
    (closed : interpretedLength? body = some body.length)
    (rest : List Char) :
    lexeme '"' (body ++ rest) = (.interpreted, body.length) := by
  have noNumber : Number.length ('"' :: (body ++ rest)) = 0 :=
    Number.length_eq_zero (by decide) (by simp)
  have noWord : isIdentifierStart '"' = false := by decide
  simp [lexeme, noWord, noNumber, interpretedLength?_append closed rest]

/-- Whether a character begins neither a word nor a number, a string or a rune and is no blank. -/
def isMarkStart (first : Char) : Bool :=
  !isIdentifierStart first && !isBlank first && !first.isDigit &&
    !(['"', Char.ofNat 96, '\'', '\x00'].contains first)

theorem isMarkStart_of_mem_marks :
    ∀ mark ∈ marks, mark.toList.head?.any isMarkStart = true := by
  decide

/-- Every mark comes behind the longer ones that begin with it. -/
theorem find?_marks :
    ∀ mark ∈ marks, marks.find? (fun other => other.toList.isPrefixOf mark.toList) = some mark := by
  decide

/-- What stands behind a text makes no prefix of one that does not go on with it. -/
theorem isPrefixOf_append
    {leading text : List Char}
    (ends : ∀ next, rest.head? = some next -> (text ++ [next]).isPrefixOf leading = false) :
    leading.isPrefixOf (text ++ rest) = leading.isPrefixOf text := by
  rw [Bool.eq_iff_iff, List.isPrefixOf_iff_prefix, List.isPrefixOf_iff_prefix]
  refine ⟨fun begins => ?_, fun begins => begins.trans (List.prefix_append _ _)⟩
  rcases List.prefix_or_prefix_of_prefix begins (List.prefix_append text rest) with
    shorter | ⟨more, longer⟩
  · exact shorter
  · rw [← longer, List.prefix_append_right_inj] at begins
    cases more with
    | nil => exact ⟨[], by rw [← longer, List.append_nil, List.append_nil]⟩
    | cons next more =>
        obtain ⟨others, rfl⟩ := begins
        have stops := ends next rfl
        have goesOn : (text ++ [next]).isPrefixOf leading = true := by
          rw [List.isPrefixOf_iff_prefix, ← longer]
          exact ⟨more, by simp⟩
        rw [goesOn] at stops
        cases stops

/-- A mark is found in front of a text that does not make a longer one of it. -/
theorem find?_marks_append
    {mark : String}
    (present : mark ∈ marks)
    (ends : ∀ next, rest.head? = some next ->
      ∀ other ∈ marks, (mark.toList ++ [next]).isPrefixOf other.toList = false) :
    marks.find? (fun other => other.toList.isPrefixOf (mark.toList ++ rest)) = some mark := by
  have same : ∀ other ∈ marks, other.toList.isPrefixOf (mark.toList ++ rest) =
      other.toList.isPrefixOf mark.toList := fun other others =>
    isPrefixOf_append fun next here => ends next here other others
  rw [← find?_marks mark present, ← List.head?_filter, ← List.head?_filter, List.filter_congr same]

/-- A mark is cut off if it does not go on. -/
theorem lexeme_mark
    (mark : Lexeme.isMark (first :: further) rest.head? = true) :
    isBlank first = false ∧ first ≠ '\x00' ∧ first ≠ '/' ∧
      lexeme first (further ++ rest) = (.mark, further.length) := by
  simp only [Lexeme.isMark, Bool.and_eq_true, Bool.not_eq_true', List.any_eq_true, beq_iff_eq,
    bne_iff_ne, List.head?_cons, ne_eq, Option.some.injEq] at mark
  obtain ⟨⟨⟨⟨spelt, present, same⟩, noSlash⟩, noFraction⟩, ends⟩ := mark
  have begins := isMarkStart_of_mem_marks spelt present
  rw [same] at begins
  have start : isMarkStart first = true := by simpa using begins
  obtain ⟨noWord, noBlank, noDigit, noQuote⟩ : isIdentifierStart first = false ∧
      isBlank first = false ∧ first.isDigit = false ∧
        first ∉ ['"', Char.ofNat 96, '\'', '\x00'] := by
    simpa [isMarkStart, and_assoc] using start
  have found : marks.find? (fun other => other.toList.isPrefixOf (first :: (further ++ rest))) =
      some spelt := by
    rw [← List.cons_append, ← same]
    refine find?_marks_append present fun next ahead other others => ?_
    rw [ahead, Option.any_some, List.any_eq_false] at ends
    rw [same]
    exact Bool.eq_false_iff.2 (ends other others)
  have noNumber : Number.length (first :: (further ++ rest)) = 0 := by
    refine Number.length_eq_zero noDigit fun _ => ?_
    cases further with
    | nil =>
        cases rest with
        | nil => rfl
        | cons second more => simpa using noFraction
    | cons second more => simpa using noFraction
  have length : spelt.length = further.length + 1 := by
    rw [← String.length_toList, same, List.length_cons]
  simp only [List.mem_cons, List.not_mem_nil, or_false, not_or] at noQuote
  refine ⟨noBlank, noQuote.2.2.2, noSlash, ?_⟩
  simp [lexeme, noWord, noNumber, noQuote, found, length]

/-- The lexer cuts a token of some kind and spelling off the text behind it. -/
def CutsOff (kind : TokenKind) (text rest : List Char) : Prop :=
  ∃ first further, text = first :: further ∧ isBlank first = false ∧ first ≠ '\x00' ∧
    commentLength? (text ++ rest) = none ∧ lexeme first (further ++ rest) = (kind, further.length)

theorem cutsOff_of_isCut
    {kind : TokenKind}
    {text : List Char}
    (cut : (Lexeme.token kind text).isCut rest.head? = true) :
    CutsOff kind text rest := by
  have ofWord (word : Lexeme.isWord text = true) (same : wordKind text = kind)
      (ends : rest.head?.any isIdentifierContinue = false) : CutsOff kind text rest := by
    cases text with
    | nil => cases word
    | cons first further =>
        have start : isIdentifierStart first = true := by
          simp only [Lexeme.isWord, Bool.and_eq_true] at word
          exact word.1
        have other (char : Char) (noStart : isIdentifierStart char = false) : first ≠ char := by
          rintro rfl
          rw [start] at noStart
          cases noStart
        exact ⟨first, further, rfl, isBlank_of_isIdentifierStart start, other _ (by decide),
          commentLength?_eq_none (other _ (by decide)), same ▸ lexeme_word word ends⟩
  cases kind with
  | identifier | keyword =>
      simp only [Lexeme.isCut, Bool.and_eq_true, beq_iff_eq, Bool.not_eq_true'] at cut
      exact ofWord cut.1.1 cut.1.2 cut.2
  | interpreted =>
      simp only [Lexeme.isCut, Lexeme.isInterpreted] at cut
      split at cut
      · next body =>
          exact ⟨'"', body, rfl, by decide, by decide, commentLength?_eq_none (by decide),
            lexeme_interpreted (by simpa using cut) rest⟩
      · cases cut
  | mark =>
      cases text with
      | nil =>
          have noMark : "" ∉ marks := by decide
          simp [Lexeme.isCut, Lexeme.isMark, noMark] at cut
      | cons first further =>
          obtain ⟨noBlank, noEnd, noSlash, cutsMark⟩ := lexeme_mark cut
          exact ⟨first, further, rfl, noBlank, noEnd, commentLength?_eq_none noSlash, cutsMark⟩
  | number | rune | raw | stray | finish => cases cut

/-! ## Cutting whole texts -/

/-- What is covered already is passed over. -/
theorem run_covered
    (place : Lexer.Place)
    (text rest : List Char) :
    ∃ behind, behind.afterBreak = place.afterBreak ∧
      run text.length place (text ++ rest) = run 0 behind rest := by
  induction text generalizing place with
  | nil => exact ⟨place, rfl, rfl⟩
  | cons char text inductionHypothesis =>
      obtain ⟨behind, same, passed⟩ := inductionHypothesis (place.advance char)
      exact ⟨behind, same, passed⟩

theorem run_blank
    {char : Char}
    (blank : isBlank char = true)
    (place : Lexer.Place)
    (rest : List Char) :
    run 0 place (char :: rest) = run 0 (place.pass char) rest := by
  rw [run, if_pos blank]

/-- A comment is passed over. -/
theorem run_remark
    {text : List Char}
    (slashes : text.take 2 = ['/', '/'])
    (oneLine : '\n' ∉ text)
    (ends : rest.head? = some '\n')
    (place : Lexer.Place) :
    ∃ behind, behind.afterBreak = place.afterBreak ∧
      run 0 place (text ++ rest) = run 0 behind rest := by
  have comment := commentLength?_of_remark slashes oneLine ends
  cases text with
  | nil => cases slashes
  | cons first further =>
      have slash : first = '/' := (List.cons.inj slashes).1
      have noBlank : isBlank first = false := by
        rw [slash]
        decide
      obtain ⟨behind, same, passed⟩ :=
        run_covered ((place.note (first :: further)).advance first) further rest
      refine ⟨behind, same, ?_⟩
      rw [← passed]
      rw [List.cons_append] at comment ⊢
      rw [run, if_neg (by simp [noBlank]), comment]
      simp

/-- A token is read whole. -/
theorem run_token
    {kind : TokenKind}
    {text : List Char}
    (cuts : CutsOff kind text rest)
    (place : Lexer.Place) :
    ∃ behind, behind.afterBreak = false ∧
      run 0 place (text ++ rest) = place.token kind text :: run 0 behind rest := by
  obtain ⟨first, further, rfl, noBlank, noEnd, noComment, cutsToken⟩ := cuts
  obtain ⟨behind, same, passed⟩ := run_covered (place.fresh.advance first) further rest
  refine ⟨behind, same, ?_⟩
  rw [← passed]
  rw [List.cons_append] at noComment ⊢
  rw [run, if_neg (by simp [noBlank]), noComment]
  simp [noEnd, cutsToken]

end Lexer

/-- A text that begins with something else than a byte order mark is cut from its start. -/
theorem tokenize_of_head?
    {text : List Char}
    {char : Char}
    (begins : text.head? = some char)
    (noMark : char ≠ Lexer.orderMark) :
    tokenize text = Lexer.run 0 Lexer.Place.start text := by
  obtain ⟨rest, rfl⟩ := List.head?_eq_some_iff.1 begins
  rw [tokenize, if_neg noMark]

namespace Lexeme

open Lexer

/-- A blurred token behind a line break or none. -/
def look (kind : TokenKind) (text : List Char) (broken : Bool) : Token :=
  (Token.mk kind text 0 0 0 broken []).blur

/-- The blurred tokens among lexemes; a line break may stand in front of them. -/
def looks : Bool -> List Lexeme -> List Token
  | _, [] => []
  | broken, blank char :: rest => looks (broken || char == '\n') rest
  | broken, remark _ :: rest => looks broken rest
  | broken, token kind text :: rest => look kind text broken :: looks false rest

/-- Whether a line break stands behind the last token of lexemes. -/
def breaksBehind : Bool -> List Lexeme -> Bool
  | broken, [] => broken
  | broken, blank char :: rest => breaksBehind (broken || char == '\n') rest
  | broken, remark _ :: rest => breaksBehind broken rest
  | _, token _ _ :: rest => breaksBehind false rest

theorem looks_append (broken : Bool) (front back : List Lexeme) :
    looks broken (front ++ back) = looks broken front ++ looks (breaksBehind broken front) back := by
  induction front generalizing broken with
  | nil => rfl
  | cons first rest inductionHypothesis =>
      cases first <;> simp [looks, breaksBehind, inductionHypothesis]

theorem breaksBehind_append (broken : Bool) (front back : List Lexeme) :
    breaksBehind broken (front ++ back) = breaksBehind (breaksBehind broken front) back := by
  induction front generalizing broken with
  | nil => rfl
  | cons first rest inductionHypothesis =>
      cases first <;> simp [breaksBehind, inductionHypothesis]

/-- A text is cut into the lexemes that it is spelled from. -/
theorem map_blur_run
    {lexemes : List Lexeme}
    (cut : areCut none lexemes = true)
    (place : Lexer.Place) :
    (run 0 place (spell lexemes)).map Token.blur =
      looks place.afterBreak lexemes ++
        [look .finish [] (breaksBehind place.afterBreak lexemes)] := by
  induction lexemes generalizing place with
  | nil => rfl
  | cons first rest inductionHypothesis =>
      simp only [areCut, upcoming, Bool.and_eq_true, Option.or_none] at cut
      obtain ⟨cutFirst, cutRest⟩ := cut
      cases first with
      | blank char =>
          rw [spell_cons, spelling, List.singleton_append, run_blank cutFirst,
            inductionHypothesis cutRest]
          rfl
      | remark text =>
          simp only [isCut, Bool.and_eq_true, beq_iff_eq, List.all_eq_true, bne_iff_ne] at cutFirst
          obtain ⟨behind, same, passed⟩ := run_remark cutFirst.1.1
            (fun inside => cutFirst.1.2 _ inside rfl) cutFirst.2 place
          rw [spell_cons, spelling, passed, inductionHypothesis cutRest, same]
          rfl
      | token kind text =>
          obtain ⟨behind, same, read⟩ := run_token (cutsOff_of_isCut cutFirst) place
          rw [spell_cons, spelling, read, List.map_cons, inductionHypothesis cutRest, same]
          rfl

/-! ## The lexemes of a given text -/

/-- The lexemes of a text behind some of its characters. -/
def behind : Nat -> List Char -> List Lexeme
  | _, [] => []
  | covered + 1, _ :: rest => behind covered rest
  | 0, char :: rest =>
      if isBlank char then blank char :: behind 0 rest
      else
        match commentLength? (char :: rest) with
        | some length => remark (char :: rest.take (length - 1)) :: behind (length - 1) rest
        | none =>
            let (kind, further) := lexeme char rest
            token kind (char :: rest.take further) :: behind further rest

/-- The lexemes of a text. -/
def ofText (text : String) : List Lexeme := behind 0 text.toList

theorem spell_behind
    (covered : Nat)
    (text : List Char) :
    spell (behind covered text) = text.drop covered := by
  fun_induction behind covered text with
  | case1 => simp
  | case2 covered char rest inductionHypothesis => simpa using inductionHypothesis
  | case3 char rest blank inductionHypothesis => simpa [spelling] using inductionHypothesis
  | case4 char rest blank length comment inductionHypothesis =>
      simp [spelling, inductionHypothesis]
  | case5 char rest blank comment kind further cut inductionHypothesis =>
      simp [spelling, inductionHypothesis]

@[simp] theorem spell_ofText (text : String) : spell (ofText text) = text.toList :=
  spell_behind 0 text.toList

end Lexeme
end Go
end ConfigWiring
