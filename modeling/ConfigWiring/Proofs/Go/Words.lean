import ConfigWiring.Proofs.Go.Lexeme

/-!
# The words of a text

What the grammar of the language sees of a text is the spelling of its tokens, with a semicolon at
the end of each line whose last token may end a statement.  The words of a text begin with those
of the lexemes that its beginning is spelled from, whatever stands behind them.
-/

namespace ConfigWiring
namespace Go

open Lexer Text

/-- Whether a token may end a statement at the end of its line. -/
def endsStatement (kind : TokenKind) (text : List Char) : Bool :=
  match kind with
  | .identifier | .number | .rune | .interpreted | .raw => true
  | .keyword => ["break", "continue", "fallthrough", "return"].any (·.toList == text)
  | .mark => ["++", "--", ")", "]", "\x7d"].any (·.toList == text)
  | .stray | .finish => false

/-- The spellings of tokens, with a semicolon at the end of each line whose last token may end a
statement.  The token in front of them may do so if that is given. -/
def words : Bool -> List Token -> List (List Char)
  | _, [] => []
  | ended, token :: rest =>
      (if ended && (token.afterBreak || token.isFinish) then [[';']] else []) ++
        ((if token.isFinish then [] else [token.text]) ++
          words (endsStatement token.kind token.text) rest)

/-- The words of the rest of a text, in front of which a token may end a statement and a line may
be broken. -/
def wordsOf (ended broken : Bool) (text : List Char) : List (List Char) :=
  words ended (run 0 ⟨0, 0, broken, []⟩ text)

theorem words_token
    (ended : Bool)
    (place : Lexer.Place)
    (kind : TokenKind)
    (text : List Char)
    (rest : List Token) :
    words ended (place.token kind text :: rest) =
      (if ended && (place.afterBreak || kind == .finish) then [[';']] else []) ++
        ((if kind == .finish then [] else [text]) ++ words (endsStatement kind text) rest) := rfl

/-- Of the place of a text its words depend only on the line break in front of it. -/
theorem words_run_congr
    {place place' : Lexer.Place}
    (same : place.afterBreak = place'.afterBreak)
    (ended : Bool)
    (covered : Nat)
    (text : List Char) :
    words ended (run covered place text) = words ended (run covered place' text) := by
  induction text generalizing ended covered place place' with
  | nil => rw [run, run, words_token, words_token, same]
  | cons char rest inductionHypothesis =>
      cases covered with
      | succ covered => exact inductionHypothesis (by exact same) ended covered
      | zero =>
          rw [run, run]
          split
          · exact inductionHypothesis (by simp [Lexer.Place.pass, same]) ended 0
          · split
            · exact inductionHypothesis (by exact same) ended _
            · have fresh : (place.fresh.advance char).afterBreak =
                  (place'.fresh.advance char).afterBreak := rfl
              split <;> rw [words_token, words_token, same, inductionHypothesis fresh]

theorem words_run
    (ended : Bool)
    (place : Lexer.Place)
    (text : List Char) :
    words ended (run 0 place text) = wordsOf ended place.afterBreak text :=
  words_run_congr (by rfl) ended 0 text

namespace Lexeme

/-- The words of lexemes, in front of which a token may end a statement and a line may be broken. -/
def words : Bool -> Bool -> List Lexeme -> List (List Char)
  | _, _, [] => []
  | ended, broken, blank char :: rest => words ended (broken || char == '\n') rest
  | ended, broken, remark _ :: rest => words ended broken rest
  | ended, broken, token kind text :: rest =>
      (if ended && broken then [[';']] else []) ++ text :: words (endsStatement kind text) false rest

/-- Whether the last token in front of the end of lexemes may end a statement. -/
def endsBehind : Bool -> List Lexeme -> Bool
  | ended, [] => ended
  | ended, blank _ :: rest => endsBehind ended rest
  | ended, remark _ :: rest => endsBehind ended rest
  | _, token kind text :: rest => endsBehind (endsStatement kind text) rest

theorem endsBehind_append (ended : Bool) (front back : List Lexeme) :
    endsBehind ended (front ++ back) = endsBehind (endsBehind ended front) back := by
  induction front generalizing ended with
  | nil => rfl
  | cons first rest inductionHypothesis =>
      cases first <;> simp [endsBehind, inductionHypothesis]

/-- A word is a semicolon or a token among the lexemes. -/
theorem eq_or_exists_of_mem_words
    {ended broken : Bool}
    {lexemes : List Lexeme}
    {word : List Char}
    (present : word ∈ words ended broken lexemes) :
    word = [';'] ∨ ∃ lexeme ∈ lexemes, lexeme.spelling = word := by
  induction lexemes generalizing ended broken with
  | nil => cases present
  | cons first rest inductionHypothesis =>
      have later {ended broken : Bool} (further : word ∈ words ended broken rest) :
          word = [';'] ∨ ∃ lexeme ∈ first :: rest, lexeme.spelling = word := by
        rcases inductionHypothesis further with semicolon | ⟨lexeme, member, spelt⟩
        · exact .inl semicolon
        · exact .inr ⟨lexeme, List.mem_cons_of_mem _ member, spelt⟩
      cases first with
      | blank char => exact later present
      | remark text => exact later present
      | token kind text =>
          rw [words, List.mem_append, List.mem_cons] at present
          rcases present with semicolon | rfl | further
          · split at semicolon
            · exact .inl (List.mem_singleton.1 semicolon)
            · cases semicolon
          · exact .inr ⟨_, List.mem_cons_self, rfl⟩
          · exact later further

/-- The words of a text begin with those of the lexemes that its beginning is spelled from. -/
theorem wordsOf_spell_append
    {lexemes : List Lexeme}
    {rest : List Char}
    (cut : areCut rest.head? lexemes = true)
    (ended broken : Bool) :
    wordsOf ended broken (spell lexemes ++ rest) =
      words ended broken lexemes ++
        wordsOf (endsBehind ended lexemes) (breaksBehind broken lexemes) rest := by
  induction lexemes generalizing ended broken with
  | nil => rfl
  | cons first further inductionHypothesis =>
      rw [areCut, Bool.and_eq_true] at cut
      obtain ⟨cutFirst, cutFurther⟩ := cut
      have ahead : upcoming rest.head? further = (spell further ++ rest).head? := by
        rw [upcoming, List.head?_append]
      rw [ahead] at cutFirst
      rw [spell_cons, List.append_assoc]
      cases first with
      | blank char =>
          rw [spelling, List.singleton_append, wordsOf, run_blank cutFirst, words_run,
            inductionHypothesis cutFurther]
          rfl
      | remark text =>
          simp only [isCut, Bool.and_eq_true, beq_iff_eq, List.all_eq_true, bne_iff_ne] at cutFirst
          obtain ⟨behind, same, passed⟩ := run_remark cutFirst.1.1
            (fun inside => cutFirst.1.2 _ inside rfl) cutFirst.2 ⟨0, 0, broken, []⟩
          rw [spelling, wordsOf, passed, words_run, same, inductionHypothesis cutFurther]
          rfl
      | token kind text =>
          obtain ⟨behind, same, read⟩ := run_token (cutsOff_of_isCut cutFirst) ⟨0, 0, broken, []⟩
          have unfinished : (kind == .finish) = false := by
            cases kind <;> first | rfl | cases cutFirst
          rw [spelling, wordsOf, read, words_token, words_run, same, unfinished,
            inductionHypothesis cutFurther]
          simp [words, endsBehind, breaksBehind]

end Lexeme
end Go
end ConfigWiring
