import ConfigWiring.Proofs.Go.Lexeme

/-!
# Tokens in their places

Where the tokens of a text stand, and which comments stand in front of them, is told by the
lexemes that the text is spelled from.
-/

namespace ConfigWiring
namespace Go

open Lexer Text

/-! ## Cutting at exact places -/

namespace Lexer

variable {rest : List Char}

/-- The place behind a text that is covered already. -/
def Place.over (place : Lexer.Place) (text : List Char) : Lexer.Place :=
  text.foldl Place.advance place

@[simp] theorem Place.over_cons (place : Lexer.Place) (char : Char) (text : List Char) :
    place.over (char :: text) = (place.advance char).over text := rfl

theorem run_over (place : Lexer.Place) (text rest : List Char) :
    run text.length place (text ++ rest) = run 0 (place.over text) rest := by
  induction text generalizing place with
  | nil => rfl
  | cons char text inductionHypothesis => exact inductionHypothesis (place.advance char)

@[simp] theorem Place.afterBreak_over (place : Lexer.Place) (text : List Char) :
    (place.over text).afterBreak = place.afterBreak := by
  induction text generalizing place with
  | nil => rfl
  | cons char text inductionHypothesis => exact inductionHypothesis (place.advance char)

@[simp] theorem Place.comments_over (place : Lexer.Place) (text : List Char) :
    (place.over text).comments = place.comments := by
  induction text generalizing place with
  | nil => rfl
  | cons char text inductionHypothesis => exact inductionHypothesis (place.advance char)

@[simp] theorem Place.row_over (place : Lexer.Place) (text : List Char) :
    (place.over text).row = place.row + breaks text := by
  induction text generalizing place with
  | nil => rfl
  | cons char text inductionHypothesis =>
      rw [over_cons, inductionHypothesis, breaks, breaks, List.count_cons, Place.advance]
      by_cases broken : char = '\n'
      · simp [broken]
        omega
      · simp [broken]

theorem rawLength?_append
    {body : List Char}
    (plain : Char.ofNat 96 ∉ body)
    (rest : List Char) :
    rawLength? (body ++ Char.ofNat 96 :: rest) = some (body.length + 1) := by
  induction body with
  | nil => rw [List.nil_append, rawLength?, if_pos rfl, List.length_nil]
  | cons char body inductionHypothesis =>
      rw [List.mem_cons, not_or] at plain
      rw [List.cons_append, rawLength?, if_neg (Ne.symm plain.1), inductionHypothesis plain.2]
      rfl

/-- A string between back quotes is cut off whatever stands behind it. -/
theorem cutsOff_raw
    {body : List Char}
    (plain : Char.ofNat 96 ∉ body)
    (rest : List Char) :
    CutsOff .raw (Char.ofNat 96 :: (body ++ [Char.ofNat 96])) rest := by
  refine ⟨_, _, rfl, by decide, by decide, commentLength?_eq_none (by decide), ?_⟩
  have noWord : isIdentifierStart (Char.ofNat 96) = false := by decide
  have noNumber : Number.length (Char.ofNat 96 :: (body ++ [Char.ofNat 96] ++ rest)) = 0 :=
    Number.length_eq_zero (by decide) (fun same => absurd same (by decide))
  have noQuote : Char.ofNat 96 ≠ '"' := by decide
  rw [List.append_assoc, List.singleton_append] at noNumber ⊢
  simp [lexeme, noWord, noNumber, noQuote, rawLength?_append plain rest]

end Lexer

namespace Lexeme

/-- The lexer cuts a lexeme off the text behind it. -/
def IsCutOff (rest : List Char) : Lexeme -> Prop
  | blank char => isBlank char = true
  | remark text => text.take 2 = ['/', '/'] ∧ '\n' ∉ text ∧ rest.head? = some '\n'
  | token kind text => CutsOff kind text rest

/-- The lexer cuts each of some lexemes off what is behind it. -/
def AreCutOff (rest : List Char) : List Lexeme -> Prop
  | [] => True
  | first :: more => first.IsCutOff (spell more ++ rest) ∧ AreCutOff rest more

theorem areCutOff_append
    {rest : List Char}
    {front back : List Lexeme} :
    AreCutOff rest (front ++ back) ↔
      AreCutOff (spell back ++ rest) front ∧ AreCutOff rest back := by
  induction front with
  | nil => simp [AreCutOff]
  | cons first more inductionHypothesis =>
      rw [List.cons_append, AreCutOff, AreCutOff, inductionHypothesis, spell_append,
        List.append_assoc, and_assoc]

/-- Stretches of lexemes are cut off one after another, if each is in front of all texts of some
kind, and all of them are of that kind with such a text behind them. -/
theorem areCutOff_flatMap
    {element : Type}
    {lexemesOf : element -> List Lexeme}
    {elements : List element}
    {fits : List Char -> Prop}
    {rest : List Char}
    (each : ∀ one ∈ elements, ∀ behind, fits behind -> AreCutOff behind (lexemesOf one))
    (keeps : ∀ one ∈ elements, ∀ behind, fits behind -> fits (spell (lexemesOf one) ++ behind))
    (last : fits rest) :
    AreCutOff rest (elements.flatMap lexemesOf) ∧
      fits (spell (elements.flatMap lexemesOf) ++ rest) := by
  induction elements with
  | nil => exact ⟨trivial, last⟩
  | cons first more inductionHypothesis =>
      rw [List.forall_mem_cons] at each keeps
      obtain ⟨cut, fit⟩ := inductionHypothesis each.2 keeps.2
      rw [List.flatMap_cons, areCutOff_append, spell_append, List.append_assoc]
      exact ⟨⟨each.1 _ fit, cut⟩, keeps.1 _ fit⟩

/-- Stretches of lexemes are cut off one after another, if each is whatever stands behind it. -/
theorem areCutOff_flatMap_of_forall
    {element : Type}
    {lexemesOf : element -> List Lexeme}
    (each : ∀ one behind, AreCutOff behind (lexemesOf one))
    (elements : List element)
    (rest : List Char) :
    AreCutOff rest (elements.flatMap lexemesOf) := by
  exact (areCutOff_flatMap (fun one _ behind (_ : True) => each one behind)
    (fun _ _ _ _ => trivial) trivial).1

/-- The place behind a lexeme. -/
def pass (place : Lexer.Place) : Lexeme -> Lexer.Place
  | blank char => place.pass char
  | remark text => (place.note text).over text
  | token _ text => place.fresh.over text

/-- The place behind some lexemes. -/
def passAll (place : Lexer.Place) (lexemes : List Lexeme) : Lexer.Place := lexemes.foldl pass place

@[simp] theorem passAll_nil (place : Lexer.Place) : passAll place [] = place := rfl

@[simp] theorem passAll_cons (place : Lexer.Place) (first : Lexeme) (rest : List Lexeme) :
    passAll place (first :: rest) = passAll (first.pass place) rest := rfl

theorem passAll_append (place : Lexer.Place) (front back : List Lexeme) :
    passAll place (front ++ back) = passAll (passAll place front) back :=
  List.foldl_append

/-- The tokens among lexemes, where they stand. -/
def tokensFrom : Lexer.Place -> List Lexeme -> List Token
  | _, [] => []
  | place, blank char :: rest => tokensFrom (pass place (blank char)) rest
  | place, remark text :: rest => tokensFrom (pass place (remark text)) rest
  | place, token kind text :: rest =>
      place.token kind text :: tokensFrom (pass place (token kind text)) rest

theorem tokensFrom_append (place : Lexer.Place) (front back : List Lexeme) :
    tokensFrom place (front ++ back) =
      tokensFrom place front ++ tokensFrom (passAll place front) back := by
  induction front generalizing place with
  | nil => rfl
  | cons first rest inductionHypothesis =>
      cases first <;> simp [tokensFrom, inductionHypothesis]

/-- A text that begins with lexemes is cut into their tokens and those behind them. -/
theorem run_spell_append
    {lexemes : List Lexeme}
    {rest : List Char}
    (cut : AreCutOff rest lexemes)
    (place : Lexer.Place) :
    run 0 place (spell lexemes ++ rest) =
      tokensFrom place lexemes ++ run 0 (passAll place lexemes) rest := by
  induction lexemes generalizing place with
  | nil => rfl
  | cons first more inductionHypothesis =>
      obtain ⟨cutFirst, cutMore⟩ := cut
      rw [spell_cons, List.append_assoc]
      cases first with
      | blank char =>
          rw [spelling, List.singleton_append, run_blank cutFirst, inductionHypothesis cutMore]
          rfl
      | remark text =>
          have comment := commentLength?_of_remark cutFirst.1 cutFirst.2.1 cutFirst.2.2
          have passed : run 0 place (text ++ (spell more ++ rest)) =
              run 0 ((place.note text).over text) (spell more ++ rest) := by
            cases text with
            | nil => cases cutFirst.1
            | cons char further =>
                have slash : char = '/' := (List.cons.inj cutFirst.1).1
                have noBlank : isBlank char = false := by
                  rw [slash]
                  decide
                rw [List.cons_append] at comment ⊢
                rw [run, if_neg (by simp [noBlank]), comment]
                simpa using run_over ((place.note (char :: further)).advance char) further _
          rw [spelling, passed, inductionHypothesis cutMore]
          rfl
      | token kind text =>
          obtain ⟨char, further, rfl, noBlank, noEnd, noComment, cutsToken⟩ := cutFirst
          have read : run 0 place (char :: further ++ (spell more ++ rest)) =
              place.token kind (char :: further) ::
                run 0 (place.fresh.over (char :: further)) (spell more ++ rest) := by
            rw [List.cons_append] at noComment ⊢
            rw [run, if_neg (by simp [noBlank]), noComment]
            simpa [noEnd, cutsToken] using run_over (place.fresh.advance char) further _
          rw [spelling, read, inductionHypothesis cutMore]
          rfl

/-- Rows are counted by the line feeds of lexemes. -/
theorem row_passAll (place : Lexer.Place) (lexemes : List Lexeme) :
    (passAll place lexemes).row = place.row + breaks (spell lexemes) := by
  induction lexemes generalizing place with
  | nil => rfl
  | cons first rest inductionHypothesis =>
      have row : (first.pass place).row = place.row + breaks first.spelling := by
        cases first with
        | blank char => exact Place.row_over place [char]
        | remark text => exact Place.row_over _ text
        | token kind text => exact Place.row_over _ text
      rw [passAll_cons, inductionHypothesis, row, spell_cons, breaks, breaks, breaks,
        List.count_append, Nat.add_assoc]

end Lexeme
end Go
end ConfigWiring
