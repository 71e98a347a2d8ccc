import ConfigWiring.Proofs.Go.StructText
import Mathlib.Data.List.Forall2

/-!
# The tokens of struct declarations

The lexer cuts a file of struct declarations into the tokens that these are written with, and notes
the lines of documentation in front of the first token of each declaration, in the rows directly
above it.
-/

namespace ConfigWiring
namespace Go

open Lexer Lexeme Text

/-! ## Places at the beginning of lines -/

namespace Lexer.Place

variable {place : Lexer.Place} {comments : List Comment}

/-- A place behind a line break and some comments, with no token among them. -/
structure Follows (comments : List Comment) (place : Lexer.Place) : Prop where
  broken : place.afterBreak = true
  noted : place.comments = comments.reverse

@[simp] theorem afterBreak_pass_token (place : Lexer.Place) (kind : TokenKind) (text : List Char) :
    (Lexeme.pass place (.token kind text)).afterBreak = false :=
  afterBreak_over _ text

@[simp] theorem comments_pass_token (place : Lexer.Place) (kind : TokenKind) (text : List Char) :
    (Lexeme.pass place (.token kind text)).comments = [] :=
  comments_over _ text

@[simp] theorem afterBreak_pass_blank (place : Lexer.Place) (char : Char) :
    (Lexeme.pass place (.blank char)).afterBreak = (place.afterBreak || char == '\n') := rfl

@[simp] theorem comments_pass_blank (place : Lexer.Place) (char : Char) :
    (Lexeme.pass place (.blank char)).comments = place.comments := rfl

/-- A line break that nothing was noted in front of begins a line. -/
theorem follows_lineFeed (clean : place.comments = []) :
    (Lexeme.pass place (.blank '\n')).Follows [] :=
  ⟨by simp, clean⟩

theorem Follows.behind_blanks
    (follows : place.Follows comments)
    (char : Char)
    (count : Nat) :
    (passAll place (blanks char count)).Follows comments := by
  induction count generalizing place with
  | zero => exact follows
  | succ count inductionHypothesis =>
      refine inductionHypothesis ⟨?_, follows.noted⟩
      rw [afterBreak_pass_blank, follows.broken, Bool.true_or]

end Lexer.Place

@[simp] theorem tokensFrom_blanks (place : Lexer.Place) (char : Char) (count : Nat) :
    tokensFrom place (blanks char count) = [] := by
  induction count generalizing place with
  | zero => rfl
  | succ count inductionHypothesis => exact inductionHypothesis _

theorem row_passAll_tabs (place : Lexer.Place) (count : Nat) :
    (passAll place (blanks '\t' count)).row = place.row := by
  rw [row_passAll, spell_blanks, breaks, List.count_eq_zero.2, Nat.add_zero]
  simp

/-! ## Documentation -/

/-- Lines of documentation as comments from a row on. -/
def docComments : Nat -> List DocLine -> List Comment
  | _, [] => []
  | row, line :: rest => ⟨line.remark, row, row⟩ :: docComments (row + 1) rest

/-- A line of documentation is noted in its row. -/
theorem Lexer.Place.Follows.behind_docLine
    {place : Lexer.Place}
    {comments : List Comment}
    (follows : place.Follows comments)
    (tabs : Nat)
    (line : DocLine) :
    tokensFrom place (line.lexemes tabs) = [] ∧
      (passAll place (line.lexemes tabs)).Follows
        (comments ++ [⟨line.remark, place.row, place.row⟩]) ∧
      (passAll place (line.lexemes tabs)).row = place.row + 1 := by
  have inset := follows.behind_blanks '\t' tabs
  have sameRow := row_passAll_tabs place tabs
  have unbroken : breaks line.remark = 0 := by
    have oneLine := line.oneLine
    simp [breaks, DocLine.remark, List.count_eq_zero, oneLine]
  rw [DocLine.lexemes, tokensFrom_append, tokensFrom_blanks, passAll_append]
  generalize passAll place (blanks '\t' tabs) = start at inset sameRow
  refine ⟨rfl, ⟨by simp, ?_⟩, ?_⟩
  · rw [passAll_cons, passAll_cons, passAll_nil, Place.comments_pass_blank, Lexeme.pass,
      Place.comments_over, Place.note, unbroken, sameRow, inset.noted]
    simp
  · have passed := row_passAll start [.remark line.remark, .blank '\n']
    rw [passed, sameRow, spell_cons, spelling, breaks, List.count_append, ← breaks, unbroken]
    rfl

/-- Each line of documentation is noted in its row. -/
theorem Lexer.Place.Follows.behind_docLines
    {place : Lexer.Place}
    {comments : List Comment}
    (follows : place.Follows comments)
    (tabs : Nat)
    (lines : List DocLine) :
    tokensFrom place (lines.flatMap (DocLine.lexemes tabs)) = [] ∧
      (passAll place (lines.flatMap (DocLine.lexemes tabs))).Follows
        (comments ++ docComments place.row lines) ∧
      (passAll place (lines.flatMap (DocLine.lexemes tabs))).row = place.row + lines.length := by
  induction lines generalizing place comments with
  | nil => exact ⟨rfl, by simpa [docComments] using follows, rfl⟩
  | cons line rest inductionHypothesis =>
      obtain ⟨quiet, noted, nextRow⟩ := follows.behind_docLine tabs line
      obtain ⟨quietRest, notedRest, lastRow⟩ := inductionHypothesis noted
      rw [nextRow] at notedRest lastRow
      rw [List.flatMap_cons, tokensFrom_append, passAll_append, quiet, quietRest, lastRow]
      refine ⟨rfl, by simpa [docComments] using notedRest, ?_⟩
      rw [List.length_cons]
      omega

/-! ## Fields -/

/-- A token is of a kind, spelled in a way and behind a line break or not. -/
structure Token.Is
    (kind : TokenKind)
    (text : List Char)
    (broken : Bool)
    (token : Token) : Prop where
  kind : token.kind = kind
  text : token.text = text
  broken : token.afterBreak = broken

theorem Lexer.Place.is_token
    {place : Lexer.Place}
    {broken : Bool}
    (kind : TokenKind)
    (text : List Char)
    (same : place.afterBreak = broken) :
    (place.token kind text).Is kind text broken :=
  ⟨rfl, rfl, same⟩

/-- The tokens of a line of fields. -/
structure FieldTokens where
  first : Token
  /-- The further names, each with the comma in front of it. -/
  further : List (Token × Token)
  type : Token
  tag? : Option Token

namespace FieldTokens

/-- The tokens in order. -/
def tokens (field : FieldTokens) : List Token :=
  field.first :: (field.further.flatMap (fun pair => [pair.1, pair.2]) ++
    field.type :: field.tag?.toList)

/-- The tokens are those of a line of fields. -/
structure Tells (line : FieldLine) (field : FieldTokens) : Prop where
  first : field.first.Is .identifier line.first.text.toList true
  further : List.Forall₂ (fun name pair => Token.Is .mark [','] false pair.1 ∧
    Token.Is .identifier name.text.toList false pair.2) line.further field.further
  type : field.type.Is .identifier fieldType.text.toList false
  tag : Option.Rel (fun tag token => Token.Is .raw (TagBody.quoted tag).toList false token)
    line.tag? field.tag?

end FieldTokens

/-- Stretches of lexemes are cut into tokens one after another. -/
theorem Lexeme.exists_tokensFrom_flatMap
    {element : Type}
    {seen : Type}
    {lexemesOf : element -> List Lexeme}
    {tokensOf : seen -> List Token}
    {fits : Lexer.Place -> Prop}
    {tells : element -> seen -> Prop}
    (each : ∀ one place, fits place -> ∃ found, tokensFrom place (lexemesOf one) = tokensOf found ∧
      tells one found ∧ fits (passAll place (lexemesOf one)))
    (elements : List element)
    {place : Lexer.Place}
    (begins : fits place) :
    ∃ all, tokensFrom place (elements.flatMap lexemesOf) = all.flatMap tokensOf ∧
      List.Forall₂ tells elements all ∧ fits (passAll place (elements.flatMap lexemesOf)) := by
  induction elements generalizing place with
  | nil => exact ⟨[], rfl, .nil, begins⟩
  | cons first rest inductionHypothesis =>
      obtain ⟨found, cut, told, between⟩ := each first place begins
      obtain ⟨all, cutRest, toldRest, ends⟩ := inductionHypothesis between
      refine ⟨found :: all, ?_, .cons told toldRest, ?_⟩
      · rw [List.flatMap_cons, tokensFrom_append, cut, cutRest, List.flatMap_cons]
      · rw [List.flatMap_cons, passAll_append]
        exact ends

/-- A further name on a line is cut into a comma and the name. -/
theorem Identifier.exists_furtherTokens
    (name : Identifier)
    (place : Lexer.Place)
    (within : place.afterBreak = false) :
    ∃ pair : Token × Token, tokensFrom place name.furtherLexemes = [pair.1, pair.2] ∧
      (Token.Is .mark [','] false pair.1 ∧ Token.Is .identifier name.text.toList false pair.2) ∧
        (passAll place name.furtherLexemes).afterBreak = false :=
  ⟨(_, _), rfl, ⟨place.is_token _ _ within, Lexer.Place.is_token _ _ (by simp)⟩, by
    simp [Identifier.furtherLexemes, Identifier.lexeme]⟩

/-- The end of a line of fields is cut into the tag, if there is one. -/
theorem FieldLine.exists_tagToken
    (line : FieldLine)
    (place : Lexer.Place)
    (within : place.afterBreak = false)
    (clean : place.comments = []) :
    ∃ tag? : Option Token, tokensFrom place line.endLexemes = tag?.toList ∧
      Option.Rel (fun tag token => Token.Is .raw (TagBody.quoted tag).toList false token)
        line.tag? tag? ∧
      (passAll place line.endLexemes).Follows [] := by
  unfold endLexemes
  cases line.tag? with
  | none => exact ⟨none, rfl, .none, place.follows_lineFeed clean⟩
  | some tag =>
      exact ⟨some _, rfl, .some (Lexer.Place.is_token _ _ (by simpa using within)),
        Lexer.Place.follows_lineFeed (by simp)⟩

/-- A line of fields is cut into its tokens. -/
theorem FieldLine.exists_fieldTokens
    (tabs : Nat)
    (line : FieldLine)
    (place : Lexer.Place)
    (follows : place.Follows []) :
    ∃ field : FieldTokens, tokensFrom place (line.lexemes tabs) = field.tokens ∧
      field.Tells line ∧ (passAll place (line.lexemes tabs)).Follows [] := by
  have inset := follows.behind_blanks '\t' tabs
  rw [lexemes, tokensFrom_append, tokensFrom_blanks, passAll_append]
  generalize passAll place (blanks '\t' tabs) = start at inset
  obtain ⟨further, cut, told, within⟩ := exists_tokensFrom_flatMap
    Identifier.exists_furtherTokens line.further
    (start.afterBreak_pass_token .identifier line.first.text.toList)
  rw [Identifier.lexeme, List.nil_append, tokensFrom, passAll_cons, tokensFrom_append, cut,
    passAll_append]
  generalize passAll (Lexeme.pass start _) (line.further.flatMap _) = between at within
  obtain ⟨tag?, cutTag, toldTag, ends⟩ := line.exists_tagToken
    (fieldType.lexeme.pass (Lexeme.pass between (.blank ' ')))
    (Lexer.Place.afterBreak_pass_token _ _ _) (Lexer.Place.comments_pass_token _ _ _)
  refine ⟨⟨start.token .identifier line.first.text.toList, further,
    (Lexeme.pass between (.blank ' ')).token .identifier fieldType.text.toList, tag?⟩, ?_,
    ⟨start.is_token _ _ inset.broken, told, Lexer.Place.is_token _ _ (by simp [within]), toldTag⟩,
    ends⟩
  rw [FieldTokens.tokens, ← cutTag]
  rfl

/-! ## Declarations -/

/-- The tokens of the name and the type of a declaration. -/
structure SpecTokens where
  name : Token
  keyword : Token
  opening : Token
  fields : List FieldTokens
  closing : Token

namespace SpecTokens

/-- The tokens in order. -/
def tokens (spec : SpecTokens) : List Token :=
  spec.name :: spec.keyword :: spec.opening ::
    (spec.fields.flatMap FieldTokens.tokens ++ [spec.closing])

/-- The tokens are those of the name and the type of a declaration. -/
structure Tells (broken : Bool) (struct : StructText) (spec : SpecTokens) : Prop where
  name : spec.name.Is .identifier struct.name.text.toList broken
  keyword : spec.keyword.Is .keyword structWord false
  opening : spec.opening.Is .mark ['\x7b'] false
  fields : List.Forall₂ FieldTokens.Tells struct.fieldLines spec.fields
  closing : spec.closing.Is .mark ['\x7d'] true

end SpecTokens

/-- The name and the type of a declaration are cut into their tokens; the next line is below the
last of them. -/
theorem StructText.exists_specTokens
    (tabs : Nat)
    (struct : StructText)
    (place : Lexer.Place) :
    ∃ spec : SpecTokens, tokensFrom place (struct.specLexemes tabs) = spec.tokens ∧
      spec.Tells place.afterBreak struct ∧
      spec.name = place.token .identifier struct.name.text.toList ∧
      (passAll place (struct.specLexemes tabs)).Follows [] ∧
      spec.closing.endRow < (passAll place (struct.specLexemes tabs)).row := by
  let named := Lexeme.pass
    (Lexeme.pass place (.token .identifier struct.name.text.toList)) (.blank ' ')
  let typed := Lexeme.pass (Lexeme.pass named (.token .keyword structWord)) (.blank ' ')
  let opened := Lexeme.pass (Lexeme.pass typed (.token .mark ['\x7b'])) (.blank '\n')
  have begins : opened.Follows [] := Lexer.Place.follows_lineFeed (by simp)
  obtain ⟨fields, cut, told, follows⟩ := exists_tokensFrom_flatMap
    (FieldLine.exists_fieldTokens (tabs + 1)) struct.fieldLines begins
  have inset := follows.behind_blanks '\t' tabs
  let closed := passAll (passAll opened (struct.fieldLines.flatMap (FieldLine.lexemes (tabs + 1))))
    (blanks '\t' tabs)
  have tokens : tokensFrom place (struct.specLexemes tabs) =
      place.token .identifier struct.name.text.toList :: named.token .keyword structWord ::
        typed.token .mark ['\x7b'] ::
          (fields.flatMap FieldTokens.tokens ++ [closed.token .mark ['\x7d']]) := by
    simp only [specLexemes, Identifier.lexeme, tokensFrom, tokensFrom_append, tokensFrom_blanks,
      List.nil_append]
    rw [cut]
  have behind : passAll place (struct.specLexemes tabs) =
      passAll closed [.token .mark ['\x7d'], .blank '\n'] := by
    simp only [specLexemes, passAll_cons, passAll_append]
    rfl
  refine ⟨⟨_, _, _, fields, _⟩, tokens, ⟨place.is_token _ _ rfl, named.is_token _ _ ?_,
    typed.is_token _ _ ?_, told, closed.is_token _ _ inset.broken⟩, rfl, ?_, ?_⟩
  · simp [named]
  · simp [typed]
  · rw [behind]
    exact Lexer.Place.follows_lineFeed (by simp)
  · have nextRow := row_passAll closed [.token .mark ['\x7d'], .blank '\n']
    rw [behind, nextRow]
    exact Nat.lt_succ_self closed.row

/-! ## Documented declarations -/

/-- Lines of documentation are noted in front of a token, in the rows directly above it but not
above the given row. -/
def Token.IsDocumented (lines : List DocLine) (bound : Nat) (token : Token) : Prop :=
  ∃ row, bound ≤ row ∧ token.comments = docComments row lines ∧ token.startRow = row + lines.length

/-- The place behind the documentation of a declaration. -/
theorem Lexer.Place.Follows.behind_docLexemes
    {place : Lexer.Place}
    (follows : place.Follows [])
    (tabs : Nat)
    (struct : StructText) :
    tokensFrom place (struct.docLexemes tabs) = [] ∧
      (passAll place (struct.docLexemes tabs)).afterBreak = true ∧
      ∀ kind text, ((passAll place (struct.docLexemes tabs)).token kind text).IsDocumented
        struct.docLines place.row := by
  have below := follows.behind_blanks '\n' struct.blankLines
  obtain ⟨quiet, noted, row⟩ := below.behind_docLines tabs struct.docLines
  rw [StructText.docLexemes, tokensFrom_append, passAll_append, tokensFrom_blanks, quiet]
  refine ⟨rfl, noted.broken, fun kind text => ⟨_, ?_, ?_, row⟩⟩
  · rw [row_passAll]
    exact Nat.le_add_right _ _
  · rw [Place.token, noted.noted, List.reverse_reverse, List.nil_append]

/-- Declarations stand below each other, each with its documentation directly above its first token
and the next one below the row of its last token. -/
inductive Descends {seen : Type} (tells : StructText -> seen -> Prop) (head last : seen -> Token) :
    Nat -> List StructText -> List seen -> Prop where
  | nil (bound : Nat) : Descends tells head last bound [] []
  | cons {bound next : Nat} {struct : StructText} {found : seen} {structs : List StructText}
      {all : List seen} (told : tells struct found)
      (documented : (head found).IsDocumented struct.docLines bound)
      (below : (last found).endRow < next) (rest : Descends tells head last next structs all) :
      Descends tells head last bound (struct :: structs) (found :: all)

/-- Declarations are cut one after another if each of them is cut at the beginning of a line. -/
theorem exists_descends
    {seen : Type}
    {lexemesOf : StructText -> List Lexeme}
    {tokensOf : seen -> List Token}
    {tells : StructText -> seen -> Prop}
    {head last : seen -> Token}
    (each : ∀ struct place, place.Follows [] ->
      ∃ found, tokensFrom place (lexemesOf struct) = tokensOf found ∧ tells struct found ∧
        (head found).IsDocumented struct.docLines place.row ∧
        (passAll place (lexemesOf struct)).Follows [] ∧
        (last found).endRow < (passAll place (lexemesOf struct)).row)
    (structs : List StructText)
    {place : Lexer.Place}
    (follows : place.Follows []) :
    ∃ all, tokensFrom place (structs.flatMap lexemesOf) = all.flatMap tokensOf ∧
      Descends tells head last place.row structs all ∧
      (passAll place (structs.flatMap lexemesOf)).Follows [] := by
  induction structs generalizing place with
  | nil => exact ⟨[], rfl, .nil _, follows⟩
  | cons struct rest inductionHypothesis =>
      obtain ⟨found, cut, told, documented, between, below⟩ := each struct place follows
      obtain ⟨all, cutRest, descends, ends⟩ := inductionHypothesis between
      refine ⟨found :: all, ?_, .cons told documented below descends, ?_⟩
      · rw [List.flatMap_cons, tokensFrom_append, cut, cutRest, List.flatMap_cons]
      · rw [List.flatMap_cons, passAll_append]
        exact ends

/-- The tokens of a declaration with a keyword of its own. -/
structure ItemTokens where
  keyword : Token
  spec : SpecTokens

namespace ItemTokens

/-- The tokens in order. -/
def tokens (item : ItemTokens) : List Token := item.keyword :: item.spec.tokens

/-- The tokens are those of a declaration with a keyword of its own. -/
structure Tells (struct : StructText) (item : ItemTokens) : Prop where
  keyword : item.keyword.Is .keyword typeWord true
  spec : item.spec.Tells false struct

end ItemTokens

namespace StructText

/-- A declaration with a keyword of its own is cut into its tokens. -/
theorem exists_separateTokens
    (struct : StructText)
    (place : Lexer.Place)
    (follows : place.Follows []) :
    ∃ item : ItemTokens, tokensFrom place struct.separateLexemes = item.tokens ∧
      item.Tells struct ∧ item.keyword.IsDocumented struct.docLines place.row ∧
      (passAll place struct.separateLexemes).Follows [] ∧
      item.spec.closing.endRow < (passAll place struct.separateLexemes).row := by
  obtain ⟨quiet, broken, documented⟩ := follows.behind_docLexemes 0 struct
  rw [separateLexemes, tokensFrom_append, passAll_append, quiet, List.nil_append]
  generalize passAll place (struct.docLexemes 0) = start at broken documented
  obtain ⟨spec, cut, told, _, ends, below⟩ := struct.exists_specTokens 0
    (Lexeme.pass (Lexeme.pass start (.token .keyword typeWord)) (.blank ' '))
  rw [tokensFrom, tokensFrom, cut, passAll_cons, passAll_cons]
  exact ⟨⟨start.token .keyword typeWord, spec⟩, rfl,
    ⟨start.is_token _ _ broken, by simpa using told⟩, documented _ _, ends, below⟩

/-- A declaration inside a group is cut into its tokens. -/
theorem exists_groupedTokens
    (struct : StructText)
    (place : Lexer.Place)
    (follows : place.Follows []) :
    ∃ spec : SpecTokens, tokensFrom place struct.groupedLexemes = spec.tokens ∧
      spec.Tells true struct ∧ spec.name.IsDocumented struct.docLines place.row ∧
      (passAll place struct.groupedLexemes).Follows [] ∧
      spec.closing.endRow < (passAll place struct.groupedLexemes).row := by
  obtain ⟨quiet, broken, documented⟩ := follows.behind_docLexemes 1 struct
  rw [groupedLexemes, tokensFrom_append, passAll_append, quiet, List.nil_append]
  generalize passAll place (struct.docLexemes 1) = start at broken documented
  obtain ⟨spec, cut, told, name, ends, below⟩ := struct.exists_specTokens 1
    (Lexeme.pass start (.blank '\t'))
  rw [tokensFrom, cut, passAll_cons]
  refine ⟨spec, rfl, by simpa [broken] using told, ?_, ends, below⟩
  rw [name]
  exact documented .identifier struct.name.text.toList

end StructText

/-! ## Files -/

/-- The tokens of a package clause. -/
structure PackageTokens where
  keyword : Token
  name : Token

namespace PackageTokens

/-- The tokens in order. -/
def tokens (clause : PackageTokens) : List Token := [clause.keyword, clause.name]

/-- The tokens are those of the clause of a package. -/
structure Tells (package : Identifier) (clause : PackageTokens) : Prop where
  keyword : clause.keyword.Is .keyword "package".toList false
  name : clause.name.Is .identifier package.text.toList false

end PackageTokens

/-- The tokens of a group of declarations. -/
structure GroupTokens where
  keyword : Token
  opening : Token
  specs : List SpecTokens
  closing : Token

namespace GroupTokens

/-- The tokens in order. -/
def tokens (group : GroupTokens) : List Token :=
  group.keyword :: group.opening :: (group.specs.flatMap SpecTokens.tokens ++ [group.closing])

/-- The tokens are those of a group of declarations, with no comments in front of the parenthesis
that opens it. -/
structure Tells (structs : List StructText) (group : GroupTokens) : Prop where
  keyword : group.keyword.Is .keyword typeWord true
  opening : ∃ broken, group.opening.Is .mark ['('] broken
  clean : group.opening.comments = []
  specs : ∃ bound, Descends (SpecTokens.Tells true) SpecTokens.name SpecTokens.closing bound
    structs group.specs
  closing : group.closing.Is .mark [')'] true

end GroupTokens

namespace Layout

variable (package : Identifier) (structs : List StructText)

/-- A file is cut into the tokens of its lexemes and the end of the text. -/
theorem tokenize_text (layout : Layout) :
    ∃ start : Lexer.Place, ∃ clause : PackageTokens,
      tokenize (layout.text package structs).toList =
        clause.tokens ++ (tokensFrom start (layout.bodyLexemes structs) ++
          [(passAll start (layout.bodyLexemes structs)).token .finish []]) ∧
      clause.Tells package ∧ start.Follows [] ∧ clause.name.endRow < start.row := by
  have cut := layout.areCutOff_lexemes package structs []
  have ran := run_spell_append cut Lexer.Place.start
  have begins : (spell (package.packageLexemes ++ layout.bodyLexemes structs)).head? = some 'p' :=
    rfl
  rw [List.append_nil, ← tokenize_of_head? begins (by decide), tokensFrom_append, passAll_append]
    at ran
  let spaced := Lexeme.pass (Lexeme.pass Lexer.Place.start (.token .keyword "package".toList))
    (.blank ' ')
  refine ⟨passAll Lexer.Place.start package.packageLexemes,
    ⟨Lexer.Place.start.token .keyword "package".toList,
      spaced.token .identifier package.text.toList⟩, ?_, ⟨?_, ?_⟩, ?_, ?_⟩
  · rw [toList_text, ran, List.append_assoc]
    rfl
  · exact Lexer.Place.is_token _ _ rfl
  · exact Lexer.Place.is_token _ _ rfl
  · exact Lexer.Place.follows_lineFeed (Lexer.Place.comments_pass_token _ _ _)
  · have row := row_passAll spaced [package.lexeme, .blank '\n']
    have behind : passAll Lexer.Place.start package.packageLexemes =
        passAll spaced [package.lexeme, .blank '\n'] := rfl
    rw [behind, row, spell_cons, breaks, List.count_append, ← Nat.add_assoc]
    exact Nat.lt_succ_self _

/-- The tokens of a file in which each declaration has a keyword of its own. -/
theorem exists_separateTokens :
    ∃ clause : PackageTokens, ∃ items : List ItemTokens, ∃ finish : Token, ∃ bound : Nat,
      tokenize (separate.text package structs).toList =
        clause.tokens ++ (items.flatMap ItemTokens.tokens ++ [finish]) ∧
      clause.Tells package ∧ clause.name.endRow < bound ∧
      Descends ItemTokens.Tells ItemTokens.keyword (fun item => item.spec.closing) bound structs
        items ∧
      finish.Is .finish [] true := by
  obtain ⟨start, clause, cut, told, follows, below⟩ := tokenize_text package structs separate
  obtain ⟨items, cutItems, descends, ends⟩ :=
    exists_descends StructText.exists_separateTokens structs follows
  rw [bodyLexemes, cutItems] at cut
  exact ⟨clause, items, _, _, cut, told, below, descends,
    Lexer.Place.is_token _ _ ends.broken⟩

/-- The tokens of a file in which all declarations are in one group. -/
theorem exists_groupedTokens (blankLines : Nat) (opensBelow : Bool) :
    ∃ clause : PackageTokens, ∃ group : GroupTokens, ∃ finish : Token,
      tokenize ((grouped blankLines opensBelow).text package structs).toList =
        clause.tokens ++ (group.tokens ++ [finish]) ∧
      clause.Tells package ∧ group.Tells structs ∧ finish.Is .finish [] true := by
  obtain ⟨start, clause, cut, told, follows, _⟩ :=
    tokenize_text package structs (grouped blankLines opensBelow)
  have below := follows.behind_blanks '\n' blankLines
  rw [bodyLexemes, tokensFrom_append, tokensFrom_blanks, passAll_append, List.nil_append] at cut
  generalize passAll start (blanks '\n' blankLines) = place at below cut
  let spaced := Lexeme.pass (Lexeme.pass place (.token .keyword typeWord))
    (.blank (opening opensBelow))
  let opened := Lexeme.pass (Lexeme.pass spaced (.token .mark ['('])) (.blank '\n')
  have begins : opened.Follows [] := Lexer.Place.follows_lineFeed (by simp)
  obtain ⟨specs, cutSpecs, descends, ends⟩ :=
    exists_descends StructText.exists_groupedTokens structs begins
  let closed := passAll opened (structs.flatMap StructText.groupedLexemes)
  rw [tokensFrom, tokensFrom, tokensFrom, tokensFrom, tokensFrom_append, cutSpecs] at cut
  have clean : (spaced.token .mark ['(']).comments = [] := by
    rw [Place.token, Place.comments_pass_blank, Place.comments_pass_token, List.reverse_nil]
  refine ⟨clause, ⟨place.token .keyword typeWord, spaced.token .mark ['('], specs,
      closed.token .mark [')']⟩, _, cut, told,
    ⟨place.is_token _ _ below.broken, ⟨_, spaced.is_token _ _ rfl⟩, clean, ⟨_, descends⟩,
      closed.is_token _ _ ends.broken⟩, Lexer.Place.is_token _ _ ?_⟩
  simp [passAll_append]

end Layout

end Go
end ConfigWiring
