import ConfigWiring.Go.Declaration
import ConfigWiring.Proofs.Go.PlacedTokens
import ConfigWiring.Proofs.WiringFile.StandardLexemes

/-!
# Struct declarations as they are written

A file of struct declarations, each below the lines of its documentation, is written either with a
keyword for each of them or with one keyword for a group.  Names, lines and tags carry what makes
them fit for their places, so that every such file can be written.
-/

namespace ConfigWiring
namespace Go

open Lexer Text

/-! ## What is declared -/

/-- An identifier that is no reserved word. -/
structure Identifier where
  text : String
  isName : Lexeme.isName text.toList = true

/-- A line of documentation without blanks around it. -/
structure DocLine where
  text : String
  trimmed : trim text.toList = text.toList
  oneLine : '\n' ∉ text.toList

/-- The content of a tag, which can stand between back quotes. -/
structure TagBody where
  text : String
  plain : Char.ofNat 96 ∉ text.toList

/-- A line that declares one or several fields. -/
structure FieldLine where
  first : Identifier
  further : List Identifier
  tag? : Option TagBody

/-- A declaration of a struct. -/
structure StructText where
  /-- The number of blank lines above the declaration and its documentation. -/
  blankLines : Nat
  docLines : List DocLine
  name : Identifier
  fieldLines : List FieldLine

/-- How the declarations of a file are written. -/
inductive Layout where
  /-- Each declaration has a keyword of its own. -/
  | separate
  /-- All declarations are in one group, below some blank lines; the parenthesis that opens it
  stands behind the keyword or on the line below. -/
  | grouped (blankLines : Nat) (opensBelow : Bool)

/-! ## What is written -/

/-- A character some times over. -/
def repeated (char : Char) (count : Nat) : String := String.ofList (List.replicate count char)

/-- A tag between back quotes. -/
def TagBody.quoted (tag : TagBody) : String := "`" ++ tag.text ++ "`"

namespace FieldLine

/-- The line, behind some tabs. -/
def text (tabs : Nat) (line : FieldLine) : String :=
  repeated '\t' tabs ++ line.first.text ++
    String.join (line.further.map fun name => ", " ++ name.text) ++ " string" ++
    (line.tag?.elim "" fun tag => " " ++ tag.quoted) ++ "\n"

/-- The fields that the line declares; they share its tag. -/
def fields (line : FieldLine) : List Field :=
  (line.first :: line.further).map fun name => ⟨name.text, (line.tag?.map TagBody.text).getD ""⟩

end FieldLine

namespace StructText

/-- The lines of documentation, behind some tabs. -/
def docText (tabs : Nat) (struct : StructText) : String :=
  String.join (struct.docLines.map fun line => repeated '\t' tabs ++ "// " ++ line.text ++ "\n")

/-- The name and the type, of which all lines but the first are behind some tabs. -/
def specText (tabs : Nat) (struct : StructText) : String :=
  struct.name.text ++ " struct \x7b\n" ++
    String.join (struct.fieldLines.map (FieldLine.text (tabs + 1))) ++
    repeated '\t' tabs ++ "\x7d\n"

/-- The declaration with a keyword of its own. -/
def separateText (struct : StructText) : String :=
  repeated '\n' struct.blankLines ++ struct.docText 0 ++ "type " ++ struct.specText 0

/-- The declaration inside a group. -/
def groupedText (struct : StructText) : String :=
  repeated '\n' struct.blankLines ++ struct.docText 1 ++ "\t" ++ struct.specText 1

/-- What the declaration tells. -/
def decl (package : String) (dir : Path) (struct : StructText) : TypeDecl where
  package
  dir
  name := struct.name.text
  doc := "\n".intercalate (struct.docLines.map DocLine.text)
  shape := .struct
  fields := struct.fieldLines.flatMap FieldLine.fields

end StructText

/-- The package clause. -/
def Identifier.packageText (package : Identifier) : String := "package " ++ package.text ++ "\n"

/-- The file of some declarations. -/
def Layout.text (package : Identifier) (structs : List StructText) : Layout -> String
  | separate => package.packageText ++ String.join (structs.map StructText.separateText)
  | grouped blankLines opensBelow =>
      package.packageText ++ repeated '\n' blankLines ++ "type" ++
        (if opensBelow then "\n" else " ") ++ "(\n" ++
        String.join (structs.map StructText.groupedText) ++ ")\n"

example :
    (Layout.grouped 1 true).text ⟨"config", by decide⟩
      [⟨0, [⟨"Server settings", by decide, by decide⟩], ⟨"Server", by decide⟩,
        [⟨⟨"Host", by decide⟩, [⟨"Port", by decide⟩], some ⟨"default:\"x\"", by decide⟩⟩]⟩] =
    "package config\n\ntype\n(\n\t// Server settings\n\tServer struct \x7b\n" ++
      "\t\tHost, Port string `default:\"x\"`\n\t\x7d\n)\n" := by
  decide

/-! ## The lexemes of what is written -/

open Lexeme

/-- A blank some times over. -/
def blanks (char : Char) (count : Nat) : List Lexeme := List.replicate count (.blank char)

/-- The lexeme of a name. -/
def Identifier.lexeme (name : Identifier) : Lexeme := .token .identifier name.text.toList

/-- A line of documentation as a comment. -/
def DocLine.remark (line : DocLine) : List Char := '/' :: '/' :: ' ' :: line.text.toList

/-- The lexemes of a line of documentation, behind some tabs. -/
def DocLine.lexemes (tabs : Nat) (line : DocLine) : List Lexeme :=
  blanks '\t' tabs ++ [.remark line.remark, .blank '\n']

/-- The lexemes of a further name on a line. -/
def Identifier.furtherLexemes (name : Identifier) : List Lexeme :=
  [.token .mark [','], .blank ' ', name.lexeme]

/-- The lexemes of a tag. -/
def TagBody.lexemes (tag : TagBody) : List Lexeme := [.blank ' ', .token .raw tag.quoted.toList]

/-- The type of all fields. -/
def fieldType : Identifier := ⟨"string", by decide⟩

namespace FieldLine

/-- The lexemes at the end of a line of fields: the tag and the line feed. -/
def endLexemes (line : FieldLine) : List Lexeme :=
  line.tag?.elim [] TagBody.lexemes ++ [.blank '\n']

/-- The lexemes of a line of fields, behind some tabs. -/
def lexemes (tabs : Nat) (line : FieldLine) : List Lexeme :=
  blanks '\t' tabs ++ (line.first.lexeme :: (line.further.flatMap Identifier.furtherLexemes ++
    (.blank ' ' :: fieldType.lexeme :: line.endLexemes)))

end FieldLine

/-- The keyword of a struct type. -/
def structWord : List Char := ['s', 't', 'r', 'u', 'c', 't']

/-- The keyword of a type declaration. -/
def typeWord : List Char := ['t', 'y', 'p', 'e']

namespace StructText

/-- The lexemes of the documentation. -/
def docLexemes (tabs : Nat) (struct : StructText) : List Lexeme :=
  blanks '\n' struct.blankLines ++ struct.docLines.flatMap (DocLine.lexemes tabs)

/-- The lexemes of the name and the type. -/
def specLexemes (tabs : Nat) (struct : StructText) : List Lexeme :=
  struct.name.lexeme :: .blank ' ' :: .token .keyword structWord :: .blank ' ' ::
    .token .mark ['\x7b'] :: .blank '\n' ::
      (struct.fieldLines.flatMap (FieldLine.lexemes (tabs + 1)) ++
        (blanks '\t' tabs ++ [.token .mark ['\x7d'], .blank '\n']))

/-- The lexemes of the declaration with a keyword of its own. -/
def separateLexemes (struct : StructText) : List Lexeme :=
  struct.docLexemes 0 ++ (.token .keyword typeWord :: .blank ' ' :: struct.specLexemes 0)

/-- The lexemes of the declaration inside a group. -/
def groupedLexemes (struct : StructText) : List Lexeme :=
  struct.docLexemes 1 ++ (.blank '\t' :: struct.specLexemes 1)

end StructText

/-- The lexemes of the package clause. -/
def Identifier.packageLexemes (package : Identifier) : List Lexeme :=
  [.token .keyword "package".toList, .blank ' ', package.lexeme, .blank '\n']

namespace Layout

/-- The blank between the keyword of a group and its parenthesis. -/
def opening (opensBelow : Bool) : Char := if opensBelow then '\n' else ' '

/-- The lexemes behind the package clause. -/
def bodyLexemes (structs : List StructText) : Layout -> List Lexeme
  | separate => structs.flatMap StructText.separateLexemes
  | grouped blankLines opensBelow =>
      blanks '\n' blankLines ++ (.token .keyword typeWord :: .blank (opening opensBelow) ::
        .token .mark ['('] :: .blank '\n' :: (structs.flatMap StructText.groupedLexemes ++
          [.token .mark [')'], .blank '\n']))

end Layout

/-! ### Spelling -/

@[simp] theorem spell_blanks (char : Char) (count : Nat) :
    spell (blanks char count) = List.replicate count char := by
  induction count with
  | zero => rfl
  | succ count inductionHypothesis =>
      rw [blanks] at inductionHypothesis
      rw [blanks, List.replicate_succ, spell_cons, inductionHypothesis]
      rfl

@[simp] theorem toList_repeated (char : Char) (count : Nat) :
    (repeated char count).toList = List.replicate count char :=
  String.toList_ofList

theorem TagBody.toList_quoted (tag : TagBody) :
    tag.quoted.toList = Char.ofNat 96 :: (tag.text.toList ++ [Char.ofNat 96]) := by
  have quote : "`".toList = [Char.ofNat 96] := rfl
  rw [quoted, String.toList_append, String.toList_append, quote]
  rfl

theorem FieldLine.toList_text (tabs : Nat) (line : FieldLine) :
    (line.text tabs).toList = spell (line.lexemes tabs) := by
  have spellsName (name : Identifier) :
      (", " ++ name.text).toList = spell name.furtherLexemes := by
    simp [Identifier.furtherLexemes, Identifier.lexeme, spelling]
  have spellsTag : (line.tag?.elim "" fun tag => " " ++ tag.quoted).toList =
      spell (line.tag?.elim [] TagBody.lexemes) := by
    cases line.tag? with
    | none => rfl
    | some tag => simp [TagBody.lexemes, spelling]
  simp only [text, lexemes, endLexemes, String.toList_append, spell_append, spell_cons, spell_nil,
    spell_blanks, toList_repeated, WiringFile.spell_flatMap spellsName, spellsTag,
    Identifier.lexeme, spelling, fieldType, String.reduceToList, List.append_assoc,
    List.cons_append, List.nil_append]

namespace StructText

theorem toList_docText (tabs : Nat) (struct : StructText) :
    (repeated '\n' struct.blankLines ++ struct.docText tabs).toList =
      spell (struct.docLexemes tabs) := by
  have spellsLine (line : DocLine) :
      (repeated '\t' tabs ++ "// " ++ line.text ++ "\n").toList = spell (line.lexemes tabs) := by
    simp [DocLine.lexemes, DocLine.remark, spelling]
  simp only [docText, docLexemes, String.toList_append, spell_append, spell_blanks, toList_repeated,
    WiringFile.spell_flatMap spellsLine]

theorem toList_specText (tabs : Nat) (struct : StructText) :
    (struct.specText tabs).toList = spell (struct.specLexemes tabs) := by
  simp only [specText, specLexemes, String.toList_append, spell_append, spell_cons, spell_nil,
    spell_blanks, toList_repeated, WiringFile.spell_flatMap (FieldLine.toList_text (tabs + 1)),
    Identifier.lexeme, spelling, structWord, String.reduceToList, List.append_assoc,
    List.cons_append, List.nil_append]

theorem toList_separateText (struct : StructText) :
    struct.separateText.toList = spell struct.separateLexemes := by
  rw [separateText, String.toList_append, String.toList_append, toList_docText, toList_specText]
  simp [separateLexemes, spelling, typeWord]

theorem toList_groupedText (struct : StructText) :
    struct.groupedText.toList = spell struct.groupedLexemes := by
  rw [groupedText, String.toList_append, String.toList_append, toList_docText, toList_specText]
  simp [groupedLexemes, spelling]

end StructText

theorem Identifier.toList_packageText (package : Identifier) :
    package.packageText.toList = spell package.packageLexemes := by
  simp [packageText, packageLexemes, lexeme, spelling]

/-- A file is spelled from the lexemes of the package clause and those behind it. -/
theorem Layout.toList_text (package : Identifier) (structs : List StructText) (layout : Layout) :
    (layout.text package structs).toList =
      spell (package.packageLexemes ++ layout.bodyLexemes structs) := by
  cases layout with
  | separate =>
      simp only [text, bodyLexemes, String.toList_append, Identifier.toList_packageText,
        spell_append, WiringFile.spell_flatMap StructText.toList_separateText]
  | grouped blankLines opensBelow =>
      have opens : (if opensBelow then "\n" else " ").toList = [opening opensBelow] := by
        cases opensBelow <;> rfl
      simp only [text, bodyLexemes, String.toList_append, Identifier.toList_packageText,
        spell_append, spell_cons, spell_nil, spell_blanks, toList_repeated, opens, typeWord,
        spelling, WiringFile.spell_flatMap StructText.toList_groupedText, String.reduceToList,
        List.append_assoc, List.cons_append, List.nil_append]

/-! ### Cutting -/

namespace Lexeme

/-- A lexeme is cut off a text that begins with a character with which it does not go on. -/
theorem isCutOff_of_isCut
    {lexeme : Lexeme}
    {rest : List Char}
    (char : Char)
    (begins : rest.head? = some char)
    (cut : lexeme.isCut (some char) = true) :
    lexeme.IsCutOff rest := by
  cases lexeme with
  | blank blank => exact cut
  | remark text =>
      simp only [isCut, Bool.and_eq_true, beq_iff_eq, List.all_eq_true, bne_iff_ne] at cut
      exact ⟨cut.1.1, fun inside => cut.1.2 _ inside rfl, begins.trans cut.2⟩
  | token kind text => exact cutsOff_of_isCut (begins ▸ cut)

theorem areCutOff_blanks
    {char : Char}
    (blank : isBlank char = true)
    (count : Nat)
    (rest : List Char) :
    AreCutOff rest (blanks char count) := by
  induction count with
  | zero => trivial
  | succ count inductionHypothesis => exact ⟨blank, inductionHypothesis⟩

end Lexeme

/-- No name goes on with the first character of a text. -/
def EndsNames (text : List Char) : Prop := text.head?.any isIdentifierContinue = false

theorem Identifier.isCutOff_lexeme
    {rest : List Char}
    (name : Identifier)
    (ends : EndsNames rest) :
    name.lexeme.IsCutOff rest := by
  refine cutsOff_of_isCut ?_
  have word := name.isName
  rw [EndsNames] at ends
  simpa [isCut, Lexeme.isName, ends] using word

theorem TagBody.isCutOff_lexeme (tag : TagBody) (rest : List Char) :
    (Lexeme.token .raw tag.quoted.toList).IsCutOff rest := by
  rw [toList_quoted]
  exact cutsOff_raw tag.plain rest

/-- A line of documentation is cut into its lexemes whatever stands behind it. -/
theorem DocLine.areCutOff_lexemes (tabs : Nat) (line : DocLine) (rest : List Char) :
    AreCutOff rest (line.lexemes tabs) := by
  have oneLine : '\n' ∉ line.remark := by
    simpa [remark] using line.oneLine
  exact areCutOff_append.2 ⟨areCutOff_blanks (by decide) _ _, ⟨rfl, oneLine, rfl⟩,
    show isBlank '\n' = true by decide, trivial⟩

/-- A line of fields is cut into its lexemes whatever stands behind it. -/
theorem FieldLine.areCutOff_lexemes (tabs : Nat) (line : FieldLine) (rest : List Char) :
    AreCutOff rest (line.lexemes tabs) := by
  have space : isBlank ' ' = true := by decide
  have lineFeed : isBlank '\n' = true := by decide
  have ended : AreCutOff rest line.endLexemes ∧ EndsNames (spell line.endLexemes ++ rest) := by
    unfold endLexemes
    cases line.tag? with
    | none => exact ⟨⟨lineFeed, trivial⟩, show isIdentifierContinue '\n' = false by decide⟩
    | some tag =>
        exact ⟨⟨space, tag.isCutOff_lexeme _, lineFeed, trivial⟩,
          show isIdentifierContinue ' ' = false by decide⟩
  have further : AreCutOff (spell (.blank ' ' :: fieldType.lexeme :: line.endLexemes) ++ rest)
        (line.further.flatMap Identifier.furtherLexemes) ∧
      EndsNames (spell (line.further.flatMap Identifier.furtherLexemes) ++
        (spell (.blank ' ' :: fieldType.lexeme :: line.endLexemes) ++ rest)) :=
    areCutOff_flatMap
      (fun name _ behind ends => ⟨isCutOff_of_isCut ' ' rfl (by decide), space,
        name.isCutOff_lexeme (by simpa using ends), trivial⟩)
      (fun name _ behind _ => show isIdentifierContinue ',' = false by decide)
      (show isIdentifierContinue ' ' = false by decide)
  refine areCutOff_append.2 ⟨areCutOff_blanks (by decide) _ _, ?_, areCutOff_append.2
    ⟨further.1, space, fieldType.isCutOff_lexeme ended.2, ended.1⟩⟩
  rw [spell_append, List.append_assoc]
  exact line.first.isCutOff_lexeme further.2

namespace StructText

theorem areCutOff_docLexemes (tabs : Nat) (struct : StructText) (rest : List Char) :
    AreCutOff rest (struct.docLexemes tabs) :=
  areCutOff_append.2 ⟨areCutOff_blanks (by decide) _ _,
    areCutOff_flatMap_of_forall (DocLine.areCutOff_lexemes tabs) _ _⟩

theorem areCutOff_specLexemes (tabs : Nat) (struct : StructText) (rest : List Char) :
    AreCutOff rest (struct.specLexemes tabs) := by
  have space : isBlank ' ' = true := by decide
  have lineFeed : isBlank '\n' = true := by decide
  have lines := areCutOff_flatMap_of_forall (FieldLine.areCutOff_lexemes (tabs + 1))
    struct.fieldLines
  exact ⟨struct.name.isCutOff_lexeme (show isIdentifierContinue ' ' = false by decide), space,
    isCutOff_of_isCut ' ' rfl (by decide), space, isCutOff_of_isCut '\n' rfl (by decide), lineFeed,
    areCutOff_append.2 ⟨lines _, areCutOff_append.2 ⟨areCutOff_blanks (by decide) _ _,
      isCutOff_of_isCut '\n' rfl (by decide), lineFeed, trivial⟩⟩⟩

theorem areCutOff_separateLexemes (struct : StructText) (rest : List Char) :
    AreCutOff rest struct.separateLexemes :=
  areCutOff_append.2 ⟨struct.areCutOff_docLexemes 0 _, isCutOff_of_isCut ' ' rfl (by decide),
    show isBlank ' ' = true by decide, struct.areCutOff_specLexemes 0 rest⟩

theorem areCutOff_groupedLexemes (struct : StructText) (rest : List Char) :
    AreCutOff rest struct.groupedLexemes :=
  areCutOff_append.2 ⟨struct.areCutOff_docLexemes 1 _, show isBlank '\t' = true by decide,
    struct.areCutOff_specLexemes 1 rest⟩

end StructText

/-- A file is cut into its lexemes. -/
theorem Layout.areCutOff_lexemes
    (package : Identifier)
    (structs : List StructText)
    (layout : Layout)
    (rest : List Char) :
    AreCutOff rest (package.packageLexemes ++ layout.bodyLexemes structs) := by
  have space : isBlank ' ' = true := by decide
  have lineFeed : isBlank '\n' = true := by decide
  refine areCutOff_append.2 ⟨⟨isCutOff_of_isCut ' ' rfl (by decide), space,
    package.isCutOff_lexeme (show isIdentifierContinue '\n' = false by decide), lineFeed, trivial⟩,
    ?_⟩
  cases layout with
  | separate => exact areCutOff_flatMap_of_forall StructText.areCutOff_separateLexemes _ _
  | grouped blankLines opensBelow =>
      have opens : (Lexeme.token .keyword typeWord).isCut (some (opening opensBelow)) = true ∧
          isBlank (opening opensBelow) = true := by
        cases opensBelow <;> decide
      have inside := areCutOff_flatMap_of_forall StructText.areCutOff_groupedLexemes structs
      exact areCutOff_append.2 ⟨areCutOff_blanks lineFeed _ _,
        isCutOff_of_isCut (opening opensBelow) rfl opens.1, opens.2,
        isCutOff_of_isCut '\n' rfl (by decide), lineFeed,
        areCutOff_append.2 ⟨inside _, isCutOff_of_isCut '\n' rfl (by decide), lineFeed, trivial⟩⟩

end Go
end ConfigWiring
