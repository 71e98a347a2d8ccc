import ConfigWiring.Proofs.Go.StringLiteral
import ConfigWiring.Proofs.Go.Words
import ConfigWiring.Proofs.WiringFile.StandardLexemes

/-!
# What a wiring file registers

The standard text of a wiring file is read word by word, as a compiler reads it.  Its types are
those of the descriptors, but the names of constructors and the prefixes are put between quotes as
they are, so the words register what the descriptors say only if none of them holds a quote, a
backslash or a line feed.
-/

namespace ConfigWiring

open Go Text

/-! ## Expected words -/

/-- What a word of a text has to be. -/
inductive Expected where
  /-- The word itself. -/
  | word (text : List Char)
  /-- A string literal that denotes the bytes. -/
  | literal (bytes : List UInt8)
  deriving DecidableEq, Repr

namespace Expected

/-- Whether a word is what it has to be. -/
def admits : Expected -> List Char -> Bool
  | word text, found => found == text
  | literal bytes, found => denoted? found == some bytes

/-- Whether the words are what they have to be, one by one. -/
def fit : List Expected -> List (List Char) -> Bool
  | [], [] => true
  | expected :: others, found :: further => expected.admits found && fit others further
  | _, _ => false

/-- The words of a text with blanks between them. -/
def spelt (text : String) : List Expected := (splitAll ' ' text.toList).map word

/-- A type, perhaps behind its package. -/
def type (text : String) : List Expected := ((splitAll '.' text.toList).intersperse ['.']).map word

/-- A string literal for a text. -/
def quoted (text : String) : List Expected := [literal (bytesOf text.toList)]

/-- The registration of the constructor of a descriptor. -/
def constructor (descriptor : Descriptor) : List Expected :=
  spelt "& typapp . Constructor \x7b Name :" ++ (quoted descriptor.ctorName ++
    (spelt ", Fn : func ( ) ( *" ++ (type descriptor.specType ++
      (spelt ", error ) \x7b var cfg" ++ (type descriptor.specType ++
        (spelt "; if err := envconfig . Process (" ++ (quoted descriptor.namePrefix ++
          spelt (", & cfg ) ; err != nil \x7b return nil , err ; \x7d ; " ++
            "return & cfg , nil ; \x7d , \x7d ,"))))))))

/-- The function that registers a constructor for each descriptor and does nothing else. -/
def function (descriptors : List Descriptor) : List Expected :=
  spelt "func init ( ) \x7b typapp . AppendCtor (" ++
    (descriptors.flatMap constructor ++ spelt ") ; \x7d ;")

end Expected

/-- Whether the words of a text, from its first function on, register a constructor for each
descriptor in order and do nothing else: each has the descriptor's name, gives the descriptor's
type and fills a variable of that type from the environment under the descriptor's prefix. -/
def registers (descriptors : List Descriptor) (text : String) : Bool :=
  Expected.fit (Expected.function descriptors)
    ((words false (tokenize text.toList)).dropWhile (· != "func".toList))

namespace Expected

open Go.Lexeme

variable {expected : List Expected} {rest : List Char} {ended broken : Bool}

theorem fit_word_append
    (front : List (List Char))
    (expected : List Expected)
    (further : List (List Char)) :
    fit (front.map word ++ expected) (front ++ further) = fit expected further := by
  induction front with
  | nil => rfl
  | cons first others inductionHypothesis =>
      rw [List.map_cons, List.cons_append, List.cons_append, fit, admits, BEq.rfl, Bool.true_and,
        inductionHypothesis]

/-- The words of lexemes are as expected. -/
theorem fit_spell
    {lexemes : List Lexeme}
    (cut : areCut rest.head? lexemes = true)
    (ended broken : Bool) :
    fit ((Lexeme.words ended broken lexemes).map word ++ expected)
        (wordsOf ended broken (spell lexemes ++ rest)) =
      fit expected (wordsOf (endsBehind ended lexemes) (breaksBehind broken lexemes) rest) := by
  rw [wordsOf_spell_append cut, fit_word_append]

/-- A fixed text has the words that are spelt with blanks between them. -/
theorem fit_spelt
    {text words : String}
    {char : Char}
    (endedBehind brokenBehind : Bool)
    (begins : rest.head? = some char)
    (cut : areCut (some char) (ofText text) = true)
    (same : Lexeme.words ended broken (ofText text) = splitAll ' ' words.toList ∧
      endsBehind ended (ofText text) = endedBehind ∧
        breaksBehind broken (ofText text) = brokenBehind) :
    fit (spelt words ++ expected) (wordsOf ended broken (text.toList ++ rest)) =
      fit expected (wordsOf endedBehind brokenBehind rest) := by
  rw [← begins] at cut
  rw [spelt, ← same.1, ← same.2.1, ← same.2.2, ← fit_spell cut, spell_ofText]

/-- The first word behind an opening quote is what the lexer takes for a string, if it takes
anything for one. -/
theorem exists_wordsOf_quote (broken : Bool) (body : List Char) :
    ∃ further, wordsOf false broken ('"' :: body) =
      ('"' :: body.take ((Lexer.interpretedLength? body).getD 0)) :: further := by
  have noNumber : Number.length ('"' :: body) = 0 := Number.length_eq_zero (by decide) (by simp)
  have noWord : isIdentifierStart '"' = false := by decide
  have noBlank : isBlank '"' = false := by decide
  have noComment : Lexer.commentLength? ('"' :: body) = none :=
    Lexer.commentLength?_eq_none (by decide)
  rw [wordsOf, Lexer.run, noBlank, noComment]
  cases taken : Lexer.interpretedLength? body with
  | none => exact ⟨_, by simp [Lexer.lexeme, noWord, noNumber, taken, words_token]; rfl⟩
  | some length => exact ⟨_, by simp [Lexer.lexeme, noWord, noNumber, taken, words_token]; rfl⟩

/-- A quoted text is a literal for itself exactly if no character in it has a meaning of its own. -/
theorem fit_quoted
    {text : String}
    (endless : Lexer.interpretedLength? rest = none) :
    fit (quoted text ++ expected)
        (wordsOf false broken ('"' :: (text.toList ++ '"' :: rest))) =
      (isPlain text.toList && fit expected (wordsOf true false rest)) := by
  cases plain : isPlain text.toList with
  | true =>
      have cut : areCut rest.head? [Lexeme.string text] = true :=
        WiringFile.areCut_string (by simp [isQuotable, isInterpreted, interpretedLength?_of_isPlain plain]) rfl
      have read := wordsOf_spell_append cut false broken
      have spelling : spell [Lexeme.string text] ++ rest =
          '"' :: (text.toList ++ '"' :: rest) := by
        simp [Lexeme.string, Lexeme.spelling]
      have denotes : denoted? ('"' :: text.toList ++ ['"']) = some (bytesOf text.toList) :=
        bodyBytes?_of_isPlain plain
      rw [spelling] at read
      rw [read, Bool.true_and]
      show fit (literal (bytesOf text.toList) :: expected)
        (('"' :: text.toList ++ ['"']) :: wordsOf true false rest) = _
      rw [fit, admits, denotes, BEq.rfl, Bool.true_and]
  | false =>
      obtain ⟨further, read⟩ := exists_wordsOf_quote broken (text.toList ++ '"' :: rest)
      rw [read, Bool.false_and]
      show fit (literal (bytesOf text.toList) :: expected) (_ :: further) = false
      rw [fit, admits, Bool.and_eq_false_iff, beq_eq_false_iff_ne]
      refine .inl fun denotes => ?_
      cases taken : Lexer.interpretedLength? (text.toList ++ '"' :: rest) with
      | none =>
          rw [taken] at denotes
          cases denotes
      | some length =>
          rw [taken] at denotes
          rw [isPlain_of_denoted? endless taken denotes] at plain
          cases plain

/-- A type is one or three words. -/
theorem fit_type
    {text : String}
    {char : Char}
    (named : isNameText text = true)
    (begins : rest.head? = some char)
    (ends : isIdentifierContinue char = false) :
    fit (type text ++ expected) (wordsOf ended false (text.toList ++ rest)) =
      fit expected (wordsOf true false rest) := by
  have cut : areCut rest.head? (ofType text) = true := by
    rw [begins]
    exact WiringFile.areCut_ofType named ends
  have same (ended : Bool) (parts : List (List Char)) :
      Lexeme.words ended false
          ((parts.map (token .identifier)).intersperse (token .mark ['.'])) =
        parts.intersperse ['.'] := by
    induction parts generalizing ended with
    | nil => rfl
    | cons first others inductionHypothesis =>
        cases others with
        | nil => cases ended <;> rfl
        | cons second others =>
            rw [List.map_cons, List.map_cons, List.intersperse_cons_cons, ← List.map_cons,
              Lexeme.words, Lexeme.words, inductionHypothesis, List.intersperse_cons_cons]
            cases ended <;> rfl
  have behind : endsBehind ended (ofType text) = true ∧ breaksBehind false (ofType text) = false := by
    obtain ⟨first, _, ⟨_, spelt⟩ | ⟨second, _, _, spelt⟩⟩ := exists_ofType named <;>
      rw [spelt] <;> exact ⟨rfl, rfl⟩
  rw [type, ← same ended, ← ofType, ← spell_ofType text, fit_spell cut, behind.1, behind.2]

/-- The text of a constructor is read as the registration of its descriptor exactly if both quoted
parts denote themselves. -/
theorem fit_constructor
    {descriptor : Descriptor}
    (named : isNameText descriptor.specType = true)
    (begins : rest.head? = some '\n') :
    fit (constructor descriptor ++ expected)
        (wordsOf false false ((WiringFile.constructorText descriptor).toList ++ rest)) =
      ((isPlain descriptor.ctorName.toList && isPlain descriptor.namePrefix.toList) &&
        fit expected (wordsOf false false rest)) := by
  obtain ⟨char, typeBegins, start⟩ := exists_head?_of_isNameText named
  have head (further : List Char) :
      (descriptor.specType.toList ++ further).head? = some char := by
    rw [List.head?_append, typeBegins, Option.some_or]
  -- Behind a star and behind a blank there may be any name.
  have cutFunction : areCut (some char) (ofText WiringTemplate.functionText) = true :=
    WiringFile.areCut_of_getLast? (token .mark ['*']) (by decide) rfl (by decide +kernel)
      (WiringFile.isMark_of_isIdentifierStart start (by decide))
  have cutVariable : areCut (some char) (ofText WiringTemplate.variableText) = true :=
    WiringFile.areCut_of_getLast? (blank ' ') (by decide) rfl (by decide +kernel)
      (show isBlank ' ' = true by decide)
  have spelling : (WiringFile.constructorText descriptor).toList ++ rest =
      WiringTemplate.nameText.toList ++ ('"' :: (descriptor.ctorName.toList ++
        ('"' :: (WiringTemplate.functionText.toList ++ (descriptor.specType.toList ++
          (WiringTemplate.variableText.toList ++ (descriptor.specType.toList ++
            (WiringTemplate.processText.toList ++ ('"' :: (descriptor.namePrefix.toList ++
              ('"' :: ((WiringTemplate.returnText ++ ",").toList ++ rest)))))))))))) := by
    unfold WiringFile.constructorText
    simp only [String.toList_append, String.reduceToList, List.append_assoc, List.cons_append,
      List.nil_append]
  rw [spelling, constructor]
  simp only [List.append_assoc]
  rw [fit_spelt false false rfl (by decide +kernel) (by decide +kernel),
    fit_quoted rfl,
    fit_spelt false false (head _) cutFunction (by decide +kernel),
    fit_type named rfl (by decide),
    fit_spelt true false (head _) cutVariable (by decide +kernel),
    fit_type named rfl (by decide),
    fit_spelt false false rfl (by decide +kernel) (by decide +kernel),
    fit_quoted rfl,
    fit_spelt false false begins (by decide +kernel) (by decide +kernel),
    Bool.and_assoc]

/-- A line begins behind the text in front of constructors, if one begins behind them. -/
theorem head?_constructors
    (descriptors : List Descriptor)
    (begins : rest.head? = some '\n') :
    ((String.join (descriptors.map WiringFile.constructorText)).toList ++ rest).head? =
      some '\n' := by
  cases descriptors with
  | nil => simpa using begins
  | cons first others =>
      have name : WiringTemplate.nameText.toList.head? = some '\n' := by decide
      unfold WiringFile.constructorText
      simp only [List.map_cons, String.join_cons, String.toList_append, List.append_assoc]
      rw [List.head?_append, name, Option.some_or]

/-- The texts of constructors are read one by one. -/
theorem fit_constructors
    {descriptors : List Descriptor}
    (named : ∀ descriptor ∈ descriptors, isNameText descriptor.specType = true)
    (begins : rest.head? = some '\n') :
    fit (descriptors.flatMap constructor ++ expected)
        (wordsOf false false
          ((String.join (descriptors.map WiringFile.constructorText)).toList ++ rest)) =
      ((descriptors.all fun descriptor =>
          isPlain descriptor.ctorName.toList && isPlain descriptor.namePrefix.toList) &&
        fit expected (wordsOf false false rest)) := by
  induction descriptors with
  | nil => simp
  | cons first others inductionHypothesis =>
      rw [List.forall_mem_cons] at named
      rw [List.flatMap_cons, List.map_cons, String.join_cons, String.toList_append,
        List.append_assoc, List.append_assoc, fit_constructor named.1 (head?_constructors others begins),
        inductionHypothesis named.2, List.all_cons]
      simp only [Bool.and_assoc]

end Expected

namespace WiringFile

open Go.Lexeme

variable {file : WiringFile}

/-- The function comes first among the words that could be it. -/
theorem not_func_of_mem_words
    {ended broken : Bool}
    {word : List Char}
    (package : isName file.package.toList = true)
    (present : word ∈ Lexeme.words ended broken
      (file.packageLexemes ++ (remarkLexemes ++ file.importLexemes))) :
    (word != "func".toList) = true := by
  have other : ∀ lexeme ∈ file.packageLexemes ++ (remarkLexemes ++ file.importLexemes),
      (lexeme.spelling != "func".toList) = true := by
    have name :
        ((token .identifier file.package.toList).spelling != "func".toList) = true := by
      rw [spelling, bne_iff_ne]
      intro same
      rw [same] at package
      exact absurd package (by decide)
    have quotes (path : String) :
        ((Lexeme.string path).spelling != "func".toList) = true := rfl
    have fixed : ∀ text ∈ ["package ", WiringTemplate.remarkText, "import (", "\n\t", "\n\t_ ", "\n)"],
        ((ofText text).all fun lexeme => lexeme.spelling != "func".toList) = true := by
      decide +kernel
    simp only [List.forall_mem_cons] at fixed
    rw [← List.all_eq_true]
    simp only [packageLexemes, remarkLexemes, importLexemes, pathLexemes, sideEffectLexemes,
      List.all_append, List.all_flatMap, List.all_cons, List.all_nil, quotes, name, fixed,
      Bool.and_true, Bool.true_and]
    simp
  rcases eq_or_exists_of_mem_words present with rfl | ⟨lexeme, member, rfl⟩
  · decide
  · exact other lexeme member

/-- From its function on the standard text is read as the registrations of the descriptors exactly
if nothing between its quotes has a meaning of its own. -/
theorem registers_standardText
    (package : isName file.package.toList = true)
    (imports : ∀ path ∈ file.imports, isQuotable path = true)
    (sideEffects : ∀ path ∈ file.sideEffects, isQuotable path = true)
    (named : ∀ descriptor ∈ file.descriptors, isNameText descriptor.specType = true) :
    registers file.descriptors file.standardText = file.descriptors.all fun descriptor =>
      isPlain descriptor.ctorName.toList && isPlain descriptor.namePrefix.toList := by
  let front := file.packageLexemes ++ (remarkLexemes ++ file.importLexemes)
  let behind := (String.join (file.descriptors.map constructorText)).toList ++
    "\n\t)\n\x7d\n".toList
  have split : file.standardText.toList = spell front ++ ((WiringTemplate.initText ++
      WiringTemplate.registerText ++ "(").toList ++ behind) := by
    rw [toList_standardText]
    simp only [standardLexemes, functionLexemes, callLexemes, front, behind, spell_append,
      spell_ofText, spell_flatMap toList_constructorText, String.toList_append, List.append_assoc,
      String.reduceToList, List.cons_append, List.nil_append]
  have cut : areCut (some '\n') front = true := areCut_front package imports sideEffects
  have ends : endsBehind false front = true ∧ breaksBehind false front = false := by
    have close (ended broken : Bool) :
        endsBehind ended (ofText "\n)") = true ∧ breaksBehind broken (ofText "\n)") = false := by
      cases ended <;> cases broken <;> decide
    simp only [front, importLexemes, endsBehind_append, breaksBehind_append]
    exact ⟨(close _ false).1, (close false _).2⟩
  have following : behind.head? = some '\n' := Expected.head?_constructors _ rfl
  have opening : Lexeme.words true false
      (ofText (WiringTemplate.initText ++ WiringTemplate.registerText ++ "(")) =
        [';'] :: splitAll ' ' "func init ( ) \x7b typapp . AppendCtor (".toList := by
    decide +kernel
  have read : words false (tokenize file.standardText.toList) =
      Lexeme.words false false front ++ [';'] ::
        (splitAll ' ' "func init ( ) \x7b typapp . AppendCtor (".toList ++
          wordsOf false false behind) := by
    have begins : ((WiringTemplate.initText ++ WiringTemplate.registerText ++ "(").toList ++
        behind).head? = some '\n' := by
      rw [List.head?_append]
      rfl
    have cutOpening : areCut behind.head? (ofText (WiringTemplate.initText ++
        WiringTemplate.registerText ++ "(")) = true := by
      rw [following]
      decide +kernel
    rw [tokenize_of_head? (head?_standardText file) (by decide), words_run, split,
      wordsOf_spell_append (begins ▸ cut)]
    show Lexeme.words false false front ++
      wordsOf (endsBehind false front) (breaksBehind false front) _ = _
    rw [ends.1, ends.2, ← spell_ofText (_ ++ "("), wordsOf_spell_append cutOpening, opening]
    rfl
  rw [registers, read, List.dropWhile_append_of_pos fun word present =>
    not_func_of_mem_words package present]
  have stops : (([';'] :: (splitAll ' ' "func init ( ) \x7b typapp . AppendCtor (".toList ++
      wordsOf false false behind)).dropWhile (· != "func".toList)) =
        splitAll ' ' "func init ( ) \x7b typapp . AppendCtor (".toList ++
          wordsOf false false behind := by
    rfl
  rw [stops, Expected.function, Expected.spelt, Expected.fit_word_append,
    Expected.fit_constructors named rfl]
  have closing : Expected.fit (Expected.spelt ") ; \x7d ;")
      (wordsOf false false "\n\t)\n\x7d\n".toList) = true := by decide +kernel
  rw [closing, Bool.and_true]

/-- Rendering a wiring file with the standard template gives a text that registers exactly what the
descriptors say, if and only if no constructor name and no prefix holds a quote, a backslash or a
line feed. -/
theorem registers_iff_of_render
    (file : WiringFile)
    (environment : Environment)
    (something : file.descriptors ≠ [])
    (package : isName file.package.toList = true)
    (imports : ∀ path ∈ file.imports, isQuotable path = true)
    (sideEffects : ∀ path ∈ file.sideEffects, isQuotable path = true)
    (named : ∀ descriptor ∈ file.descriptors, isNameText descriptor.specType = true) :
    ∃ template text, WiringTemplate.parse WiringTemplate.standardText = .ok template ∧
      template.render environment file = .ok (.source text) ∧
        (registers file.descriptors text = true ↔ ∀ descriptor ∈ file.descriptors,
          isPlain descriptor.ctorName.toList = true ∧
            isPlain descriptor.namePrefix.toList = true) := by
  refine ⟨_, _, WiringTemplate.parse_standardText,
    WiringTemplate.render_standardParts something environment, ?_⟩
  rw [registers_standardText package imports sideEffects named]
  simp only [List.all_eq_true, Bool.and_eq_true]

/-- A plain name and a plain prefix. -/
theorem registers_of_plain_parts :
    let descriptor : Descriptor := ⟨"NewDb", "DB", "config.Db", [⟨"DB_HOST", ""⟩]⟩
    let file : WiringFile := ⟨"generated", ["example.com/shop/config"], [], [descriptor]⟩
    ∃ template text, WiringTemplate.parse WiringTemplate.standardText = .ok template ∧
      template.render .empty file = .ok (.source text) ∧ registers [descriptor] text = true := by
  intro descriptor file
  obtain ⟨template, text, parsed, rendered, registered⟩ :=
    registers_iff_of_render file .empty (by decide) (by decide) (by decide) (by decide) (by decide)
  exact ⟨template, text, parsed, rendered, registered.2 (by decide)⟩

/-- A quote in the name of a constructor ends its literal, and a backslash in a prefix begins an
escape. -/
theorem not_registers_of_quote :
    let descriptor : Descriptor := ⟨"New\"Db", "D\\B", "config.Db", []⟩
    let file : WiringFile := ⟨"generated", ["example.com/shop/config"], [], [descriptor]⟩
    isNameText descriptor.specType = true ∧
      ∃ template text, WiringTemplate.parse WiringTemplate.standardText = .ok template ∧
        template.render .empty file = .ok (.source text) ∧ registers [descriptor] text = false := by
  intro descriptor file
  have named : isNameText descriptor.specType = true := by decide
  refine ⟨named, _, _, WiringTemplate.parse_standardText,
    WiringTemplate.render_standardParts (by decide) .empty, ?_⟩
  show registers file.descriptors file.standardText = false
  rw [registers_standardText (by decide) (by decide) (by decide) (by decide)]
  decide

end WiringFile
end ConfigWiring
