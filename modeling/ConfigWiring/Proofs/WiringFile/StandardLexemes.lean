import ConfigWiring.Proofs.Go.Lexeme
import ConfigWiring.Proofs.WiringFile.StandardText
import ConfigWiring.Text.Split

/-!
# The lexemes of a wiring file

The standard text of a wiring file is spelled from lexemes if each value that is pasted into it is
what stands at its place: the package a name, the types names or names behind those of packages,
and everything else the inside of a string.
-/

namespace ConfigWiring

open Go Text

namespace Go
namespace Lexeme

/-- Whether a text is an identifier. -/
def isName (text : List Char) : Bool := isWord text && Lexer.wordKind text == .identifier

/-- Whether a text is an identifier that may name a type. -/
def isTypeWord (text : List Char) : Bool :=
  isName text && !Token.valueNames.any fun name => text == name.toList

/-- A string between double quotes. -/
def string (body : String) : Lexeme := token .interpreted ('"' :: body.toList ++ ['"'])

/-- Whether a text can stand between double quotes as it is. -/
def isQuotable (body : String) : Bool := isInterpreted ('"' :: body.toList ++ ['"'])

/-- The lexemes of a type: its name, perhaps behind that of its package. -/
def ofType (text : String) : List Lexeme :=
  ((splitAll '.' text.toList).map (token .identifier)).intersperse (token .mark ['.'])

/-- Whether a text is the name of a type, perhaps behind that of its package. -/
def isTypeText (text : String) : Bool :=
  (splitAll '.' text.toList).length ≤ 2 && (splitAll '.' text.toList).all isTypeWord

/-- Whether a text is an identifier, perhaps behind another one and a point. -/
def isNameText (text : String) : Bool :=
  (splitAll '.' text.toList).length ≤ 2 && (splitAll '.' text.toList).all isName

theorem isNameText_of_isTypeText
    {text : String}
    (type : isTypeText text = true) :
    isNameText text = true := by
  simp only [isTypeText, isTypeWord, Bool.and_eq_true, List.all_eq_true] at type
  simp only [isNameText, Bool.and_eq_true, List.all_eq_true]
  exact ⟨type.1, fun part present => (type.2 part present).1⟩

@[simp] theorem spell_ofType (text : String) : spell (ofType text) = text.toList := by
  have joined (parts : List (List Char)) :
      spell ((parts.map (token .identifier)).intersperse (token .mark ['.'])) =
        joinAll '.' parts := by
    induction parts with
    | nil => rfl
    | cons first rest inductionHypothesis =>
        cases rest with
        | nil => simp [joinAll, List.intercalate, spelling]
        | cons second rest =>
            rw [List.map_cons, List.map_cons, List.intersperse_cons_cons, ← List.map_cons, spell_cons,
              spell_cons, inductionHypothesis]
            simp [joinAll, List.intercalate, spelling]
  rw [ofType, joined, joinAll_splitAll]

/-- A text of at most two parts around a point is one of them or both. -/
theorem exists_ofType
    {isPart : List Char -> Bool}
    {text : String}
    (parted : ((splitAll '.' text.toList).length ≤ 2 &&
      (splitAll '.' text.toList).all isPart) = true) :
    ∃ first, isPart first = true ∧
      (text.toList = first ∧ ofType text = [token .identifier first] ∨
        ∃ second, isPart second = true ∧ text.toList = first ++ '.' :: second ∧
          ofType text = [token .identifier first, token .mark ['.'], token .identifier second]) := by
  have joined := joinAll_splitAll '.' text.toList
  unfold ofType
  match parts : splitAll '.' text.toList with
  | [] => exact absurd parts (splitAll_ne_nil _ _)
  | [first] =>
      rw [parts] at joined parted
      exact ⟨first, by simpa using parted,
        .inl ⟨by simpa [joinAll, List.intercalate] using joined.symm, rfl⟩⟩
  | [first, second] =>
      rw [parts] at joined parted
      simp only [List.all_cons, List.all_nil, Bool.and_true, Bool.and_eq_true] at parted
      exact ⟨first, parted.2.1, .inr ⟨second, parted.2.2,
        by simpa [joinAll, List.intercalate] using joined.symm, rfl⟩⟩
  | _ :: _ :: _ :: _ =>
      rw [parts] at parted
      simp at parted

/-- A name begins with a character that an identifier may begin with. -/
theorem exists_head?_of_isNameText
    {text : String}
    (named : isNameText text = true) :
    ∃ char, text.toList.head? = some char ∧ isIdentifierStart char = true := by
  obtain ⟨first, word, spelt⟩ := exists_ofType named
  cases first with
  | nil => cases word
  | cons char more =>
      simp only [isName, isWord, Bool.and_eq_true] at word
      refine ⟨char, ?_, word.1.1⟩
      rcases spelt with ⟨same, _⟩ | ⟨second, _, same, _⟩ <;> rw [same] <;> rfl

end Lexeme
end Go

namespace Descriptor

/-- Whether the parts of a descriptor can be pasted into the standard text. -/
def isPastable (descriptor : Descriptor) : Bool :=
  Lexeme.isQuotable descriptor.ctorName && Lexeme.isTypeText descriptor.specType &&
    Lexeme.isQuotable descriptor.namePrefix

end Descriptor

namespace WiringFile

open Go.Lexeme

/-- Whether everything can be pasted into the standard text: the package is a name, the types are
names or names behind those of packages, and the rest can stand between double quotes. -/
def isPastable (file : WiringFile) : Bool :=
  isName file.package.toList && file.imports.all isQuotable && file.sideEffects.all isQuotable &&
    file.descriptors.all Descriptor.isPastable

/-! ## Spelling the standard text -/

/-- The lexemes of the package clause. -/
def packageLexemes (file : WiringFile) : List Lexeme :=
  ofText "package " ++ [token .identifier file.package.toList]

/-- The lexemes between the package clause and the imports. -/
def remarkLexemes : List Lexeme := ofText WiringTemplate.remarkText

/-- The lexemes of an import. -/
def pathLexemes (path : String) : List Lexeme := ofText "\n\t" ++ [string path]

/-- The lexemes of an import for its side effects. -/
def sideEffectLexemes (path : String) : List Lexeme := ofText "\n\t_ " ++ [string path]

/-- The lexemes of the imports. -/
def importLexemes (file : WiringFile) : List Lexeme :=
  ofText "import (" ++ (file.imports.flatMap pathLexemes ++
    (file.sideEffects.flatMap sideEffectLexemes ++ ofText "\n)"))

/-- The lexemes between the imports and the call that registers the constructors. -/
def functionLexemes : List Lexeme :=
  ofText WiringTemplate.initText ++ ofText WiringTemplate.registerText

/-- The lexemes of the constructor of a descriptor. -/
def constructorLexemes (descriptor : Descriptor) : List Lexeme :=
  ofText WiringTemplate.nameText ++ (string descriptor.ctorName ::
    (ofText WiringTemplate.functionText ++ (ofType descriptor.specType ++
      (ofText WiringTemplate.variableText ++ (ofType descriptor.specType ++
        (ofText WiringTemplate.processText ++ (string descriptor.namePrefix ::
          ofText WiringTemplate.returnText)))))))

/-- The lexemes of the call that registers the constructors. -/
def callLexemes (file : WiringFile) : List Lexeme :=
  ofText "(" ++ (file.descriptors.flatMap (fun descriptor =>
    constructorLexemes descriptor ++ ofText ",") ++ ofText "\n\t)")

/-- The lexemes of the standard text. -/
def standardLexemes (file : WiringFile) : List Lexeme :=
  file.packageLexemes ++ (remarkLexemes ++ (file.importLexemes ++ (functionLexemes ++
    (file.callLexemes ++ ofText "\n\x7d\n"))))

theorem spell_flatMap
    {element : Type}
    {textOf : element -> String}
    {lexemesOf : element -> List Lexeme}
    (spells : ∀ one, (textOf one).toList = spell (lexemesOf one))
    (elements : List element) :
    (String.join (elements.map textOf)).toList = spell (elements.flatMap lexemesOf) := by
  rw [String.toList_join, List.flatMap_map, spell, List.flatMap_assoc]
  exact congrArg (elements.flatMap ·) (funext spells)

theorem toList_constructorText (descriptor : Descriptor) :
    (constructorText descriptor).toList = spell (constructorLexemes descriptor ++ ofText ",") := by
  unfold constructorText
  simp only [constructorLexemes, String.toList_append, spell_append, spell_cons,
    spell_ofText, spell_ofType, spelling, string, String.reduceToList, List.append_assoc,
    List.cons_append, List.nil_append]

theorem toList_standardText (file : WiringFile) :
    file.standardText.toList = spell file.standardLexemes := by
  have spellsPath (path : String) : (importText path).toList = spell (pathLexemes path) := by
    simp only [importText, pathLexemes, String.toList_append, spell_append, spell_cons, spell_nil,
      spell_ofText, spelling, string, String.reduceToList, List.cons_append, List.nil_append,
      List.append_nil]
  have spellsSideEffect (path : String) :
      (sideEffectText path).toList = spell (sideEffectLexemes path) := by
    simp only [sideEffectText, sideEffectLexemes, String.toList_append, spell_append, spell_cons,
      spell_nil, spell_ofText, spelling, string, String.reduceToList, List.cons_append,
      List.nil_append, List.append_nil]
  unfold standardText
  simp only [standardLexemes, packageLexemes, remarkLexemes, importLexemes,
    functionLexemes, callLexemes, String.toList_append, spell_append, spell_cons, spell_nil,
    spell_ofText, spell_flatMap spellsPath, spell_flatMap spellsSideEffect,
    spell_flatMap toList_constructorText, spelling, List.append_assoc, List.append_nil]

theorem head?_standardText (file : WiringFile) : file.standardText.toList.head? = some 'p' := by
  have begins : "package ".toList.head? = some 'p' := by decide
  unfold standardText
  simp only [String.toList_append, List.append_assoc]
  rw [List.head?_append, begins, Option.some_or]

/-! ## Cutting the standard text -/

/-- Lexemes are cut off from others behind them. -/
theorem areCut_append_of
    {front back : List Lexeme}
    {next : Option Char}
    (char : Char)
    (cutFront : areCut (some char) front = true)
    (begins : upcoming next back = some char)
    (cutBack : areCut next back = true) :
    areCut next (front ++ back) = true := by
  rw [areCut_append, begins, cutFront, cutBack]
  rfl

theorem upcoming_ofText
    {text : String}
    {char : Char}
    (begins : text.toList.head? = some char)
    (next : Option Char) :
    upcoming next (ofText text) = some char := by
  rw [upcoming, spell_ofText, begins, Option.some_or]

theorem upcoming_ofText_append
    {text : String}
    {char : Char}
    (begins : text.toList.head? = some char)
    (next : Option Char)
    (rest : List Lexeme) :
    upcoming next (ofText text ++ rest) = some char := by
  rw [upcoming_append, upcoming_ofText begins]

/-- A string is cut off whatever stands behind it. -/
theorem areCut_string
    {body : String}
    {next : Option Char}
    {rest : List Lexeme}
    (quotable : isQuotable body = true)
    (cut : areCut next rest = true) :
    areCut next (string body :: rest) = true := by
  rw [areCut, cut, Bool.and_true]
  exact quotable

/-- A name is cut off if it does not go on. -/
theorem isCut_name
    {text : List Char}
    {next : Char}
    (word : isName text = true)
    (ends : isIdentifierContinue next = false) :
    (token .identifier text).isCut (some next) = true := by
  simpa [isCut, isName, ends] using word

/-- No mark goes on with a character that an identifier may begin with. -/
theorem isMark_of_isIdentifierStart
    {text : List Char}
    {char : Char}
    (start : isIdentifierStart char = true)
    (cut : isMark text none = true) :
    isMark text (some char) = true := by
  have noDigit : char.isDigit = false := by
    refine Bool.eq_false_iff.2 fun digit => ?_
    have low : char.toNat < 0x41 := by
      simp only [Char.isDigit, Bool.and_eq_true, decide_eq_true_eq, UInt32.le_iff_toNat_le] at digit
      exact Nat.lt_of_le_of_lt digit.2 (by decide)
    have outside : identifierStartRanges.contains char.toNat = false :=
      RangeTable.contains_cons_of_lt low
    simp only [isIdentifierStart, outside, Bool.or_false, beq_iff_eq] at start
    subst start
    cases digit
  have noMark : ∀ mark ∈ Lexer.marks, mark.toList.all (!isIdentifierStart ·) = true := by
    decide
  simp only [isMark, Option.toList_none, List.append_nil, Option.any_none, Bool.not_false,
    Bool.and_true, Bool.and_eq_true, Bool.not_eq_true'] at cut
  simp only [isMark, Bool.and_eq_true, Bool.not_eq_true', Option.any_some, List.any_eq_false]
  refine ⟨⟨cut.1, ?_⟩, fun mark present goesOn => ?_⟩
  · obtain _ | ⟨_, _ | ⟨_, _⟩⟩ := text
    · rfl
    · simpa using noDigit
    · simpa using cut.2
  · have within : char ∈ mark.toList :=
      (List.isPrefixOf_iff_prefix.1 goesOn).subset (by simp)
    have other := List.all_eq_true.1 (noMark mark present) char within
    rw [start] at other
    cases other

theorem areCut_ofType
    {text : String}
    {next : Char}
    (named : isNameText text = true)
    (ends : isIdentifierContinue next = false) :
    areCut (some next) (ofType text) = true := by
  obtain ⟨first, word, ⟨_, spelt⟩ | ⟨second, word', _, spelt⟩⟩ := exists_ofType named
  · rw [spelt, areCut, areCut, Bool.and_true]
    exact isCut_name word ends
  · rw [spelt, areCut, areCut, areCut, areCut, Bool.and_true, Bool.and_eq_true, Bool.and_eq_true]
    refine ⟨isCut_name word (by decide), ?_, isCut_name word' ends⟩
    cases second with
    | nil => cases word'
    | cons char more =>
        simp only [isName, isWord, Bool.and_eq_true] at word'
        exact isMark_of_isIdentifierStart word'.1.1 (by decide)

/-- Only the last lexeme has to be cut off the text behind all of them. -/
theorem areCut_of_getLast?
    {lexemes : List Lexeme}
    {char : Char}
    {next : Option Char}
    (last : Lexeme)
    (ends : lexemes.getLast? = some last)
    (begins : last.spelling.head? = some char)
    (cut : areCut (some char) lexemes.dropLast = true)
    (cutLast : last.isCut next = true) :
    areCut next lexemes = true := by
  obtain ⟨front, rfl⟩ := List.getLast?_eq_some_iff.1 ends
  rw [List.dropLast_concat] at cut
  refine areCut_append_of char cut (by simp [upcoming, begins]) ?_
  rw [areCut, areCut, Bool.and_true]
  exact cutLast

theorem areCut_constructorLexemes
    {descriptor : Descriptor}
    (pastable : descriptor.isPastable = true) :
    areCut (some ',') (constructorLexemes descriptor) = true := by
  simp only [Descriptor.isPastable, Bool.and_eq_true] at pastable
  obtain ⟨⟨ctorName, type⟩, namePrefix⟩ := pastable
  have specType := isNameText_of_isTypeText type
  obtain ⟨char, begins, start⟩ := exists_head?_of_isNameText specType
  have beginsType (next : Option Char) (rest : List Lexeme) :
      upcoming next (ofType descriptor.specType ++ rest) = some char := by
    rw [upcoming_append, upcoming, spell_ofType, begins, Option.some_or]
  unfold constructorLexemes
  refine areCut_append_of '"' (by decide) rfl (areCut_string ctorName ?_)
  -- Behind a star and behind a blank there may be any name.
  have cutFunction : areCut (some char) (ofText WiringTemplate.functionText) = true :=
    areCut_of_getLast? (token .mark ['*']) (by decide) rfl (by decide +kernel)
      (isMark_of_isIdentifierStart start (by decide))
  have cutVariable : areCut (some char) (ofText WiringTemplate.variableText) = true :=
    areCut_of_getLast? (blank ' ') (by decide) rfl (by decide +kernel)
      (show isBlank ' ' = true by decide)
  refine areCut_append_of char cutFunction (beginsType _ _) ?_
  refine areCut_append_of ',' (areCut_ofType specType (by decide)) ?_ ?_
  · exact upcoming_ofText_append (by decide) _ _
  refine areCut_append_of char cutVariable (beginsType _ _) ?_
  refine areCut_append_of '\n' (areCut_ofType specType (by decide)) ?_ ?_
  · exact upcoming_ofText_append (by decide) _ _
  refine areCut_append_of '"' (by decide) rfl (areCut_string namePrefix ?_)
  decide

theorem upcoming_flatMap
    {element : Type}
    {lexemesOf : element -> List Lexeme}
    {char : Char}
    (begins : ∀ one next, upcoming next (lexemesOf one) = some char)
    (elements : List element) :
    upcoming (some char) (elements.flatMap lexemesOf) = some char := by
  cases elements with
  | nil => rfl
  | cons first rest => rw [List.flatMap_cons, upcoming_append, begins]

theorem areCut_flatMap
    {element : Type}
    {lexemesOf : element -> List Lexeme}
    {elements : List element}
    {char : Char}
    (cut : ∀ one ∈ elements, areCut (some char) (lexemesOf one) = true)
    (begins : ∀ one next, upcoming next (lexemesOf one) = some char) :
    areCut (some char) (elements.flatMap lexemesOf) = true := by
  induction elements with
  | nil => rfl
  | cons first rest inductionHypothesis =>
      rw [List.forall_mem_cons] at cut
      exact areCut_append_of char cut.1 (upcoming_flatMap begins rest) (inductionHypothesis cut.2)

theorem areCut_packageLexemes
    {file : WiringFile}
    (package : isName file.package.toList = true) :
    areCut (some '\n') file.packageLexemes = true := by
  cases spelt : file.package.toList with
  | nil =>
      rw [spelt] at package
      cases package
  | cons char more =>
      rw [spelt] at package
      unfold packageLexemes
      rw [spelt]
      refine areCut_append_of char ?_ rfl ?_
      · exact areCut_of_getLast? (blank ' ') (by decide) rfl (by decide +kernel)
          (show isBlank ' ' = true by decide)
      · rw [areCut, areCut, Bool.and_true]
        exact isCut_name package (by decide)

theorem areCut_importLexemes
    {file : WiringFile}
    (imports : ∀ path ∈ file.imports, isQuotable path = true)
    (sideEffects : ∀ path ∈ file.sideEffects, isQuotable path = true) :
    areCut (some '\n') file.importLexemes = true := by
  have beginsPath (path : String) (next : Option Char) :
      upcoming next (pathLexemes path) = some '\n' :=
    upcoming_ofText_append (by decide) _ _
  have beginsSideEffect (path : String) (next : Option Char) :
      upcoming next (sideEffectLexemes path) = some '\n' :=
    upcoming_ofText_append (by decide) _ _
  have cutPaths : areCut (some '\n') (file.imports.flatMap pathLexemes) = true :=
    areCut_flatMap (fun path present => areCut_append_of '"' (by decide) rfl
      (areCut_string (imports path present) rfl)) beginsPath
  have cutSideEffects : areCut (some '\n') (file.sideEffects.flatMap sideEffectLexemes) = true :=
    areCut_flatMap (fun path present => areCut_append_of '"' (by decide) rfl
      (areCut_string (sideEffects path present) rfl)) beginsSideEffect
  have beginsClose : upcoming (some '\n') (ofText "\n)") = some '\n' :=
    upcoming_ofText (by decide) _
  have beginsSideEffects :
      upcoming (some '\n') (file.sideEffects.flatMap sideEffectLexemes ++ ofText "\n)") =
        some '\n' := by
    rw [upcoming_append, beginsClose, upcoming_flatMap beginsSideEffect]
  have beginsPaths : upcoming (some '\n') (file.imports.flatMap pathLexemes ++
      (file.sideEffects.flatMap sideEffectLexemes ++ ofText "\n)")) = some '\n' := by
    rw [upcoming_append, beginsSideEffects, upcoming_flatMap beginsPath]
  unfold importLexemes
  refine areCut_append_of '\n' (by decide) beginsPaths ?_
  refine areCut_append_of '\n' cutPaths beginsSideEffects ?_
  exact areCut_append_of '\n' cutSideEffects beginsClose (by decide)

theorem areCut_callLexemes
    {file : WiringFile}
    (pastable : ∀ descriptor ∈ file.descriptors, descriptor.isPastable = true) :
    areCut (some '\n') file.callLexemes = true := by
  have begins (descriptor : Descriptor) (next : Option Char) :
      upcoming next (constructorLexemes descriptor ++ ofText ",") = some '\n' := by
    rw [upcoming_append]
    exact upcoming_ofText_append (by decide) _ _
  have cut : areCut (some '\n') (file.descriptors.flatMap fun descriptor =>
      constructorLexemes descriptor ++ ofText ",") = true :=
    areCut_flatMap (fun descriptor present =>
      areCut_append_of ',' (areCut_constructorLexemes (pastable descriptor present))
        (upcoming_ofText (by decide) _) (by decide +kernel)) begins
  have beginsClose : upcoming (some '\n') (ofText "\n\t)") = some '\n' :=
    upcoming_ofText (by decide) _
  unfold callLexemes
  refine areCut_append_of '\n' (by decide) ?_ ?_
  · rw [upcoming_append, beginsClose, upcoming_flatMap begins]
  · exact areCut_append_of '\n' cut beginsClose (by decide)

/-- What stands in front of the function is cut into its lexemes. -/
theorem areCut_front
    {file : WiringFile}
    (package : isName file.package.toList = true)
    (imports : ∀ path ∈ file.imports, isQuotable path = true)
    (sideEffects : ∀ path ∈ file.sideEffects, isQuotable path = true) :
    areCut (some '\n') (file.packageLexemes ++ (remarkLexemes ++ file.importLexemes)) = true := by
  unfold remarkLexemes
  refine areCut_append_of '\n' (areCut_packageLexemes package)
    (upcoming_ofText_append (by decide) _ _) ?_
  refine areCut_append_of 'i' (by decide) ?_ (areCut_importLexemes imports sideEffects)
  unfold importLexemes
  exact upcoming_ofText_append (by decide) _ _

/-- If everything can be pasted then the standard text is cut into its lexemes. -/
theorem areCut_standardLexemes
    {file : WiringFile}
    (pastable : file.isPastable = true) :
    areCut none file.standardLexemes = true := by
  simp only [isPastable, Bool.and_eq_true, List.all_eq_true] at pastable
  obtain ⟨⟨⟨package, imports⟩, sideEffects⟩, descriptors⟩ := pastable
  have split : file.standardLexemes =
      (file.packageLexemes ++ (remarkLexemes ++ file.importLexemes)) ++
        (functionLexemes ++ (file.callLexemes ++ ofText "\n\x7d\n")) := by
    simp only [standardLexemes, List.append_assoc]
  rw [split]
  unfold functionLexemes
  refine areCut_append_of '\n' (areCut_front package imports sideEffects) ?_ ?_
  · rw [List.append_assoc]
    exact upcoming_ofText_append (by decide) _ _
  refine areCut_append_of '(' (by decide) ?_ ?_
  · unfold callLexemes
    rw [List.append_assoc]
    exact upcoming_ofText_append (by decide) _ _
  refine areCut_append_of '\n' (areCut_callLexemes descriptors)
    (upcoming_ofText (by decide) _) (by decide +kernel)

end WiringFile
end ConfigWiring
