import ConfigWiring.Proofs.WiringFile.Acceptance

/-!
# The standard text as a source

A package clause, the imports and one function are all that the standard text has, each read to the
end of its line.  So the text is read to its end, and no types are declared in it.
-/

namespace ConfigWiring

open Go

namespace WiringFile

open Go.Lexeme Go.Rule

/-! ## The tokens of the standard text -/

/-- Lexemes behind a line break or none look like some tokens, and leave a line break or none
behind the last of them. -/
structure LooksLike (broken : Bool) (lexemes : List Lexeme) (tokens : List Token) (breaks : Bool) :
    Prop where
  /-- The lexemes look like the tokens. -/
  shown : looks broken lexemes = tokens
  /-- Whether a line break stands behind the last of them. -/
  behind : breaksBehind broken lexemes = breaks

namespace LooksLike

variable {broken between breaks : Bool} {front back : List Lexeme} {tokens tokens' : List Token}

theorem append
    (looksFront : LooksLike broken front tokens between)
    (looksBack : LooksLike between back tokens' breaks) :
    LooksLike broken (front ++ back) (tokens ++ tokens') breaks where
  shown := by rw [looks_append, looksFront.behind, looksFront.shown, looksBack.shown]
  behind := by rw [breaksBehind_append, looksFront.behind, looksBack.behind]

theorem flatMap
    {element : Type}
    {lexemesOf : element -> List Lexeme}
    (one : ∀ one, LooksLike false (lexemesOf one) tokens false)
    (elements : List element) :
    LooksLike false (elements.flatMap lexemesOf) (elements.map fun _ => tokens).flatten false := by
  induction elements with
  | nil => exact ⟨rfl, rfl⟩
  | cons first rest inductionHypothesis => exact (one first).append inductionHypothesis

end LooksLike

/-- The token that the import declaration begins with. -/
def importKeyword : Token := look .keyword "import".toList true

/-- The token that the function begins with. -/
def funcKeyword : Token := look .keyword "func".toList true

/-- The tokens of the package clause. -/
def packageTokens (file : WiringFile) : List Token :=
  [look .keyword "package".toList false, look .identifier file.package.toList false]

/-- The tokens of an import. -/
def pathTokens : List Token := [look .interpreted [] true]

/-- The tokens of an import for its side effects. -/
def sideEffectTokens : List Token := [look .identifier ['_'] true, look .interpreted [] false]

/-- The tokens of each import. -/
def specTokens (file : WiringFile) : List (List Token) :=
  file.imports.map (fun _ => pathTokens) ++ file.sideEffects.map fun _ => sideEffectTokens

/-- The tokens of the import declaration. -/
def importTokens (file : WiringFile) : List Token :=
  [importKeyword] ++ ([look .mark ['('] false] ++ (file.specTokens.flatten ++ [closing]))

/-- The tokens of the function in front of its call. -/
def functionTokens : List Token := looks false functionLexemes

/-- The closing brace on a line of its own. -/
def closingBrace : Token := look .mark ['\x7d'] true

/-- The end of the text, behind a line break. -/
def finish : Token := look .finish [] true

theorem looks_packageLexemes (file : WiringFile) :
    LooksLike false file.packageLexemes file.packageTokens false := by
  have keyword : LooksLike false (ofText "package ") [look .keyword "package".toList false] false :=
    ⟨by decide, by decide +kernel⟩
  exact keyword.append ⟨rfl, rfl⟩

theorem looks_importLexemes (file : WiringFile) :
    LooksLike true file.importLexemes file.importTokens false := by
  have keyword : LooksLike true (ofText "import (")
      [look .keyword "import".toList true, look .mark ['('] false] false :=
    ⟨by decide, by decide +kernel⟩
  have feed : LooksLike false (ofText "\n\t") [] true := ⟨by decide, by decide +kernel⟩
  have blank : LooksLike false (ofText "\n\t_ ") [look .identifier ['_'] true] false :=
    ⟨by decide, by decide +kernel⟩
  have shut : LooksLike false (ofText "\n)") [closing] false :=
    ⟨by decide, by decide +kernel⟩
  have path (path : String) : LooksLike false (pathLexemes path) pathTokens false :=
    feed.append ⟨rfl, rfl⟩
  have sideEffect (path : String) : LooksLike false (sideEffectLexemes path) sideEffectTokens false :=
    blank.append ⟨rfl, rfl⟩
  rw [importTokens, specTokens, List.flatten_append, List.append_assoc]
  exact keyword.append ((LooksLike.flatMap path file.imports).append
    ((LooksLike.flatMap sideEffect file.sideEffects).append shut))

/-- The standard text looks like a package clause, imports, a function with its call, and the end
behind a line break. -/
theorem looks_standardLexemes (file : WiringFile) :
    LooksLike false file.standardLexemes
      (file.packageTokens ++ (file.importTokens ++ (functionTokens ++
        (looks false file.callLexemes ++ [closingBrace])))) true := by
  have remark : LooksLike false remarkLexemes [] true := ⟨by decide, by decide +kernel⟩
  have function : LooksLike false functionLexemes functionTokens false := ⟨rfl, by decide⟩
  have brace : LooksLike false (ofText "\n\x7d\n") [closingBrace] true :=
    ⟨by decide, by decide +kernel⟩
  have call : LooksLike false file.callLexemes (looks false file.callLexemes) false := by
    refine ⟨rfl, ?_⟩
    have shut (broken : Bool) : breaksBehind broken (ofText "\n\t)") = false := by
      cases broken <;> decide
    rw [callLexemes, breaksBehind_append, breaksBehind_append, shut]
  exact (looks_packageLexemes file).append (remark.append ((looks_importLexemes file).append
    (function.append (call.append brace))))

/-! ## Reading the items -/

theorem isBlind_mark (spelling : String) : (Rule.mark spelling : Rule Part).IsBlind :=
  fun token => token.isMark_blur spelling

theorem isBlind_keyword (spelling : String) : (Rule.keyword spelling : Rule Part).IsBlind :=
  fun token => token.isKeyword_blur spelling

/-- A line of the file: an item and the end of its line. -/
def line : Rule Part := .both (.named .item) .lineEnd

theorem isBlind_line : line.IsBlind := ⟨trivial, trivial⟩

/-- An item that a break stands behind is a line. -/
theorem reads_line
    {reach : Nat}
    {item : List Token}
    {next : Token}
    (reads : (Rule.named .item).Reads (reach + 1) .lines item [next])
    (breaks : next.afterBreak = true) :
    line.Reads (reach + 2) .lines item [next] := by
  have ends : (Rule.lineEnd : Rule Part).Reads (reach + 1) .lines [] [next] :=
    .lineEnd_break (by rw [breaks]; rfl)
  have whole : line.Reads (reach + 2) .lines (item ++ []) [next] := .both reads ends
  rwa [List.append_nil] at whole

/-- A declaration is an item. -/
theorem reads_item
    {reach : Nat}
    {tokens behind : List Token}
    (reads : (Part.rule .declaration).Reads reach .lines tokens behind) :
    (Rule.named .item).Reads (reach + 4) .lines tokens behind :=
  .named (.node (by decide) (.either_left (.named reads) _))

theorem reads_package (file : WiringFile) :
    line.Reads 10 .lines file.packageTokens [importKeyword] := by
  have name : (Part.identifier).Reads 1 .lines [look .identifier file.package.toList false]
      [importKeyword] := .token Token.isIdentifier_blur rfl _
  have clause : (Rule.named .packageClause).Reads 4 .lines file.packageTokens [importKeyword] :=
    .named (.node (by decide) (.both (.token (isBlind_keyword _) (by decide) _) name))
  exact reads_line (reads_item (.either_left clause _)) rfl

/-- How the paths of imports are read between parentheses. -/
def specs : Rule Part := .lineList (.named .importSpec)

theorem mem_specTokens
    {file : WiringFile}
    {tokens : List Token}
    (present : tokens ∈ file.specTokens) :
    tokens ∈ [pathTokens, sideEffectTokens] := by
  rcases List.mem_append.1 present with path | sideEffect
  · obtain ⟨_, _, rfl⟩ := List.mem_map.1 path
    simp
  · obtain ⟨_, _, rfl⟩ := List.mem_map.1 sideEffect
    simp

theorem reads_specs (file : WiringFile) :
    specs.Reads (file.specTokens.length + 25) .lines file.specTokens.flatten [closing] := by
  have blind : specs.IsBlind := by simp [specs, IsBlind, Rule.lineList, Rule.optional, Rule.sequence]
  cases all : file.specTokens with
  | nil => exact (reads_of_foresee_tokens blind (by decide)).mono (Nat.le_add_left 25 _)
  | cons first rest =>
      have among : ∀ tokens ∈ first :: rest, tokens ∈ [pathTokens, sideEffectTokens] := by
        rw [← all]
        exact fun tokens => mem_specTokens
      rw [List.forall_mem_cons] at among
      have firstForeseen : ∀ tokens ∈ [pathTokens, sideEffectTokens],
          (Rule.named .importSpec).foresee 20 .lines (tokens.map .single ++ [].map .single) =
            .reads ([].map .single) := by decide
      have furtherForeseen : ∀ tokens ∈ [pathTokens, sideEffectTokens],
          (Rule.both .lineEnd (.named .importSpec)).foresee 20 .lines
            (tokens.map .single ++ [].map .single) = .reads ([].map .single) := by decide
      have nonempty : ∀ tokens ∈ [pathTokens, sideEffectTokens], tokens ≠ [] := by decide
      have blindSpec : (Rule.both .lineEnd (.named .importSpec) : Rule Part).IsBlind :=
        ⟨trivial, trivial⟩
      have readsFirst : (Rule.named .importSpec).Reads 20 .lines first [] :=
        reads_of_foresee_tokens trivial (firstForeseen first among.1)
      have stops : (Rule.both .lineEnd (.named .importSpec)).Refuses 20 .lines [closing] :=
        refuses_of_foresee_tokens blindSpec (by decide)
      have further : (Rule.many (.both .lineEnd (.named .importSpec))).Reads (20 + rest.length + 1)
          .lines (rest.flatMap id) [closing] :=
        .many_flatMap
          (fun tokens present => reads_of_foresee_tokens blindSpec
            (furtherForeseen tokens (among.2 tokens present)))
          (fun tokens present => nonempty tokens (among.2 tokens present))
          (fun tokens _ => List.nil_prefix) List.nil_prefix stops
      have ends : (Rule.optional .lineEnd : Rule Part).Reads 3 .lines [] [closing] :=
        reads_of_foresee_tokens ⟨trivial, trivial⟩ (by decide)
      rw [List.flatMap_id] at further
      have readsRest := further.both (ends.mono (by omega))
      rw [List.append_nil] at readsRest
      have list := ((readsFirst.extend List.nil_prefix).mono (by omega)).both readsRest
      exact (list.either_left .nothing).mono (by rw [List.length_cons]; omega)

theorem reads_import (file : WiringFile) :
    line.Reads (file.specTokens.length + 40) .lines file.importTokens [funcKeyword] := by
  have keyword (behind : List Token) : (Rule.keyword "import" : Rule Part).Reads 1 .lines
      [importKeyword] behind :=
    .token (isBlind_keyword _) (by decide) _
  have opened (behind : List Token) : (Rule.mark "(" : Rule Part).Reads 1 .lines
      [look .mark ['('] false] behind :=
    .token (isBlind_mark _) (by decide) _
  have shut : (Rule.mark ")" : Rule Part).Reads 1 .lines [closing] [funcKeyword] :=
    .token (isBlind_mark _) (by decide) _
  have list : (Rule.both specs (.mark ")")).Reads (file.specTokens.length + 26) .lines
      (file.specTokens.flatten ++ [closing]) [funcKeyword] :=
    .both ((reads_specs file).extend (List.prefix_append _ _)) (shut.mono (by omega))
  have enclosed : (Rule.enclosed "(" ")" .lines specs).Reads (file.specTokens.length + 28) .lines
      ([look .mark ['('] false] ++ (file.specTokens.flatten ++ [closing])) [funcKeyword] :=
    .both ((opened _).mono (by omega)) list.inside
  have declared : (Rule.named .importDeclaration).Reads (file.specTokens.length + 31) .lines
      file.importTokens [funcKeyword] :=
    .named (.both ((keyword _).mono (by omega)) (enclosed.either_left _))
  have noPackage (behind : List Token) :
      (Rule.named .packageClause).Refuses (file.specTokens.length + 31) .lines
        (importKeyword :: behind) :=
    .named (.node (.both_left (.token (isBlind_keyword _) (by decide)) _) _)
  have declaration : (Part.rule .declaration).Reads (file.specTokens.length + 33) .lines
      file.importTokens [funcKeyword] :=
    .either_right ((noPackage _).mono (by omega)) (declared.either_left _)
  exact (reads_line (reads_item declaration) rfl).mono (by omega)

/-- The function is read to the end of its line. -/
theorem reads_function
    {file : WiringFile}
    (something : file.descriptors ≠ [])
    (pastable : ∀ descriptor ∈ file.descriptors, descriptor.isPastable = true) :
    line.Reads (file.descriptors.length + 300) .lines
      (functionTokens ++ (looks false file.callLexemes ++ [closingBrace])) [finish] := by
  have foreseen : line.foresee 130 .lines
      ((functionTokens.map .single ++
        [.stretch (look .mark ['('] false) .lines .call, .single closingBrace]) ++
          [.single finish]) = .reads [.single finish] := by
    decide
  have begins : (looks false file.callLexemes).head? = some (look .mark ['('] false) := by
    have opened : looks false (ofText "(") = [look .mark ['('] false] := by decide
    rw [callLexemes, looks_append, opened]
    rfl
  have shown : List.Forall₂ (Sight.Shows (170 + file.descriptors.length))
      (functionTokens.map .single ++
        [.stretch (look .mark ['('] false) .lines .call, .single closingBrace])
      (functionTokens.map ([·]) ++ [looks false file.callLexemes, [closingBrace]]) :=
    List.rel_append (forall₂_single _ _)
      (.cons ⟨begins, reads_call something pastable⟩ (.cons rfl .nil))
  have reads := reads_of_foresee isBlind_line shown (forall₂_single _ [finish]) foreseen
  rw [List.flatten_append, flatten_map_single, flatten_map_single] at reads
  have reads : line.Reads (170 + file.descriptors.length + 130) .lines
      (functionTokens ++ (looks false file.callLexemes ++ ([closingBrace] ++ []))) [finish] := reads
  exact reads.mono (by omega)

/-! ## Reading the text -/

/-- The standard text is a file of three items. -/
theorem reads_file
    {file : WiringFile}
    (something : file.descriptors ≠ [])
    (pastable : ∀ descriptor ∈ file.descriptors, descriptor.isPastable = true) :
    (Rule.named .file).Reads (file.specTokens.length + file.descriptors.length + 310) .lines
      (file.packageTokens ++ (file.importTokens ++ (functionTokens ++
        (looks false file.callLexemes ++ [closingBrace])))) [finish] := by
  have stops : line.Refuses 130 .lines [finish] :=
    refuses_of_foresee_tokens isBlind_line (by decide)
  have last : (Rule.optional (.node .item (.named .declaration)) : Rule Part).Reads 20 .lines []
      [finish] :=
    reads_of_foresee_tokens ⟨trivial, trivial⟩ (by decide)
  have begins (behind : List Token) : [funcKeyword] <+: functionTokens ++ behind := by
    have front : [funcKeyword] <+: functionTokens := by decide
    exact front.trans (List.prefix_append _ _)
  have lines : (Rule.many line).Reads (file.specTokens.length + file.descriptors.length + 303) .lines
      (file.packageTokens ++ (file.importTokens ++ ((functionTokens ++
        (looks false file.callLexemes ++ [closingBrace])) ++ []))) [finish] := by
    refine .many_cons (List.cons_ne_nil _ _) ?_ (.many_cons (List.cons_ne_nil _ _) ?_
      (.many_cons (by simp) ?_ (.many_nil (stops.mono (by omega)))))
    · exact ((reads_package file).extend ⟨_, rfl⟩).mono (by omega)
    · rw [List.append_nil, List.append_assoc]
      exact ((reads_import file).extend (begins _)).mono (by omega)
    · exact (reads_function something pastable).mono (by omega)
  rw [List.append_nil] at lines
  have whole : (Rule.named .file).Reads _ .lines _ [finish] :=
    .named (lines.both (last.mono (Nat.le_add_left 20 _)))
  rw [List.append_nil] at whole
  exact whole.mono (by omega)

/-- There are no more stretches than tokens in them. -/
theorem length_le_length_flatten
    {stretches : List (List Token)}
    (nonempty : ∀ stretch ∈ stretches, stretch ≠ []) :
    stretches.length ≤ stretches.flatten.length := by
  induction stretches with
  | nil => exact Nat.le_refl 0
  | cons first rest inductionHypothesis =>
      rw [List.forall_mem_cons] at nonempty
      have here := List.length_pos_iff.2 nonempty.1
      have there := inductionHypothesis nonempty.2
      rw [List.flatten_cons, List.length_append, List.length_cons]
      omega

/-- Every constructor has a token of its own. -/
theorem length_le_length_looks
    {file : WiringFile}
    (something : file.descriptors ≠ [])
    (pastable : ∀ descriptor ∈ file.descriptors, descriptor.isPastable = true) :
    file.descriptors.length ≤ (looks false file.callLexemes).length := by
  obtain ⟨first, rest, descriptors⟩ := List.exists_cons_of_ne_nil something
  have further : rest.length ≤ (rest.flatMap fun descriptor =>
      comma :: looks false (constructorLexemes descriptor)).length := by
    have nonempty : ∀ stretch ∈ rest.map fun descriptor =>
        comma :: looks false (constructorLexemes descriptor), stretch ≠ [] := by simp
    have all := length_le_length_flatten nonempty
    rwa [List.length_map] at all
  rw [looks_callLexemes descriptors pastable, descriptors]
  simp only [List.length_append, List.length_cons, List.length_nil]
  omega

/-- A text is well-formed if the rules read its tokens to the end, and then none of its items
declares types. -/
theorem exists_itemsOf_of_reads
    {text : List Char}
    {front : List Token}
    {reach : Nat}
    (reads : (Rule.named .file).Reads reach .lines front [finish])
    (blurred : (tokenize text).map Token.blur = front ++ [finish])
    (enough : reach ≤ 100 * front.length) :
    ∃ items, itemsOf text = .ok items ∧ ∀ item ∈ items, item.IsQuiet := by
  obtain ⟨tokens, ends, split, seen, ended⟩ := List.map_eq_append_iff.1 blurred
  obtain ⟨last, rfl, isLast⟩ := List.map_eq_singleton_iff.1 ended
  have lengths := congrArg List.length blurred
  simp only [List.length_map, List.length_append, List.length_singleton] at lengths
  obtain ⟨trees, read, quiet⟩ := reads (100 * ((tokenize text).length + 1)) (by omega)
    tokens [last] [] seen ended
  rw [List.append_nil, ← split] at read
  have finished : last.isFinish = true := by
    rw [Token.isFinish, ← Token.kind_blur, isLast]
    rfl
  have accepted : readFile (tokenize text) = some trees := by
    unfold readFile
    rw [read]
    simp [finished]
  refine ⟨trees, ?_, quiet⟩
  unfold itemsOf
  rw [accepted]

/-- The standard text is well-formed source, and none of its items declares types. -/
theorem exists_itemsOf_standardText
    {file : WiringFile}
    (something : file.descriptors ≠ [])
    (pastable : file.isPastable = true) :
    ∃ items, itemsOf file.standardText.toList = .ok items ∧ ∀ item ∈ items, item.IsQuiet := by
  have descriptors : ∀ descriptor ∈ file.descriptors, descriptor.isPastable = true := by
    simp only [isPastable, Bool.and_eq_true, List.all_eq_true] at pastable
    exact pastable.2
  have begins : (spell file.standardLexemes).head? = some 'p' := by
    rw [← toList_standardText, head?_standardText]
  have blurred := map_blur_run (areCut_standardLexemes pastable) Lexer.Place.start
  rw [← tokenize_of_head? begins (by decide)] at blurred
  rw [toList_standardText]
  generalize spell file.standardLexemes = text at blurred
  have looked := looks_standardLexemes file
  rw [show Lexer.Place.start.afterBreak = false from rfl, looked.shown, looked.behind] at blurred
  refine exists_itemsOf_of_reads (reads_file something descriptors) blurred ?_
  have paths : file.specTokens.length ≤ file.specTokens.flatten.length := by
    have nonempty : ∀ tokens ∈ [pathTokens, sideEffectTokens], tokens ≠ [] := by decide
    exact length_le_length_flatten fun stretch present => nonempty stretch (mem_specTokens present)
  have calls := length_le_length_looks something descriptors
  simp only [List.length_append, packageTokens, importTokens, List.length_cons, List.length_nil]
  omega

end WiringFile
end ConfigWiring
