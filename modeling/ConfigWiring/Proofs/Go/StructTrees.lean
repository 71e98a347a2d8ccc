import ConfigWiring.Proofs.Go.StructTokens
import ConfigWiring.Proofs.Go.Yielding

/-!
# The trees of struct declarations

The rules of the language make of the tokens of struct declarations one tree for each field, type
and declaration, in the order in which they are written.
-/

namespace ConfigWiring
namespace Go

open Lexeme Go.Part Rule

/-! ## What tokens look like -/

namespace Token

variable {kind : TokenKind} {text : List Char} {broken : Bool} {token : Token}

theorem Is.blur (told : token.Is kind text broken) : token.blur = look kind text broken := by
  obtain ⟨rfl, rfl, rfl⟩ := told
  rfl

theorem Is.isMark
    {spelling : String}
    (told : token.Is .mark text broken)
    (spelt : spelling.toList = text) :
    token.isMark spelling = true := by
  simp [Token.isMark, told.kind, told.text, spelt]

theorem Is.isMark_eq_false
    (told : token.Is kind text broken)
    (other : kind ≠ .mark)
    (spelling : String) :
    token.isMark spelling = false := by
  simp [Token.isMark, told.kind, other]

theorem Is.isKeyword
    {spelling : String}
    (told : token.Is .keyword text broken)
    (spelt : spelling.toList = text) :
    token.isKeyword spelling = true := by
  simp [Token.isKeyword, told.kind, told.text, spelt]

theorem Is.isIdentifier (told : token.Is .identifier text broken) : token.isIdentifier = true := by
  simp [Token.isIdentifier, told.kind]

theorem Is.isString (told : token.Is .raw text broken) : token.isString = true := by
  simp [Token.isString, told.kind]

end Token

/-- Every name looks like a plain one or like one with a value of its own. -/
theorem exists_look_identifier (text : List Char) (broken : Bool) :
    ∃ sample ∈ ['x'] :: Token.valueNames.map String.toList,
      look .identifier text broken = look .identifier sample broken := by
  by_cases valued : text ∈ Token.valueNames.map String.toList
  · exact ⟨text, List.mem_cons_of_mem _ valued, rfl⟩
  · refine ⟨['x'], List.mem_cons_self, ?_⟩
    have plain : (Token.mk .identifier text 0 0 0 broken []).isPlainName = true := by
      simp only [Token.isPlainName, Bool.and_eq_true, Bool.not_eq_true', List.any_eq_false]
      refine ⟨rfl, fun name present same => valued ?_⟩
      exact List.mem_map.2 ⟨name, present, (eq_of_beq same).symm⟩
    simp only [look, Token.blur, plain]
    rfl

/-- What stands on the right of a relation between lists stands beside something on the left. -/
theorem exists_mem_of_forall₂
    {first second : Type}
    {relation : first -> second -> Prop}
    {firsts : List first}
    {seconds : List second}
    (told : List.Forall₂ relation firsts seconds) :
    ∀ other ∈ seconds, ∃ one ∈ firsts, relation one other := by
  induction told with
  | nil => simp
  | @cons one other _ _ here _ inductionHypothesis =>
      refine List.forall_mem_cons.2 ⟨⟨one, List.mem_cons_self, here⟩, fun later present => ?_⟩
      obtain ⟨found, among, related⟩ := inductionHypothesis later present
      exact ⟨found, List.mem_cons_of_mem _ among, related⟩

/-! ## Fields -/

namespace FieldTokens

variable {line : FieldLine} {field : FieldTokens} {behind : List Token}

/-- The names of a field in their tree. -/
def namesTree (field : FieldTokens) : Tree :=
  .node .names (.leaf field.first ::
    field.further.flatMap fun pair => [.leaf pair.1, .leaf pair.2])

/-- The tree of a field. -/
def tree (field : FieldTokens) : Tree :=
  .node .field (field.namesTree :: .leaf field.type ::
    field.tag?.toList.map fun tag => .node .tag [.leaf tag])

/-- The names of a field are read up to its type. -/
theorem Tells.yields_names (told : field.Tells line) :
    (Rule.node .names (both identifier
      (onLine (both (mark ",") (commaSeparated identifier))))).Yields 20 .lines
      (field.first :: field.further.flatMap fun pair => [pair.1, pair.2]) (field.type :: behind)
      [field.namesTree] := by
  have noComma : field.type.isMark "," = false := told.type.isMark_eq_false (by decide) ","
  have pairs : ∀ pair ∈ field.further, pair.1.isMark "," = true ∧ pair.1.afterBreak = false ∧
      pair.2.isIdentifier = true := by
    intro pair present
    obtain ⟨name, _, comma, named⟩ := exists_mem_of_forall₂ told.further pair present
    exact ⟨comma.isMark rfl, comma.broken, named.isIdentifier⟩
  have stops : (both (mark ",") identifier : Rule Part).Misses 10 .lines (field.type :: behind) :=
    (Misses.token noComma).both_left
  have further : (onLine (both (mark ",") (commaSeparated identifier))).Yields 18 .lines
      (field.further.flatMap fun pair => [pair.1, pair.2]) (field.type :: behind)
      (field.further.flatMap fun pair => [.leaf pair.1, .leaf pair.2]) := by
    cases same : field.further with
    | nil => exact .onLine_none fun _ => (Misses.token noComma).both_left
    | cons pair more =>
        rw [same, List.forall_mem_cons] at pairs
        obtain ⟨⟨comma, unbroken, name⟩, others⟩ := pairs
        have pairRead (pair : Token × Token) (present : pair ∈ more) (rest : List Token) :
            (both (mark ",") identifier : Rule Part).Yields 10 .lines [pair.1, pair.2] rest
              [.leaf pair.1, .leaf pair.2] :=
          .both (.token (others pair present).1 _) (.token (others pair present).2.2 _)
        have moreRead : (many (both (mark ",") identifier)).Yields 11 .lines
            (more.flatMap fun pair => [pair.1, pair.2]) (field.type :: behind)
            (more.flatMap fun pair => [.leaf pair.1, .leaf pair.2]) :=
          .many_flatMap (fun pair present rest (_ : True) => pairRead pair present rest)
            (by simp) (by simp) trivial stops
        have listRead : (both (mark ",") (commaSeparated identifier)).Yields 13 .lines
            ([pair.1] ++ ([pair.2] ++ more.flatMap fun pair => [pair.1, pair.2]))
            (field.type :: behind)
            ([.leaf pair.1] ++ ([.leaf pair.2] ++
              more.flatMap fun pair => [.leaf pair.1, .leaf pair.2])) :=
          .both (.token comma _) (.both (.token name _) moreRead)
        exact (listRead.mono (by omega)).onLine_some unbroken
  exact .node _ (.both (.token told.first.isIdentifier _) further)

theorem Tells.exists_is_tag (told : field.Tells line) :
    ∀ tag, field.tag? = some tag -> ∃ text, tag.Is .raw text false := by
  have tagTold := told.tag
  generalize line.tag? = written, field.tag? = seen at tagTold
  cases tagTold with
  | none => simp
  | some isTag =>
      rintro tag ⟨⟩
      exact ⟨_, isTag⟩

/-- A tag is read if there is one. -/
theorem Tells.yields_tag
    (told : field.Tells line)
    (broken : atBreak .lines behind = true) :
    (onLine (.node .tag (.token Token.isString))).Yields 10 .lines field.tag?.toList behind
      (field.tag?.toList.map fun tag => .node .tag [.leaf tag]) := by
  cases same : field.tag? with
  | none => exact .onLine_none fun unbroken => absurd (broken.symm.trans unbroken) (by decide)
  | some tag =>
      obtain ⟨text, isTag⟩ := told.exists_is_tag tag same
      exact .onLine_some isTag.broken (.node _ (.token isTag.isString _))

/-- The type of a field is read up to the tag or to the end of the line. -/
theorem Tells.yields_type
    (told : field.Tells line)
    (broken : atBreak .lines behind = true) :
    (Rule.named .type).Yields 20 .lines [field.type] (field.tag?.toList ++ behind)
      [.leaf field.type] := by
  have plain : field.type.isPlainName = true := by
    rw [Token.isPlainName, told.type.kind, told.type.text]
    decide
  -- Behind the type there is a tag or a line break, so that its name is all of it.
  have noMark (spelling : String) (further : Rule Part)
      (unbroken : atBreak .lines (field.tag?.toList ++ behind) = false) :
      (both (mark spelling) further).Misses 5 .lines (field.tag?.toList ++ behind) := by
    cases same : field.tag? with
    | none =>
        rw [same] at unbroken
        exact absurd (broken.symm.trans unbroken) (by decide)
    | some tag =>
        obtain ⟨text, isTag⟩ := told.exists_is_tag tag same
        exact (Misses.token (isTag.isMark_eq_false (by decide) spelling)).both_left
  have noPoint : (onLine (both (mark ".") identifier)).Yields 10 .lines []
      (field.tag?.toList ++ behind) [] :=
    .onLine_none fun unbroken => (noMark "." identifier unbroken).mono (by omega)
  have noArguments : (onLine (Rule.named .typeArguments)).Yields 10 .lines []
      (field.tag?.toList ++ behind) [] :=
    .onLine_none fun unbroken => Misses.named (noMark "[" _ unbroken)
  have nothingMore : (sequence [onLine (both (mark ".") identifier),
      onLine (Rule.named .typeArguments)]).Yields 11 .lines ([] ++ []) (field.tag?.toList ++ behind)
        ([] ++ []) :=
    .both noPoint noArguments
  have name : (Rule.named .typeName).Yields 13 .lines [field.type] (field.tag?.toList ++ behind)
      [.leaf field.type] :=
    .named (.both (.token plain _) nothingMore)
  have simpleType : (Rule.named .simpleType).Yields 15 .lines [field.type]
      (field.tag?.toList ++ behind) [.leaf field.type] :=
    .named name.either_left
  have noGroup : (parenthesized (Rule.named .type)).Misses 15 .lines
      ([field.type] ++ (field.tag?.toList ++ behind)) :=
    (Misses.token (told.type.isMark_eq_false (by decide) "(")).both_left
  exact .named ((simpleType.either_right noGroup).mono (by omega))

/-- A field with a name is no embedded type. -/
theorem Tells.misses_embedded (told : field.Tells line) (behind : List Token) :
    (both (Rule.named .embeddedField) (ahead endsField)).Misses 20 .lines
      (field.tokens ++ behind) := by
  -- The name alone could be that of a type, so that the token behind it decides.
  have foreseen : ∀ sample ∈ ['x'] :: Token.valueNames.map String.toList,
      ∀ next ∈ [look .mark [','] false, look .identifier fieldType.text.toList false],
        (both (Rule.named .embeddedField) (ahead endsField)).foresee 20 .lines
          ([look .identifier sample true, next].map Sight.single) = .refuses := by
    decide
  have blind : (both (Rule.named Part.embeddedField) (ahead endsField)).IsBlind :=
    ⟨trivial, fun token => by simp [endsField]⟩
  have missesAhead (next : Token) (rest : List Token)
      (among : next.blur ∈
        [look .mark [','] false, look .identifier fieldType.text.toList false]) :
      (both (Rule.named .embeddedField) (ahead endsField)).Misses 20 .lines
        (field.first :: next :: rest) := by
    obtain ⟨sample, sampled, same⟩ := exists_look_identifier line.first.text.toList true
    have refuses := refuses_of_foresee_tokens blind (foreseen sample sampled next.blur among)
    have alike : [field.first, next].map Token.blur =
        [look .identifier sample true, next.blur] := by
      rw [List.map_cons, told.first.blur, same]
      rfl
    exact refuses.misses alike rest
  unfold tokens
  cases same : field.further with
  | nil => exact missesAhead field.type _ (by simp [told.type.blur])
  | cons pair more =>
      have present : pair ∈ field.further := by simp [same]
      obtain ⟨name, _, comma, _⟩ := exists_mem_of_forall₂ told.further pair present
      exact missesAhead pair.1 _ (by simp [comma.blur])

/-- A field is read up to the end of its line. -/
theorem Tells.yields_field
    (told : field.Tells line)
    (broken : atBreak .lines behind = true) :
    (Rule.named .field).Yields 40 .lines field.tokens behind [field.tree] := by
  have parts : field.tokens = (field.first :: field.further.flatMap fun pair => [pair.1, pair.2]) ++
      [field.type] ++ field.tag?.toList := by
    simp [tokens]
  have named : (both _ (Rule.named .type)).Yields 21 .lines
      ((field.first :: field.further.flatMap fun pair => [pair.1, pair.2]) ++ [field.type])
      (field.tag?.toList ++ behind) ([field.namesTree] ++ [.leaf field.type]) :=
    .both told.yields_names (told.yields_type broken)
  have noEmbedded := told.misses_embedded behind
  rw [parts, List.append_assoc _ field.tag?.toList] at noEmbedded
  have noPointer : (both (mark "*") (Rule.named .embeddedField)).Misses 30 .lines
      ((field.first :: field.further.flatMap fun pair => [pair.1, pair.2]) ++ [field.type] ++
        (field.tag?.toList ++ behind)) :=
    (Misses.token (told.first.isMark_eq_false (by decide) "*")).both_left
  have content := Yields.either_right noPointer
    ((named.either_right (noEmbedded.mono (by omega))).mono (by omega))
  rw [parts]
  exact .mono (.named (.node _ (content.both ((told.yields_tag broken).mono (by omega)))))
    (by omega)

end FieldTokens

/-! ## Declarations -/

theorem atBreak_of_is
    {kind : TokenKind}
    {text : List Char}
    {broken : Bool}
    {next : Token}
    (told : next.Is kind text broken)
    (rest : List Token) :
    atBreak .lines (next :: rest) = broken :=
  told.broken

namespace SpecTokens

variable {broken : Bool} {struct : StructText} {spec : SpecTokens} {behind : List Token}

/-- The type of a declaration in its tree. -/
def typeTree (spec : SpecTokens) : Tree :=
  .node .structType (.leaf spec.keyword :: .leaf spec.opening ::
    (spec.fields.map FieldTokens.tree ++ [.leaf spec.closing]))

/-- The tree of the name and the type of a declaration. -/
def tree (spec : SpecTokens) : Tree :=
  .node .typeSpec [.leaf spec.name, .node .type [spec.typeTree]]

/-- The fields of a struct are read up to the brace behind them. -/
theorem Tells.yields_fields (told : spec.Tells broken struct) :
    (lineList (Rule.named .field)).Yields 60 .lines (spec.fields.flatMap FieldTokens.tokens)
      (spec.closing :: behind) (spec.fields.map FieldTokens.tree) := by
  have ends : atBreak .lines (spec.closing :: behind) = true := atBreak_of_is told.closing behind
  have noField : (Rule.named Part.field).Misses 20 .lines (spec.closing :: behind) :=
    misses_of_foresee (by decide) told.closing.blur behind
  have tellsLine : ∀ field ∈ spec.fields, ∃ line, field.Tells line := fun field present =>
    (exists_mem_of_forall₂ told.fields field present).imp fun _ => And.right
  cases same : spec.fields with
  | nil => exact (Yields.optional_none (Misses.both_left noField)).mono (by omega)
  | cons first more =>
      rw [same, List.forall_mem_cons] at tellsLine
      obtain ⟨⟨line, toldFirst⟩, tellsMore⟩ := tellsLine
      have stops : (both lineEnd (Rule.named .field)).Misses 41 .lines (spec.closing :: behind) :=
        .both_right (.lineEnd ends) (noField.mono (by omega))
      have onNextLine (field : FieldTokens) (present : field ∈ more) (rest : List Token)
          (broken : atBreak .lines rest = true) :
          (both lineEnd (Rule.named .field)).Yields 41 .lines field.tokens rest [field.tree] := by
        obtain ⟨line, toldField⟩ := tellsMore field present
        exact .both (.lineEnd (atBreak_of_is toldField.first _)) (toldField.yields_field broken)
      have begins (field : FieldTokens) (present : field ∈ more) (rest : List Token) :
          atBreak .lines (field.tokens ++ rest) = true := by
        obtain ⟨line, toldField⟩ := tellsMore field present
        exact atBreak_of_is toldField.first _
      have further : (many (both lineEnd (Rule.named .field))).Yields 42 .lines
          (more.flatMap FieldTokens.tokens) (spec.closing :: behind)
          (more.flatMap fun field => [field.tree]) :=
        .many_flatMap onNextLine (by simp [FieldTokens.tokens]) begins ends stops
      have lastLine : (optional lineEnd : Rule Part).Yields 42 .lines []
          (spec.closing :: behind) [] :=
        .either_left (.lineEnd ends)
      have moreLines := further.both lastLine
      rw [List.append_nil, List.append_nil, ← List.map_eq_flatMap] at moreLines
      have between := fits_flatMap (atBreak .lines · = true) begins ends
      have firstLine := (toldFirst.yields_field between).mono (Nat.le_add_right 40 3)
      exact (firstLine.both moreLines).either_left.mono (by omega)

/-- The name and the type of a declaration are read as a specification. -/
theorem Tells.yields_spec (told : spec.Tells broken struct) :
    (Rule.named .typeSpec).Yields 80 .lines spec.tokens behind [spec.tree] := by
  have noMark := told.keyword.isMark_eq_false (by decide)
  let typeTokens := spec.keyword :: spec.opening ::
    (spec.fields.flatMap FieldTokens.tokens ++ [spec.closing])
  have structType : (Rule.named .structType).Yields 66 .lines typeTokens behind [spec.typeTree] :=
    .named (.node _ (.both (.token (told.keyword.isKeyword rfl) _)
      (.both (.token (told.opening.isMark rfl) _)
        (.inside (.both told.yields_fields (.token (told.closing.isMark rfl) behind))))))
  have noTypeName : (Rule.named .typeName).Misses 10 .lines (typeTokens ++ behind) :=
    misses_of_foresee (by decide) told.keyword.blur _
  have noPointer : (both (oneMark ["*", "~"]) (Rule.named .type)).Misses 67 .lines
      (typeTokens ++ behind) :=
    (Misses.token (by simp [noMark])).both_left
  have noGroup : (parenthesized (Rule.named .type)).Misses 70 .lines (typeTokens ++ behind) :=
    (Misses.token (noMark "(")).both_left
  have type : (Rule.named .type).Yields 72 .lines typeTokens behind [spec.typeTree] :=
    .named (.either_right noGroup (.named (.either_right (noTypeName.mono (by omega))
      (.either_right noPointer structType.either_left))))
  exact .named (.either_left (.node _
    (.both (.token told.name.isIdentifier _) (.node _ (type.mono (by omega))))))

end SpecTokens

/-! ## Items -/

/-- A type declaration is read as an item if the entries behind its keyword are read. -/
theorem yields_typeItem
    {keyword : Token}
    {broken : Bool}
    {tokens behind : List Token}
    {trees : List Tree}
    (told : keyword.Is .keyword typeWord broken)
    (yields : (entries (Rule.named .typeSpec)).Yields 90 .lines tokens behind trees) :
    (Rule.named .item).Yields 110 .lines (keyword :: tokens) behind
      [.node .item [.node .typeDeclaration (.leaf keyword :: trees)]] := by
  have missesPart (part : Part) (among : part ∈ [Part.declaration, .constDeclaration]) :
      (Rule.named part).Misses 20 .lines (keyword :: (tokens ++ behind)) := by
    have foreseen : ∀ part ∈ [Part.declaration, .constDeclaration],
        (Rule.named part).foresee 20 .lines [.single (look .keyword typeWord broken)] =
          .refuses := by
      cases broken <;> decide
    exact misses_of_foresee (foreseen part among) told.blur _
  have declared : (Rule.named .typeDeclaration).Yields 93 .lines (keyword :: tokens) behind
      [.node .typeDeclaration (.leaf keyword :: trees)] :=
    .named (.node _ (.both (.token (told.isKeyword rfl) _) yields))
  have statement : (Rule.named .statement).Yields 96 .lines (keyword :: tokens) behind
      [.node .typeDeclaration (.leaf keyword :: trees)] :=
    .named (.either_right ((missesPart _ (by decide)).mono (by omega)) declared.either_left)
  have noDeclaration := (missesPart Part.declaration (by decide)).mono (Nat.le_add_right 20 76)
  exact .mono (.named (.node _ (.either_right noDeclaration statement))) (by omega)

/-- The tree of a declaration with a keyword of its own. -/
def ItemTokens.tree (item : ItemTokens) : Tree :=
  .node .item [.node .typeDeclaration [.leaf item.keyword, item.spec.tree]]

/-- A declaration with a keyword of its own is read as an item. -/
theorem ItemTokens.Tells.yields_item
    {struct : StructText}
    {item : ItemTokens}
    (told : item.Tells struct)
    (behind : List Token) :
    (Rule.named .item).Yields 110 .lines item.tokens behind [item.tree] := by
  have noGroup : (enclosed "(" ")" .lines (lineEnded (Rule.named .typeSpec))).Misses 89 .lines
      (item.spec.tokens ++ behind) :=
    (Misses.token (told.spec.name.isMark_eq_false (by decide) "(")).both_left
  exact yields_typeItem told.keyword (.either_right noGroup (told.spec.yields_spec.mono (by omega)))

/-- Each of the declarations that stand below each other is told. -/
theorem Descends.exists_tells
    {seen : Type}
    {tells : StructText -> seen -> Prop}
    {head last : seen -> Token}
    {bound : Nat}
    {structs : List StructText}
    {all : List seen}
    (descends : Descends tells head last bound structs all) :
    ∀ found ∈ all, ∃ struct, tells struct found := by
  induction descends with
  | nil => simp
  | cons told _ _ _ inductionHypothesis =>
      exact List.forall_mem_cons.2 ⟨⟨_, told⟩, inductionHypothesis⟩

/-- The tree of a group of declarations. -/
def GroupTokens.tree (group : GroupTokens) : Tree :=
  .node .item [.node .typeDeclaration (.leaf group.keyword :: .leaf group.opening ::
    (group.specs.map SpecTokens.tree ++ [.leaf group.closing]))]

/-- A group of declarations is read as an item. -/
theorem GroupTokens.Tells.yields_item
    {structs : List StructText}
    {group : GroupTokens}
    (told : group.Tells structs)
    (behind : List Token) :
    (Rule.named .item).Yields 110 .lines group.tokens behind [group.tree] := by
  obtain ⟨openedBelow, opening⟩ := told.opening
  obtain ⟨bound, descends⟩ := told.specs
  have tellsSpec := descends.exists_tells
  have ends : atBreak .lines (group.closing :: behind) = true := atBreak_of_is told.closing behind
  have noSpec : (Rule.named .typeSpec).Misses 20 .lines (group.closing :: behind) :=
    misses_of_foresee (by decide) told.closing.blur behind
  have onLines (spec : SpecTokens) (present : spec ∈ group.specs) (rest : List Token)
      (broken : atBreak .lines rest = true) :
      (both (Rule.named .typeSpec) lineEnd).Yields 81 .lines spec.tokens rest [spec.tree] := by
    obtain ⟨struct, toldSpec⟩ := tellsSpec spec present
    have line := Yields.both toldSpec.yields_spec (.lineEnd broken)
    rwa [List.append_nil] at line
  have specs : (lineEnded (Rule.named .typeSpec)).Yields 82 .lines
      (group.specs.flatMap SpecTokens.tokens) (group.closing :: behind)
      (group.specs.map SpecTokens.tree) := by
    rw [List.map_eq_flatMap]
    refine .many_flatMap onLines (by simp [SpecTokens.tokens]) (fun spec present rest => ?_) ends
      (Misses.both_left (noSpec.mono (by omega)))
    obtain ⟨struct, toldSpec⟩ := tellsSpec spec present
    exact atBreak_of_is toldSpec.name _
  have entered : (entries (Rule.named .typeSpec)).Yields 86 .lines
      (group.opening :: (group.specs.flatMap SpecTokens.tokens ++ [group.closing])) behind
      (.leaf group.opening :: (group.specs.map SpecTokens.tree ++ [.leaf group.closing])) :=
    .either_left (.both (.token (opening.isMark rfl) _)
      (.inside (.both specs (.token (told.closing.isMark rfl) behind))))
  exact yields_typeItem told.keyword (entered.mono (by omega))

/-- The tree of a package clause. -/
def PackageTokens.tree (clause : PackageTokens) : Tree :=
  .node .item [.node .package [.leaf clause.keyword, .leaf clause.name]]

/-- A package clause is read as an item. -/
theorem PackageTokens.Tells.yields_item
    {package : Identifier}
    {clause : PackageTokens}
    (told : clause.Tells package)
    (behind : List Token) :
    (Rule.named .item).Yields 110 .lines clause.tokens behind [clause.tree] := by
  have declared : (Rule.named .packageClause).Yields 10 .lines clause.tokens behind
      [.node .package [.leaf clause.keyword, .leaf clause.name]] :=
    .named (.node _ (.both (.token (told.keyword.isKeyword rfl) _)
      (.token told.name.isIdentifier _)))
  have declaration : (Rule.named .declaration).Yields 12 .lines clause.tokens behind
      [.node .package [.leaf clause.keyword, .leaf clause.name]] :=
    .named declared.either_left
  exact .mono (.named (.node _ declaration.either_left)) (by omega)

/-! ## Files -/

/-- An item with the end of its line is read in front of a line break. -/
theorem yields_line
    {tokens behind : List Token}
    {trees : List Tree}
    (item : (Rule.named .item).Yields 110 .lines tokens behind trees)
    (broken : atBreak .lines behind = true) :
    (both (Rule.named .item) lineEnd).Yields 111 .lines tokens behind trees := by
  have line := Yields.both item (.lineEnd broken)
  rwa [List.append_nil, List.append_nil] at line

/-- No further item begins at the end of the text. -/
theorem misses_line
    {finish : Token}
    (told : finish.Is .finish [] true) :
    (both (Rule.named .item) lineEnd).Misses 111 .lines [finish] := by
  have noItem : (Rule.named .item).Misses 110 .lines [finish] :=
    misses_of_foresee (by decide) told.blur []
  exact noItem.both_left

/-- The items of a file are what its lines are read as. -/
theorem readFile_eq_some
    {tokens : List Token}
    {trees : List Tree}
    {finish : Token}
    (told : finish.Is .finish [] true)
    (something : tokens ≠ [])
    (yields : (many (both (Rule.named .item) lineEnd)).Yields 112 .lines tokens [finish] trees) :
    readFile (tokens ++ [finish]) = some trees := by
  have noDeclaration : (Rule.named .declaration).Misses 20 .lines [finish] :=
    misses_of_foresee (by decide) told.blur []
  have last : (Rule.optional (.node .item (.named Part.declaration))).Yields 112 .lines []
      [finish] [] :=
    .optional_none ((noDeclaration.mono (by omega)).node _)
  have whole : (Rule.named .file).Yields 114 .lines (tokens ++ []) [finish] (trees ++ []) :=
    .named (.both yields last)
  rw [List.append_nil, List.append_nil] at whole
  have longer : 0 < tokens.length := List.length_pos_iff.2 something
  have read := whole (100 * ((tokens ++ [finish]).length + 1)) (by simp; omega)
  have ended : finish.isFinish = true := by
    rw [Token.isFinish, told.kind]
    rfl
  unfold readFile
  rw [read]
  simp [ended]

/-- The items of a file in which each declaration has a keyword of its own. -/
theorem readFile_separate
    {package : Identifier}
    {clause : PackageTokens}
    {structs : List StructText}
    {items : List ItemTokens}
    {finish : Token}
    {bound : Nat}
    (clauseTold : clause.Tells package)
    (descends : Descends ItemTokens.Tells ItemTokens.keyword (fun item => item.spec.closing) bound
      structs items)
    (told : finish.Is .finish [] true) :
    readFile (clause.tokens ++ (items.flatMap ItemTokens.tokens ++ [finish])) =
      some (clause.tree :: items.map ItemTokens.tree) := by
  have tellsItem := descends.exists_tells
  have ends : atBreak .lines [finish] = true := atBreak_of_is told []
  have broken (item : ItemTokens) (present : item ∈ items) (rest : List Token) :
      atBreak .lines (item.tokens ++ rest) = true := by
    obtain ⟨struct, toldItem⟩ := tellsItem item present
    exact atBreak_of_is toldItem.keyword _
  have onLines (item : ItemTokens) (present : item ∈ items) (rest : List Token)
      (fits : atBreak .lines rest = true) :
      (both (Rule.named .item) lineEnd).Yields 111 .lines item.tokens rest [item.tree] := by
    obtain ⟨struct, toldItem⟩ := tellsItem item present
    exact yields_line (toldItem.yields_item rest) fits
  have lines : (many (both (Rule.named .item) lineEnd)).Yields 112 .lines
      (items.flatMap ItemTokens.tokens) [finish] (items.map ItemTokens.tree) := by
    rw [List.map_eq_flatMap]
    exact .many_flatMap onLines (by simp [ItemTokens.tokens]) broken ends (misses_line told)
  have begins : atBreak .lines (items.flatMap ItemTokens.tokens ++ [finish]) = true :=
    fits_flatMap (atBreak .lines · = true) broken ends
  rw [← List.append_assoc]
  exact readFile_eq_some told (List.append_ne_nil_of_left_ne_nil (List.cons_ne_nil _ _) _)
    (.many_cons (List.cons_ne_nil _ _) (yields_line (clauseTold.yields_item _) begins) lines)

/-- The items of a file in which all declarations are in one group. -/
theorem readFile_grouped
    {package : Identifier}
    {clause : PackageTokens}
    {structs : List StructText}
    {group : GroupTokens}
    {finish : Token}
    (clauseTold : clause.Tells package)
    (groupTold : group.Tells structs)
    (told : finish.Is .finish [] true) :
    readFile (clause.tokens ++ (group.tokens ++ [finish])) = some [clause.tree, group.tree] := by
  have ends : atBreak .lines [finish] = true := atBreak_of_is told []
  have begins : atBreak .lines (group.tokens ++ [finish]) = true :=
    atBreak_of_is groupTold.keyword _
  have last : (many (both (Rule.named .item) lineEnd)).Yields 112 .lines (group.tokens ++ [])
      [finish] ([group.tree] ++ []) :=
    .many_cons (List.cons_ne_nil _ _) (yields_line (groupTold.yields_item _) ends)
      (.many_nil (misses_line told))
  rw [List.append_nil] at last
  rw [← List.append_assoc]
  exact readFile_eq_some told (List.append_ne_nil_of_left_ne_nil (List.cons_ne_nil _ _) _)
    (.many_cons (List.cons_ne_nil _ _) (yields_line (clauseTold.yields_item _) begins) last)

end Go
end ConfigWiring
