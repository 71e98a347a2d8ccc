import ConfigWiring.Go.Language
import ConfigWiring.Go.Source

/-!
# What rules read

A rule reads over some tokens or refuses them, whatever stands behind those that it looks at.
Neither depends on where the tokens stand, on the content of strings or on which plain names
there are, so both are told about blurred tokens.
-/

namespace ConfigWiring
namespace Go

/-! ## Blurred tokens -/

namespace Token

/-- A token as the rules see it: somewhere, with any comments in front of it, and with one
spelling for all strings and for all plain names. -/
def blur (token : Token) : Token :=
  {
    kind := token.kind
    text := if token.isPlainName then ['x'] else if token.isString then [] else token.text
    offset := 0
    startRow := 0
    endRow := 0
    afterBreak := token.afterBreak
    comments := [] }

variable (token : Token)

@[simp] theorem kind_blur : token.blur.kind = token.kind := rfl

@[simp] theorem afterBreak_blur : token.blur.afterBreak = token.afterBreak := rfl

/-- Plain names are spelled alike. -/
theorem text_blur_of_isPlainName
    {token : Token}
    (plain : token.isPlainName = true) :
    token.blur.text = ['x'] := by
  simp [blur, plain]

/-- Blurring keeps the spelling of a token that is neither a plain name nor a string. -/
theorem text_blur
    {token : Token}
    (noName : token.isPlainName = false)
    (noString : token.isString = false) :
    token.blur.text = token.text := by
  simp [blur, noName, noString]

/-- Only tokens of the kind that is asked for need keep their outcome. -/
theorem kind_and_congr
    {kind : TokenKind}
    {before after : Bool}
    (same : token.kind = kind -> after = before) :
    (token.blur.kind == kind && after) = (token.kind == kind && before) := by
  by_cases here : token.kind = kind
  · rw [same here, kind_blur]
  · have different : (token.kind == kind) = false := by simpa using here
    rw [kind_blur, different, Bool.false_and, Bool.false_and]

/-- Blurring keeps the spelling of marks and keywords. -/
theorem text_blur_of_kind
    {token : Token}
    (kind : token.kind = .mark ∨ token.kind = .keyword) :
    token.blur.text = token.text := by
  rcases kind with mark | keyword
  · exact text_blur (by simp [isPlainName, mark]) (by simp [isString, mark])
  · exact text_blur (by simp [isPlainName, keyword]) (by simp [isString, keyword])

@[simp] theorem isMark_blur (spelling : String) :
    token.blur.isMark spelling = token.isMark spelling :=
  token.kind_and_congr fun mark => by rw [text_blur_of_kind (.inl mark)]

@[simp] theorem isKeyword_blur (spelling : String) :
    token.blur.isKeyword spelling = token.isKeyword spelling :=
  token.kind_and_congr fun keyword => by rw [text_blur_of_kind (.inr keyword)]

@[simp] theorem endsLine_blur : token.blur.endsLine = token.endsLine :=
  token.kind_and_congr fun mark => by rw [text_blur_of_kind (.inl mark)]

@[simp] theorem isString_blur : token.blur.isString = token.isString := rfl

@[simp] theorem isLiteral_blur : token.blur.isLiteral = token.isLiteral := rfl

@[simp] theorem isIdentifier_blur : token.blur.isIdentifier = token.isIdentifier := rfl

/-- A test for names with a value of their own is not changed by blurring. -/
theorem any_text_blur
    {token : Token}
    (name : token.kind = .identifier)
    {names : List String}
    (within : ∀ name ∈ names, name ∈ valueNames) :
    (names.any fun name => token.blur.text == name.toList) =
      names.any fun name => token.text == name.toList := by
  cases plain : token.isPlainName with
  | false => rw [text_blur plain (by simp [isString, name])]
  | true =>
      have apart : ∀ name ∈ valueNames, name.toList ≠ ['x'] ∧ name.toList ≠ token.text := by
        intro name present
        refine ⟨by revert name; decide, ?_⟩
        simp only [isPlainName, Bool.and_eq_true, Bool.not_eq_true', List.any_eq_false, beq_iff_eq]
          at plain
        exact fun same => plain.2 name present same.symm
      have none (text : List Char) (differs : ∀ name ∈ valueNames, name.toList ≠ text) :
          (names.any fun name => text == name.toList) = false := by
        simp only [List.any_eq_false, beq_iff_eq]
        exact fun name present same => differs name (within name present) same.symm
      rw [text_blur_of_isPlainName plain, none _ fun name present => (apart name present).1,
        none _ fun name present => (apart name present).2]

@[simp] theorem isPlainName_blur : token.blur.isPlainName = token.isPlainName :=
  token.kind_and_congr fun name => congrArg (!·) (any_text_blur name fun _ => id)

@[simp] theorem isAllocator_blur : token.blur.isAllocator = token.isAllocator :=
  token.kind_and_congr fun name => any_text_blur name (by decide)

end Token

/-! ## Blind rules -/

namespace Rule

variable {name : Type}

/-- Whether a rule tests tokens for what blurring keeps. -/
def IsBlind : Rule name -> Prop
  | token test | ahead test => ∀ token : Token, test token.blur = test token
  | absent rule | many rule | inside _ rule | node _ rule => rule.IsBlind
  | both first second | either first second => first.IsBlind ∧ second.IsBlind
  | nothing | lineEnd | joined | literalHere | named _ => True

end Rule

namespace Part

/-- All rules of the language are blind. -/
theorem isBlind_rule (part : Part) : (rule part).IsBlind := by
  cases part <;>
    simp [rule, Rule.IsBlind, Rule.sequence, Rule.oneOf, Rule.optional, Rule.mark, Rule.keyword,
      Rule.joinedMark, Rule.separatedBy, Rule.commaSeparated, Rule.commaEnded, Rule.commaList,
      Rule.lineList, Rule.lineEnded, Rule.enclosed, oneMark, identifier, plainName, onLine, braced,
      parenthesized, bracketed, entries, furtherExpressions, clauseBody, caseOf, endsField,
      endsStatements, beginsType, resultOnLine]

end Part

/-! ## One step of reading -/

namespace Rule

section Steps

variable {name : Type} {grammar : name -> Rule name} {rule first second : Rule name}
  {test : Token -> Bool} {depth : Nat} {mode : Mode} {tokens : List Token}

theorem read_token :
    (token test).read grammar (depth + 1) mode tokens = readToken test tokens := rfl

theorem read_lineEnd :
    lineEnd.read grammar (depth + 1) mode tokens =
      if atBreak mode tokens then some ([], tokens) else readToken Token.endsLine tokens := rfl

theorem read_joined :
    joined.read grammar (depth + 1) mode tokens = passIf (!atBreak mode tokens) tokens := rfl

theorem read_ahead :
    (ahead test).read grammar (depth + 1) mode tokens = passIf (nextIs test tokens) tokens := rfl

theorem read_literalHere :
    literalHere.read grammar (depth + 1) mode tokens = passIf mode.braceOpensLiteral tokens := rfl

theorem read_absent :
    (absent rule).read grammar (depth + 1) mode tokens =
      passIf (rule.read grammar depth mode tokens).isNone tokens := rfl

theorem read_both :
    (both first second).read grammar (depth + 1) mode tokens =
      (first.read grammar depth mode tokens).andThen (second.read grammar depth mode) := rfl

theorem read_either :
    (either first second).read grammar (depth + 1) mode tokens =
      match first.read grammar depth mode tokens with
      | none => second.read grammar depth mode tokens
      | some found => some found := rfl

theorem read_many :
    (many rule).read grammar (depth + 1) mode tokens =
      match rule.read grammar depth mode tokens with
      | none => some ([], tokens)
      | some (trees, rest) =>
          if rest.length < tokens.length then
            Reading.andThen (some (trees, rest)) ((many rule).read grammar depth mode)
          else some (trees, rest) := rfl

theorem read_node {kind : NodeKind} :
    (node kind rule).read grammar (depth + 1) mode tokens =
      (rule.read grammar depth mode tokens).wrap kind := rfl

end Steps

end Rule

/-! ## Reading over tokens -/

namespace Tree

/-- Neither the tree nor an only child of it declares types. -/
def IsQuiet (tree : Tree) : Prop :=
  tree.isKind .typeDeclaration = false ∧ tree.only? .typeDeclaration = none

theorem isQuiet_leaf (token : Token) : (leaf token).IsQuiet := ⟨rfl, rfl⟩

theorem isQuiet_node
    {kind : NodeKind}
    {children : List Tree}
    (other : kind ≠ .typeDeclaration)
    (quiet : ∀ child ∈ children, child.IsQuiet) :
    (node kind children).IsQuiet := by
  refine ⟨by simpa [isKind] using other, ?_⟩
  unfold only? Tree.children
  split
  · next child only =>
      obtain rfl : children = [child] := only
      rw [(quiet child (by simp)).1, if_neg (by simp)]
  · rfl

end Tree

namespace Rule

variable {rule first second : Rule Part} {reach : Nat} {mode : Mode}
  {front further behind : List Token}

/-- In front of some tokens a rule reads over others and finds no types declared there.  The
reach is the depth that is needed; the tokens are blurred. -/
def Reads
    (rule : Rule Part)
    (reach : Nat)
    (mode : Mode)
    (front behind : List Token) : Prop :=
  ∀ depth, reach ≤ depth -> ∀ tokens rest tail,
    tokens.map Token.blur = front -> rest.map Token.blur = behind ->
      ∃ trees, rule.read Part.rule depth mode (tokens ++ (rest ++ tail)) =
          some (trees, rest ++ tail) ∧
        ∀ tree ∈ trees, tree.IsQuiet

/-- A rule does not fit the tokens that begin with some others. -/
def Refuses
    (rule : Rule Part)
    (reach : Nat)
    (mode : Mode)
    (behind : List Token) : Prop :=
  ∀ depth, reach ≤ depth -> ∀ rest tail, rest.map Token.blur = behind ->
    rule.read Part.rule depth mode (rest ++ tail) = none

/-- What is needed to look at may be followed by anything. -/
theorem Reads.extend
    {seen : List Token}
    (reads : rule.Reads reach mode front seen)
    (begins : seen <+: behind) :
    rule.Reads reach mode front behind := by
  obtain ⟨more, rfl⟩ := begins
  intro depth enough tokens rest tail seen ahead
  obtain ⟨rest, others, rfl, rfl, rfl⟩ := List.map_eq_append_iff.1 ahead
  rw [List.append_assoc]
  exact reads depth enough tokens rest (others ++ tail) seen rfl

theorem Reads.mono
    {reach' : Nat}
    (reads : rule.Reads reach mode front behind)
    (deeper : reach ≤ reach') :
    rule.Reads reach' mode front behind :=
  fun depth enough => reads depth (Nat.le_trans deeper enough)

theorem Refuses.mono
    {reach' : Nat}
    (refuses : rule.Refuses reach mode behind)
    (deeper : reach ≤ reach') :
    rule.Refuses reach' mode behind :=
  fun depth enough => refuses depth (Nat.le_trans deeper enough)

/-- A depth that reaches further by one is the depth behind one step. -/
theorem exists_one_less
    {depth : Nat}
    (enough : reach + 1 ≤ depth) :
    ∃ less, depth = less + 1 ∧ reach ≤ less :=
  ⟨depth - 1, by omega, by omega⟩

/-- To read nothing it is enough to say so at every depth. -/
theorem Reads.of_pass
    (passes : ∀ depth rest tail, rest.map Token.blur = behind ->
      rule.read Part.rule (depth + 1) mode (rest ++ tail) = some ([], rest ++ tail)) :
    rule.Reads (reach + 1) mode [] behind := by
  intro depth enough tokens rest tail seen ahead
  obtain ⟨less, rfl, reached⟩ := exists_one_less enough
  obtain rfl := List.map_eq_nil_iff.1 seen
  exact ⟨[], passes _ rest tail ahead, by simp⟩

theorem Refuses.of_depth
    (refuses : ∀ depth rest tail, rest.map Token.blur = behind ->
      rule.read Part.rule (depth + 1) mode (rest ++ tail) = none) :
    rule.Refuses (reach + 1) mode behind := by
  intro depth enough rest tail ahead
  obtain ⟨less, rfl, reached⟩ := exists_one_less enough
  exact refuses _ rest tail ahead

/-! ### Single tokens -/

section Tests

variable {test : Token -> Bool} {next : Token}

theorem Reads.token
    (blind : (Rule.token test : Rule Part).IsBlind)
    (fits : test next = true)
    (behind : List Token) :
    (Rule.token test).Reads (reach + 1) mode [next] behind := by
  intro depth enough tokens rest tail seen ahead
  obtain ⟨less, rfl, reached⟩ := exists_one_less enough
  obtain ⟨token, rfl, rfl⟩ := List.map_eq_singleton_iff.1 seen
  rw [blind token] at fits
  exact ⟨[.leaf token], by simp [read_token, readToken, fits],
    by simpa using Tree.isQuiet_leaf token⟩

theorem nextIs_append
    (blind : ∀ token : Token, test token.blur = test token)
    {rest : List Token}
    (ahead : rest.map Token.blur = next :: behind)
    (tail : List Token) :
    nextIs test (rest ++ tail) = test next := by
  obtain ⟨token, others, rfl, rfl, rfl⟩ := List.map_eq_cons_iff.1 ahead
  exact (blind token).symm

theorem readToken_eq_none
    (blind : ∀ token : Token, test token.blur = test token)
    (differs : test next = false)
    {rest : List Token}
    (ahead : rest.map Token.blur = next :: behind)
    (tail : List Token) :
    readToken test (rest ++ tail) = none := by
  obtain ⟨token, others, rfl, rfl, rfl⟩ := List.map_eq_cons_iff.1 ahead
  rw [blind token] at differs
  simp [readToken, differs]

theorem Refuses.token
    (blind : (Rule.token test : Rule Part).IsBlind)
    (differs : test next = false) :
    (Rule.token test).Refuses (reach + 1) mode (next :: behind) :=
  .of_depth fun _ _ tail ahead => readToken_eq_none blind differs ahead tail

end Tests

/-! ### Lines -/

section Lines

variable {next : Token}

theorem atBreak_append
    {rest : List Token}
    (ahead : rest.map Token.blur = next :: behind)
    (tail : List Token) :
    atBreak mode (rest ++ tail) = (mode.breaksEnd && next.afterBreak) := by
  rw [atBreak, nextIs_append Token.afterBreak_blur ahead]

theorem Reads.lineEnd_break
    (broken : (mode.breaksEnd && next.afterBreak) = true) :
    lineEnd.Reads (reach + 1) mode [] (next :: behind) :=
  .of_pass fun depth rest tail ahead => by
    simp [read_lineEnd, atBreak_append ahead, broken]

theorem Reads.lineEnd_token
    (unbroken : (mode.breaksEnd && next.afterBreak) = false)
    (ends : next.endsLine = true)
    (behind : List Token) :
    lineEnd.Reads (reach + 1) mode [next] behind := by
  intro depth enough tokens rest tail seen ahead
  obtain ⟨less, rfl, reached⟩ := exists_one_less enough
  have joined : atBreak mode (tokens ++ (rest ++ tail)) = (mode.breaksEnd && next.afterBreak) :=
    atBreak_append seen (rest ++ tail)
  obtain ⟨token, rfl, rfl⟩ := List.map_eq_singleton_iff.1 seen
  rw [Token.endsLine_blur] at ends
  rw [unbroken] at joined
  exact ⟨[.leaf token], by simpa [read, readToken, ends] using joined,
    by simpa using Tree.isQuiet_leaf token⟩

theorem Refuses.lineEnd
    (unbroken : (mode.breaksEnd && next.afterBreak) = false)
    (goesOn : next.endsLine = false) :
    lineEnd.Refuses (reach + 1) mode (next :: behind) :=
  .of_depth fun depth rest tail ahead => by
    simp [read_lineEnd, atBreak_append ahead, unbroken,
      readToken_eq_none Token.endsLine_blur goesOn ahead tail]

theorem Reads.joined
    (unbroken : (mode.breaksEnd && next.afterBreak) = false) :
    joined.Reads (reach + 1) mode [] (next :: behind) :=
  .of_pass fun depth rest tail ahead => by
    simp [read_joined, passIf, atBreak_append ahead, unbroken]

theorem Refuses.joined
    (broken : (mode.breaksEnd && next.afterBreak) = true) :
    joined.Refuses (reach + 1) mode (next :: behind) :=
  .of_depth fun depth rest tail ahead => by
    simp [read_joined, passIf, atBreak_append ahead, broken]

end Lines

/-! ### Conditions -/

section Conditions

variable {test : Token -> Bool} {next : Token}

theorem Reads.nothing (behind : List Token) :
    (Rule.nothing : Rule Part).Reads (reach + 1) mode [] behind :=
  .of_pass fun _ _ _ _ => rfl

theorem Reads.literalHere
    (opens : mode.braceOpensLiteral = true)
    (behind : List Token) :
    literalHere.Reads (reach + 1) mode [] behind :=
  .of_pass fun depth rest tail _ => by simp [read_literalHere, passIf, opens]

theorem Refuses.literalHere
    (shut : mode.braceOpensLiteral = false)
    (behind : List Token) :
    literalHere.Refuses (reach + 1) mode behind :=
  .of_depth fun depth rest tail _ => by simp [read_literalHere, passIf, shut]

theorem Reads.ahead
    (blind : (Rule.ahead test : Rule Part).IsBlind)
    (fits : test next = true) :
    (Rule.ahead test).Reads (reach + 1) mode [] (next :: behind) :=
  .of_pass fun depth rest tail ahead => by
    simp [read_ahead, passIf, nextIs_append blind ahead, fits]

theorem Refuses.ahead
    (blind : (Rule.ahead test : Rule Part).IsBlind)
    (differs : test next = false) :
    (Rule.ahead test).Refuses (reach + 1) mode (next :: behind) :=
  .of_depth fun depth rest tail ahead => by
    simp [read_ahead, passIf, nextIs_append blind ahead, differs]

theorem Reads.absent
    (refuses : rule.Refuses reach mode behind) :
    (Rule.absent rule).Reads (reach + 1) mode [] behind := by
  intro depth enough tokens rest tail seen ahead
  obtain ⟨less, rfl, reached⟩ := exists_one_less enough
  obtain rfl := List.map_eq_nil_iff.1 seen
  have none := refuses less reached rest tail ahead
  exact ⟨[], by simp [read_absent, passIf, none], by simp⟩

theorem Refuses.absent
    (reads : rule.Reads reach mode front behind) :
    (Rule.absent rule).Refuses (reach + 1) mode (front ++ behind) := by
  intro depth enough rest tail ahead
  obtain ⟨less, rfl, reached⟩ := exists_one_less enough
  obtain ⟨tokens, others, rfl, seen, ahead⟩ := List.map_eq_append_iff.1 ahead
  obtain ⟨trees, found, _⟩ := reads less reached tokens others tail seen ahead
  rw [List.append_assoc]
  simp [read_absent, passIf, found]

end Conditions

/-! ### Rules put together -/

theorem Reads.both
    (readsFirst : first.Reads reach mode front (further ++ behind))
    (readsSecond : second.Reads reach mode further behind) :
    (both first second).Reads (reach + 1) mode (front ++ further) behind := by
  intro depth enough tokens rest tail seen ahead
  obtain ⟨less, rfl, reached⟩ := exists_one_less enough
  obtain ⟨start, between, rfl, rfl, rfl⟩ := List.map_eq_append_iff.1 seen
  obtain ⟨trees, found, quiet⟩ := readsFirst less reached start
    (between ++ rest) tail rfl (by simp [ahead])
  obtain ⟨trees', found', quiet'⟩ := readsSecond less reached between rest
    tail rfl ahead
  refine ⟨trees ++ trees', ?_, fun tree present => ?_⟩
  · rw [List.append_assoc] at found ⊢
    simp [read_both, Reading.andThen, found, found']
  · exact (List.mem_append.1 present).elim (quiet tree) (quiet' tree)

theorem Refuses.both_left
    (refuses : first.Refuses reach mode behind)
    (second : Rule Part) :
    (both first second).Refuses (reach + 1) mode behind := by
  intro depth enough rest tail ahead
  obtain ⟨less, rfl, reached⟩ := exists_one_less enough
  have none := refuses less reached rest tail ahead
  simp [read_both, Reading.andThen, none]

theorem Refuses.both_right
    (reads : first.Reads reach mode front behind)
    (refuses : second.Refuses reach mode behind) :
    (both first second).Refuses (reach + 1) mode (front ++ behind) := by
  intro depth enough rest tail ahead
  obtain ⟨less, rfl, reached⟩ := exists_one_less enough
  obtain ⟨tokens, others, rfl, seen, ahead⟩ := List.map_eq_append_iff.1 ahead
  obtain ⟨trees, found, _⟩ := reads less reached tokens others tail seen ahead
  have none := refuses less reached others tail ahead
  rw [List.append_assoc]
  simp [read_both, Reading.andThen, found, none]

theorem Reads.either_left
    (reads : first.Reads reach mode front behind)
    (second : Rule Part) :
    (either first second).Reads (reach + 1) mode front behind := by
  intro depth enough tokens rest tail seen ahead
  obtain ⟨less, rfl, reached⟩ := exists_one_less enough
  obtain ⟨trees, found, quiet⟩ := reads less reached tokens rest tail seen
    ahead
  exact ⟨trees, by simp [read_either, found], quiet⟩

theorem Reads.either_right
    (refuses : first.Refuses reach mode (front ++ behind))
    (reads : second.Reads reach mode front behind) :
    (either first second).Reads (reach + 1) mode front behind := by
  intro depth enough tokens rest tail seen ahead
  obtain ⟨less, rfl, reached⟩ := exists_one_less enough
  obtain ⟨trees, found, quiet⟩ := reads less reached tokens rest tail seen
    ahead
  have none := refuses less reached (tokens ++ rest) tail
    (by simp [seen, ahead])
  rw [List.append_assoc] at none
  exact ⟨trees, by simp [read_either, found, none], quiet⟩

theorem Refuses.either
    (refusesFirst : first.Refuses reach mode behind)
    (refusesSecond : second.Refuses reach mode behind) :
    (either first second).Refuses (reach + 1) mode behind := by
  intro depth enough rest tail ahead
  obtain ⟨less, rfl, reached⟩ := exists_one_less enough
  have none := refusesFirst less reached rest tail ahead
  have none' := refusesSecond less reached rest tail ahead
  simp [read_either, none, none']

theorem Reads.many_nil
    (refuses : rule.Refuses reach mode behind) :
    (many rule).Reads (reach + 1) mode [] behind := by
  intro depth enough tokens rest tail seen ahead
  obtain ⟨less, rfl, reached⟩ := exists_one_less enough
  obtain rfl := List.map_eq_nil_iff.1 seen
  have none := refuses less reached rest tail ahead
  exact ⟨[], by simp [read_many, none], by simp⟩

theorem Reads.many_cons
    (something : front ≠ [])
    (reads : rule.Reads reach mode front (further ++ behind))
    (readsOn : (many rule).Reads reach mode further behind) :
    (many rule).Reads (reach + 1) mode (front ++ further) behind := by
  intro depth enough tokens rest tail seen ahead
  obtain ⟨less, rfl, reached⟩ := exists_one_less enough
  obtain ⟨start, between, rfl, rfl, rfl⟩ := List.map_eq_append_iff.1 seen
  obtain ⟨trees, found, quiet⟩ := reads less reached start
    (between ++ rest) tail rfl (by simp [ahead])
  obtain ⟨trees', found', quiet'⟩ := readsOn less reached between rest
    tail rfl ahead
  have shorter : 0 < start.length := List.length_pos_iff.2 (by simpa using something)
  refine ⟨trees ++ trees', ?_, fun tree present => ?_⟩
  · rw [List.append_assoc] at found ⊢
    simp [read_many, Reading.andThen, found, found', shorter]
  · exact (List.mem_append.1 present).elim (quiet tree) (quiet' tree)

theorem Refuses.many_cons
    (something : front ≠ [])
    (reads : rule.Reads reach mode front behind)
    (refusesOn : (many rule).Refuses reach mode behind) :
    (many rule).Refuses (reach + 1) mode (front ++ behind) := by
  intro depth enough rest tail ahead
  obtain ⟨less, rfl, reached⟩ := exists_one_less enough
  obtain ⟨tokens, others, rfl, rfl, rfl⟩ := List.map_eq_append_iff.1 ahead
  obtain ⟨trees, found, _⟩ := reads less reached tokens others tail rfl rfl
  have none := refusesOn less reached others tail rfl
  have shorter : 0 < tokens.length := List.length_pos_iff.2 (by simpa using something)
  rw [List.append_assoc]
  simp [read_many, Reading.andThen, found, none, shorter]

/-- Stretches of tokens with others behind them begin like each of them. -/
theorem prefix_flatMap_append
    {element : Type}
    {tokensOf : element -> List Token}
    {next : List Token}
    {elements : List element}
    (begins : ∀ one ∈ elements, next <+: tokensOf one)
    (beginsBehind : next <+: behind) :
    next <+: elements.flatMap tokensOf ++ behind := by
  cases elements with
  | nil => exact beginsBehind
  | cons first rest =>
      rw [List.flatMap_cons, List.append_assoc]
      exact (begins first List.mem_cons_self).trans (List.prefix_append _ _)

/-- A rule is read as often as there are stretches that it reads over.  All of them begin with what
has to be seen behind each. -/
theorem Reads.many_flatMap
    {element : Type}
    {tokensOf : element -> List Token}
    {elements : List element}
    {next : List Token}
    (each : ∀ one ∈ elements, rule.Reads reach mode (tokensOf one) next)
    (something : ∀ one ∈ elements, tokensOf one ≠ [])
    (begins : ∀ one ∈ elements, next <+: tokensOf one)
    (beginsBehind : next <+: behind)
    (stops : rule.Refuses reach mode behind) :
    (many rule).Reads (reach + elements.length + 1) mode (elements.flatMap tokensOf) behind := by
  induction elements with
  | nil => exact .many_nil stops
  | cons first rest inductionHypothesis =>
      rw [List.forall_mem_cons] at each something begins
      have reads := each.1.extend (prefix_flatMap_append begins.2 beginsBehind)
      exact .many_cons something.1 (reads.mono (by omega))
        (inductionHypothesis each.2 something.2 begins.2)

theorem Reads.inside
    {outer : Mode}
    (reads : rule.Reads reach mode front behind) :
    (Rule.inside mode rule).Reads (reach + 1) outer front behind := by
  intro depth enough
  obtain ⟨less, rfl, reached⟩ := exists_one_less enough
  exact reads less reached

theorem Refuses.inside
    {outer : Mode}
    (refuses : rule.Refuses reach mode behind) :
    (Rule.inside mode rule).Refuses (reach + 1) outer behind := by
  intro depth enough
  obtain ⟨less, rfl, reached⟩ := exists_one_less enough
  exact refuses less reached

theorem Reads.named
    {part : Part}
    (reads : (Part.rule part).Reads reach mode front behind) :
    (Rule.named part).Reads (reach + 1) mode front behind := by
  intro depth enough
  obtain ⟨less, rfl, reached⟩ := exists_one_less enough
  exact reads less reached

theorem Refuses.named
    {part : Part}
    (refuses : (Part.rule part).Refuses reach mode behind) :
    (Rule.named part).Refuses (reach + 1) mode behind := by
  intro depth enough
  obtain ⟨less, rfl, reached⟩ := exists_one_less enough
  exact refuses less reached

theorem Reads.node
    {kind : NodeKind}
    (other : kind ≠ .typeDeclaration)
    (reads : rule.Reads reach mode front behind) :
    (Rule.node kind rule).Reads (reach + 1) mode front behind := by
  intro depth enough tokens rest tail seen ahead
  obtain ⟨less, rfl, reached⟩ := exists_one_less enough
  obtain ⟨trees, found, quiet⟩ := reads less reached tokens rest tail seen
    ahead
  exact ⟨[.node kind trees], by simp [read_node, Reading.wrap, found],
    by simpa using Tree.isQuiet_node other quiet⟩

theorem Refuses.node
    (refuses : rule.Refuses reach mode behind)
    (kind : NodeKind) :
    (Rule.node kind rule).Refuses (reach + 1) mode behind := by
  intro depth enough rest tail ahead
  obtain ⟨less, rfl, reached⟩ := exists_one_less enough
  have none := refuses less reached rest tail ahead
  simp [read_node, Reading.wrap, none]

end Rule
end Go
end ConfigWiring
