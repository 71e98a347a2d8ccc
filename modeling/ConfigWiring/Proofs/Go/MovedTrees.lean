import ConfigWiring.Proofs.Go.DocumentedTypes
import Mathlib.Data.List.Basic

/-!
# Moved trees

Rules look at tokens no closer than blurred, so they read tokens that have been moved, or that have
other comments in front of them, into the same trees of moved tokens.  The tokens that they read
have all been cut off as known ones.
-/

namespace ConfigWiring
namespace Go

/-! ## Trees of other tokens -/

namespace Tree

mutual

/-- The tree of other tokens. -/
def map (move : Token -> Token) : Tree -> Tree
  | .leaf token => .leaf (move token)
  | .node kind children => .node kind (mapAll move children)

/-- The trees of other tokens. -/
def mapAll (move : Token -> Token) : List Tree -> List Tree
  | [] => []
  | tree :: trees => tree.map move :: mapAll move trees

end

variable {move : Token -> Token}

theorem mapAll_eq_map (move : Token -> Token) (trees : List Tree) :
    mapAll move trees = trees.map (map move) := by
  induction trees with
  | nil => rfl
  | cons tree trees inductionHypothesis => rw [mapAll, inductionHypothesis, List.map_cons]

@[simp] theorem map_leaf (token : Token) : (leaf token).map move = leaf (move token) := by rw [map]

@[simp] theorem map_node (kind : NodeKind) (children : List Tree) :
    (node kind children).map move = node kind (children.map (map move)) := by
  rw [map, mapAll_eq_map]

mutual

@[simp] theorem tokens_map (move : Token -> Token) (tree : Tree) :
    (tree.map move).tokens = tree.tokens.map move := by
  cases tree with
  | leaf token => simp [tokens]
  | node kind children =>
      rw [map_node, tokens, tokens]
      exact tokensOfAll_map move children

@[simp] theorem tokensOfAll_map (move : Token -> Token) (trees : List Tree) :
    tokensOfAll (trees.map (map move)) = (tokensOfAll trees).map move := by
  cases trees with
  | nil => rfl
  | cons tree trees =>
      rw [List.map_cons, tokensOfAll, tokensOfAll, tokens_map move tree, tokensOfAll_map move trees,
        List.map_append]

end

@[simp] theorem first?_map (move : Token -> Token) (tree : Tree) :
    (tree.map move).first? = tree.first?.map move := by
  simp [first?, List.head?_map]

@[simp] theorem last?_map (move : Token -> Token) (tree : Tree) :
    (tree.map move).last? = tree.last?.map move := by
  simp [last?, List.getLast?_map]

end Tree

/-! ## Reading moved tokens -/

/-- What is read of other tokens. -/
def Reading.map (move : Token -> Token) (reading : Reading) : Reading :=
  Option.map (Prod.map (List.map (Tree.map move)) (List.map move)) reading

namespace Rule

variable {move : Token -> Token} {test : Token -> Bool} {tokens : List Token} {mode : Mode}

theorem nextIs_map
    (same : ∀ token, test (move token) = test token)
    (tokens : List Token) :
    nextIs test (tokens.map move) = nextIs test tokens := by
  cases tokens with
  | nil => rfl
  | cons next rest => exact same next

theorem readToken_map
    (same : ∀ token, test (move token) = test token)
    (tokens : List Token) :
    readToken test (tokens.map move) = (readToken test tokens).map move := by
  cases tokens with
  | nil => rfl
  | cons next rest =>
      rw [List.map_cons, readToken, readToken, same]
      split
      · simp [Reading.map]
      · rfl

theorem passIf_map (condition : Bool) (tokens : List Token) :
    passIf condition (tokens.map move) = (passIf condition tokens).map move := by
  unfold passIf
  split <;> rfl

theorem andThen_map
    (reading : Reading)
    {next next' : List Token -> Reading}
    (same : ∀ tokens, next' (tokens.map move) = (next tokens).map move) :
    Reading.andThen (reading.map move) next' = (reading.andThen next).map move := by
  cases reading with
  | none => rfl
  | some found =>
      obtain ⟨trees, rest⟩ := found
      simp only [Reading.map, Option.map_some, Prod.map_apply, Reading.andThen, same]
      cases next rest <;> simp

/-- Moved tokens are read as the tokens are, if this keeps what rules can see. -/
theorem read_map
    (rule : Rule Part)
    {depth : Nat}
    (unseen : ∀ token, (move token).blur = token.blur)
    (blind : rule.IsBlind) :
    rule.read Part.rule depth mode (tokens.map move) =
      (rule.read Part.rule depth mode tokens).map move := by
  have tests {test : Token -> Bool} (blind : ∀ token : Token, test token.blur = test token)
      (token : Token) : test (move token) = test token := by
    rw [← blind, unseen, blind]
  have breaks (mode : Mode) (tokens : List Token) :
      atBreak mode (tokens.map move) = atBreak mode tokens := by
    rw [atBreak, atBreak, nextIs_map (tests Token.afterBreak_blur)]
  induction depth generalizing rule mode tokens with
  | zero => rfl
  | succ depth inductionHypothesis =>
      have further (rule : Rule Part) (mode : Mode) (blind : rule.IsBlind) (tokens : List Token) :
          rule.read Part.rule depth mode (tokens.map move) =
            (rule.read Part.rule depth mode tokens).map move :=
        inductionHypothesis rule blind
      cases rule with
      | nothing => rfl
      | token test => exact readToken_map (tests blind) tokens
      | lineEnd =>
          rw [read_lineEnd, read_lineEnd, breaks, readToken_map (tests Token.endsLine_blur)]
          split <;> rfl
      | joined => rw [read_joined, read_joined, breaks, passIf_map]
      | ahead test => rw [read_ahead, read_ahead, nextIs_map (tests blind), passIf_map]
      | literalHere => rw [read_literalHere, read_literalHere, passIf_map]
      | absent rule =>
          have sameFit : (rule.read Part.rule depth mode (tokens.map move)).isNone =
              (rule.read Part.rule depth mode tokens).isNone := by
            rw [further rule mode blind, Reading.map, Option.isNone_map]
          rw [read_absent, read_absent, sameFit, passIf_map]
      | both first second =>
          rw [read_both, read_both, further first mode blind.1,
            andThen_map _ (further second mode blind.2)]
      | either first second =>
          rw [read_either, read_either, further first mode blind.1, further second mode blind.2]
          cases first.read Part.rule depth mode tokens <;> rfl
      | many rule =>
          rw [read_many, read_many, further rule mode blind]
          cases found : rule.read Part.rule depth mode tokens with
          | none => rfl
          | some reading =>
              obtain ⟨trees, rest⟩ := reading
              have again := andThen_map (some (trees, rest)) (further (.many rule) mode blind)
              simp only [Reading.map, Option.map_some, Prod.map_apply, List.length_map] at again ⊢
              split
              · exact again
              · rfl
      | inside mode' rule => exact further rule mode' blind tokens
      | node kind rule =>
          rw [read_node, read_node, further rule mode blind]
          unfold Reading.map
          cases rule.read Part.rule depth mode tokens <;> simp [Reading.wrap]
      | named part => exact further _ mode (Part.isBlind_rule part) tokens

end Rule

/-- Moved tokens of a file are read as the tokens are. -/
theorem readFile_map
    {move : Token -> Token}
    (unseen : ∀ token, (move token).blur = token.blur)
    (tokens : List Token) :
    readFile (tokens.map move) = (readFile tokens).map (List.map (Tree.map move)) := by
  have kinds (token : Token) : (move token).kind = token.kind := by
    rw [← Token.kind_blur (move token), unseen, Token.kind_blur]
  unfold readFile
  rw [Rule.read_map (.named .file) unseen trivial, List.length_map]
  cases (Rule.named Part.file).read Part.rule (100 * (tokens.length + 1)) .lines tokens with
  | none => rfl
  | some found =>
      obtain ⟨trees, rest⟩ := found
      have sameEnd : (rest.map move).all Token.isFinish = rest.all Token.isFinish := by
        rw [List.all_map]
        exact congrArg rest.all (funext fun token => by
          rw [Function.comp_apply, Token.isFinish, Token.isFinish, kinds])
      simp only [Reading.map, Option.map_some, Prod.map_apply, sameEnd]
      split <;> rfl

/-! ## Known tokens -/

namespace Token

variable {token : Token} {spelling : String}

/-- A token that the lexer knows. -/
def IsKnown (token : Token) : Prop := token.kind ≠ .stray

theorem isKnown_of_kind
    {kind : TokenKind}
    (isKind : token.kind = kind)
    (known : kind ≠ .stray) :
    token.IsKnown := by
  rw [IsKnown, isKind]
  exact known

theorem isKnown_of_isMark (mark : token.isMark spelling = true) : token.IsKnown := by
  simp only [isMark, Bool.and_eq_true, beq_iff_eq] at mark
  exact isKnown_of_kind mark.1 (by decide)

theorem isKnown_of_isKeyword (keyword : token.isKeyword spelling = true) : token.IsKnown := by
  simp only [isKeyword, Bool.and_eq_true, beq_iff_eq] at keyword
  exact isKnown_of_kind keyword.1 (by decide)

theorem isKnown_of_endsLine (ends : token.endsLine = true) : token.IsKnown := by
  simp only [endsLine, Bool.and_eq_true, beq_iff_eq] at ends
  exact isKnown_of_kind ends.1 (by decide)

theorem isKnown_of_isIdentifier (name : token.isIdentifier = true) : token.IsKnown := by
  simp only [isIdentifier, beq_iff_eq] at name
  exact isKnown_of_kind name (by decide)

theorem isKnown_of_isPlainName (name : token.isPlainName = true) : token.IsKnown := by
  simp only [isPlainName, Bool.and_eq_true, beq_iff_eq] at name
  exact isKnown_of_kind name.1 (by decide)

theorem isKnown_of_isAllocator (name : token.isAllocator = true) : token.IsKnown := by
  simp only [isAllocator, Bool.and_eq_true, beq_iff_eq] at name
  exact isKnown_of_kind name.1 (by decide)

theorem isKnown_of_isString (string : token.isString = true) : token.IsKnown := by
  simp only [isString, Bool.or_eq_true, beq_iff_eq] at string
  rcases string with raw | raw <;> exact isKnown_of_kind raw (by decide)

theorem isKnown_of_isLiteral (literal : token.isLiteral = true) : token.IsKnown := by
  simp only [isLiteral, Bool.or_eq_true, beq_iff_eq] at literal
  rcases literal with (string | number) | rune
  · exact isKnown_of_isString string
  · exact isKnown_of_kind number (by decide)
  · exact isKnown_of_kind rune (by decide)

end Token

namespace Rule

variable {name : Type} {grammar : name -> Rule name} {rule : Rule name} {mode : Mode}
  {tokens rest : List Token} {trees : List Tree}

/-- Whether a rule reads known tokens only. -/
def ReadsKnown : Rule name -> Prop
  | token test => ∀ token, test token = true -> token.IsKnown
  | both first second | either first second => first.ReadsKnown ∧ second.ReadsKnown
  | many rule | inside _ rule | node _ rule => rule.ReadsKnown
  | nothing | lineEnd | joined | ahead _ | absent _ | literalHere | named _ => True

theorem Derives.isKnown
    (grammarReads : ∀ part, (grammar part).ReadsKnown)
    (derives : Derives grammar mode rule tokens trees rest)
    (reads : rule.ReadsKnown) :
    ∀ token ∈ Tree.tokensOfAll trees, token.IsKnown := by
  induction derives with
  | token fits =>
      simp only [Tree.tokensOfAll, Tree.tokens, List.append_nil, List.forall_mem_singleton]
      exact reads _ fits
  | lineMark _ ends =>
      simp only [Tree.tokensOfAll, Tree.tokens, List.append_nil, List.forall_mem_singleton]
      exact Token.isKnown_of_endsLine ends
  | both _ _ firstHypothesis secondHypothesis =>
      rw [Tree.tokensOfAll_append, List.forall_mem_append]
      exact ⟨firstHypothesis reads.1, secondHypothesis reads.2⟩
  | manyCons _ _ firstHypothesis furtherHypothesis =>
      rw [Tree.tokensOfAll_append, List.forall_mem_append]
      exact ⟨firstHypothesis reads, furtherHypothesis reads⟩
  | left _ inductionHypothesis => exact inductionHypothesis reads.1
  | right _ inductionHypothesis => exact inductionHypothesis reads.2
  | inside _ inductionHypothesis => exact inductionHypothesis reads
  | node _ inductionHypothesis =>
      simpa [Tree.tokensOfAll, Tree.tokens] using inductionHypothesis reads
  | named _ inductionHypothesis => exact inductionHypothesis (grammarReads _)
  | _ => simp [Tree.tokensOfAll]

end Rule

namespace Part

open Rule

theorem readsKnown_mark (spelling : String) : (mark spelling : Rule Part).ReadsKnown :=
  fun _ => Token.isKnown_of_isMark

theorem readsKnown_keyword (spelling : String) : (keyword spelling : Rule Part).ReadsKnown :=
  fun _ => Token.isKnown_of_isKeyword

theorem readsKnown_oneMark (spellings : List String) : (oneMark spellings).ReadsKnown := by
  intro token isOne
  obtain ⟨spelling, _, isMark⟩ := List.any_eq_true.1 isOne
  exact Token.isKnown_of_isMark isMark

theorem readsKnown_identifier : identifier.ReadsKnown := fun _ => Token.isKnown_of_isIdentifier

theorem readsKnown_plainName : plainName.ReadsKnown := fun _ => Token.isKnown_of_isPlainName

/-- All rules of the language read known tokens only. -/
theorem readsKnown_rule (part : Part) : (rule part).ReadsKnown := by
  cases part <;>
    simp +contextual [rule, ReadsKnown, readsKnown_mark, readsKnown_keyword, readsKnown_oneMark,
      readsKnown_identifier, readsKnown_plainName, Token.isKnown_of_isString,
      Token.isKnown_of_isLiteral, Token.isKnown_of_isAllocator, Rule.sequence, Rule.oneOf,
      Rule.optional, Rule.joinedMark, Rule.separatedBy, Rule.commaSeparated, Rule.commaEnded,
      Rule.commaList, Rule.lineList, Rule.lineEnded, Rule.enclosed, onLine, braced, parenthesized, bracketed, entries,
      furtherExpressions, clauseBody, caseOf, resultOnLine]

end Part

/-!
## Moved declarations

Types are declared by moved trees as they are by the trees themselves, as long as the trees are
spelled alike.  Their documentation depends on the comments behind the nearest code only.
-/

/-! ## Declarations -/

/-- A change of tokens that neither the rules nor the declarations see: it keeps the spelling and
the lines of each token. -/
structure Unseen (move : Token -> Token) : Prop where
  kind : ∀ token, (move token).kind = token.kind
  text : ∀ token, (move token).text = token.text
  startRow : ∀ token, (move token).startRow = token.startRow
  endRow : ∀ token, (move token).endRow = token.endRow
  afterBreak : ∀ token, (move token).afterBreak = token.afterBreak

section Unseen

variable {move : Token -> Token}

theorem Unseen.blur
    (unseen : Unseen move)
    (token : Token) :
    (move token).blur = token.blur := by
  have plain : (move token).isPlainName = token.isPlainName := by
    rw [Token.isPlainName, Token.isPlainName, unseen.kind, unseen.text]
  have string : (move token).isString = token.isString := by
    rw [Token.isString, Token.isString, unseen.kind]
  rw [Token.blur, Token.blur, plain, string, unseen.kind, unseen.text, unseen.afterBreak]

namespace Tree

@[simp] theorem isKind_map (kind : NodeKind) (tree : Tree) :
    (tree.map move).isKind kind = tree.isKind kind := by
  cases tree <;> simp [isKind]

@[simp] theorem children_map (tree : Tree) :
    (tree.map move).children = tree.children.map (map move) := by
  cases tree <;> simp [children]

theorem only?_map (kind : NodeKind) (tree : Tree) :
    (tree.map move).only? kind = (tree.only? kind).map (map move) := by
  unfold only?
  rw [children_map]
  match tree.children with
  | [] => rfl
  | [child] =>
      simp only [List.map_cons, List.map_nil, isKind_map]
      split <;> rfl
  | _ :: _ :: _ => rfl

theorem child?_map (kind : NodeKind) (tree : Tree) :
    (tree.map move).child? kind = (tree.child? kind).map (map move) := by
  unfold child?
  rw [children_map, List.find?_map]
  exact congrArg (Option.map (map move)) (congrArg (List.find? · tree.children)
    (funext fun child => isKind_map kind child))

theorem leafText?_map
    (unseen : Unseen move)
    (tree : Tree) :
    (tree.map move).leafText? = tree.leafText? := by
  cases tree <;> simp [leafText?, unseen.text]

theorem startRow_map
    (unseen : Unseen move)
    (tree : Tree) :
    (tree.map move).startRow = tree.startRow := by
  rw [startRow, startRow, first?_map]
  cases tree.first? with
  | none => rfl
  | some token => exact unseen.startRow token

theorem tokens_infix_of_mem_children
    {tree child : Tree}
    (present : child ∈ tree.children) :
    child.tokens <:+: tree.tokens := by
  cases tree with
  | leaf token => cases present
  | node kind children => exact tokens_infix_tokensOfAll present

theorem mem_children_of_child?
    {kind : NodeKind}
    {tree child : Tree}
    (found : tree.child? kind = some child) :
    child ∈ tree.children :=
  List.mem_of_find?_eq_some found

end Tree

/-- Trees that are made of some tokens only are spelled alike in two texts. -/
def SpelledAlike (move : Token -> Token) (text text' : List Char) (tokens : List Token) : Prop :=
  ∀ tree : Tree, tree.tokens ⊆ tokens -> (tree.map move).spelling text' = tree.spelling text

theorem SpelledAlike.mono
    {text text' : List Char}
    {tokens fewer : List Token}
    (spelled : SpelledAlike move text text' tokens)
    (subset : fewer ⊆ tokens) :
    SpelledAlike move text text' fewer :=
  fun tree inside => spelled tree (List.Subset.trans inside subset)

variable {text text' : List Char}

theorem names_map
    (unseen : Unseen move)
    (tokens : List Token)
    (tag : String) :
    ((tokens.map move).filter Token.isIdentifier).map
        (fun token => Field.mk (String.ofList token.text) tag) =
      (tokens.filter Token.isIdentifier).map
        (fun token => Field.mk (String.ofList token.text) tag) := by
  have sameNames : (Token.isIdentifier ∘ move) = Token.isIdentifier := funext fun token => by
    rw [Function.comp_apply, Token.isIdentifier, Token.isIdentifier, unseen.kind]
  rw [List.filter_map, sameNames, List.map_map]
  exact List.map_congr_left fun token _ => by rw [Function.comp_apply, unseen.text]

theorem fieldsOf_map
    (unseen : Unseen move)
    {declaration : Tree}
    (spelled : SpelledAlike move text text' declaration.tokens) :
    fieldsOf text' (declaration.map move) = fieldsOf text declaration := by
  have tags : ((declaration.map move).child? .tag).bind Tree.first? =
      ((declaration.child? .tag).bind Tree.first?).map move := by
    rw [Tree.child?_map, Option.bind_map, Option.map_bind]
    exact congrArg _ (funext fun child => Tree.first?_map move child)
  have sameTag (token : Token) : tagText (move token) = tagText token := by
    simp only [tagText, unseen.kind, unseen.text]
  have embeds (type : Tree) (found : declaration.child? .embedded = some type) :
      (type.map move).spelling text' = type.spelling text :=
    spelled type (Tree.tokens_infix_of_mem_children (Tree.mem_children_of_child? found)).subset
  unfold fieldsOf
  rw [tags, Tree.child?_map, Tree.child?_map]
  cases (declaration.child? .tag).bind Tree.first? with
  | none =>
      cases declaration.child? .names with
      | some list => simp only [Option.map_some, Option.map_none, Tree.tokens_map, names_map unseen]
      | none =>
          cases found : declaration.child? .embedded with
          | none => rfl
          | some type => simp only [Option.map_some, Option.map_none, embeds type found]
  | some token =>
      cases declaration.child? .names with
      | some list => simp only [Option.map_some, sameTag, Tree.tokens_map, names_map unseen]
      | none =>
          cases found : declaration.child? .embedded with
          | none => rfl
          | some type => simp only [Option.map_some, Option.map_none, sameTag, embeds type found]

theorem structOf?_map (spec : Tree) :
    structOf? (spec.map move) = (structOf? spec).map (Tree.map move) := by
  unfold structOf?
  rw [Tree.isKind_map, Tree.child?_map]
  split
  · rw [Option.bind_map, Option.map_bind]
    exact congrArg _ (funext fun child => Tree.only?_map _ child)
  · rfl

theorem tokens_subset_of_structOf?
    {spec type : Tree}
    (found : structOf? spec = some type) :
    type.tokens ⊆ spec.tokens := by
  unfold structOf? at found
  split at found
  · obtain ⟨child, foundChild, only⟩ := Option.bind_eq_some_iff.1 found
    rw [← Tree.tokens_of_only? only]
    exact (Tree.tokens_infix_of_mem_children (Tree.mem_children_of_child? foundChild)).subset
  · cases found

theorem declOf_map
    (unseen : Unseen move)
    {spec : Tree}
    (spelled : SpelledAlike move text text' spec.tokens)
    (package dir doc : String) :
    declOf text' package dir doc (spec.map move) = declOf text package dir doc spec := by
  have name : ((spec.map move).children.head?.bind Tree.leafText?) =
      spec.children.head?.bind Tree.leafText? := by
    rw [Tree.children_map, List.head?_map, Option.bind_map]
    exact congrArg _ (funext fun child => Tree.leafText?_map unseen child)
  unfold declOf
  dsimp only
  rw [name, structOf?_map]
  cases found : structOf? spec with
  | none => rfl
  | some type =>
      have sameKind : (Tree.isKind .field ∘ Tree.map move) = Tree.isKind .field :=
        funext fun child => Tree.isKind_map _ child
      simp only [Option.map_some, Tree.children_map, List.filter_map, sameKind, List.flatMap_map,
        Option.isSome_some]
      congr 1
      refine List.flatMap_congr fun field present => fieldsOf_map unseen (spelled.mono ?_)
      exact List.Subset.trans
        (Tree.tokens_infix_of_mem_children (List.mem_of_mem_filter present)).subset
        (tokens_subset_of_structOf? found)

theorem packageOf_map
    (unseen : Unseen move)
    (items : List Tree) :
    packageOf (items.map (Tree.map move)) = packageOf items := by
  unfold packageOf
  rw [List.findSome?_map]
  congr 2
  funext item
  rw [Function.comp_apply, Tree.only?_map, Option.bind_map]
  congr 1
  funext clause
  rw [Function.comp_apply, Tree.tokens_map, List.getLast?_map, Option.map_map]
  exact congrArg (Option.map · clause.tokens.getLast?)
    (funext fun token => by rw [Function.comp_apply, unseen.text])

end Unseen

/-! ## Siblings up to the nearest code -/

/-- Siblings that agree up to the nearest code. -/
inductive Doc.Alike : List Sibling -> List Sibling -> Prop
  | nil : Alike [] []
  | code (endRow : Nat) (above above' : List Sibling) :
      Alike (.code endRow :: above) (.code endRow :: above')
  | comment (comment : Comment) {above above' : List Sibling} (alike : Alike above above') :
      Alike (.comment comment :: above) (.comment comment :: above')

namespace Doc.Alike

variable {siblings siblings' : List Sibling}

theorem stacked
    (alike : Alike siblings siblings')
    (comments : List Comment) :
    Alike (stacked comments ++ siblings) (Doc.stacked comments ++ siblings') := by
  induction comments using List.reverseRecOn with
  | nil => exact alike
  | append_singleton comments comment inductionHypothesis =>
      rw [stacked_concat, List.cons_append, List.cons_append]
      exact .comment comment inductionHypothesis

theorem groupAbove_eq
    (alike : Alike siblings siblings')
    (row : Nat) :
    groupAbove row siblings = groupAbove row siblings' := by
  induction alike generalizing row with
  | nil => rfl
  | code endRow above above' => rfl
  | @comment comment above above' alike inductionHypothesis =>
      have sameEnd : above.head?.any (Sibling.endsOn comment.startRow) =
          above'.head?.any (Sibling.endsOn comment.startRow) := by
        cases alike <;> rfl
      rw [groupAbove, groupAbove, sameEnd, inductionHypothesis]

theorem above_eq
    (alike : Alike siblings siblings')
    (row : Nat) :
    Doc.above row siblings = Doc.above row siblings' := by
  rw [above_eq_text, above_eq_text, commentsAbove, commentsAbove, alike.groupAbove_eq]

theorem behindCode
    {row : Nat}
    (alike : Alike siblings siblings')
    (behind : BehindCode row siblings) :
    BehindCode row siblings' := by
  obtain ⟨comments, start, below, rfl, joins⟩ := behind
  have sameFront : ∃ below', siblings' = Doc.stacked comments ++ .code start :: below' := by
    clear joins
    induction comments using List.reverseRecOn generalizing siblings' with
    | nil =>
        cases alike with
        | code _ _ above' => exact ⟨above', rfl⟩
    | append_singleton comments comment inductionHypothesis =>
        rw [stacked_concat, List.cons_append] at alike
        cases alike with
        | comment _ alike =>
            obtain ⟨below', rfl⟩ := inductionHypothesis alike
            exact ⟨below', by rw [stacked_concat, List.cons_append]⟩
  obtain ⟨below', rfl⟩ := sameFront
  exact ⟨comments, start, below', rfl, joins⟩

end Doc.Alike

end Go
end ConfigWiring
