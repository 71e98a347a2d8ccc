import ConfigWiring.Proofs.Go.PlacedTokens
import ConfigWiring.Proofs.Go.Reading
import ConfigWiring.Proofs.Go.RegularTrees

/-!
# Trees that rules read

The tokens of a text stand one behind the other, and so do the comments between two of them.  A
token without a line break in front of it is joined to the one before by the comments in between.
-/

namespace ConfigWiring
namespace Go

open Comment Lexer Text

/-- A token of the lexer: it ends as many rows behind its beginning as it has line breaks, and it is
joined to what ends on a row unless a line break parts them. -/
structure Token.Placed (row : Nat) (token : Token) : Prop where
  /-- The comments stand in between. -/
  between : Between row token.comments token.startRow
  /-- The rows of the token are those of its spelling. -/
  endRow : token.endRow = token.startRow + breaks token.text
  /-- Without a line break it is joined to what stands in front. -/
  joins : token.afterBreak = false -> Joins row token.comments token.startRow

/-- Tokens of the lexer, one behind the other from a row on. -/
def Token.AllPlaced : Nat -> List Token -> Prop
  | _, [] => True
  | row, token :: rest => token.Placed row ∧ AllPlaced token.endRow rest

namespace Token.AllPlaced

variable {row : Nat} {front back : List Token}

theorem ascend (placed : AllPlaced row front) : Ascend row front := by
  induction front generalizing row with
  | nil => trivial
  | cons token rest inductionHypothesis =>
      exact ⟨placed.1.between, placed.1.endRow ▸ Nat.le_add_right _ _,
        inductionHypothesis placed.2⟩

theorem append :
    AllPlaced row (front ++ back) ↔ AllPlaced row front ∧ AllPlaced (rowBehind row front) back := by
  induction front generalizing row with
  | nil => simp [AllPlaced]
  | cons token rest inductionHypothesis =>
      simp only [List.cons_append, AllPlaced, inductionHypothesis, rowBehind_cons, and_assoc]

end Token.AllPlaced

theorem Comment.joins_concat
    {row last : Nat}
    {comments : List Comment}
    {comment : Comment} :
    Joins row (comments ++ [comment]) last ↔
      Joins row comments comment.startRow ∧ comment.startRow ≤ comment.endRow ∧
        comment.endRow = last := by
  induction comments generalizing row with
  | nil => rfl
  | cons first rest inductionHypothesis =>
      simp only [List.cons_append, Joins, inductionHypothesis, and_assoc]

namespace Lexer

/-- The comments that are noted at a place stand behind code that ends on a row. -/
structure Place.Notes (row : Nat) (place : Lexer.Place) : Prop where
  between : Between row place.comments.reverse place.row
  joins : place.afterBreak = false -> Joins row place.comments.reverse place.row

namespace Place.Notes

variable {row : Nat} {place : Lexer.Place}

theorem start : Place.start.Notes 0 := ⟨Nat.le_refl 0, fun _ => rfl⟩

/-- Behind a token nothing is noted. -/
theorem behind_token (place : Lexer.Place) (text : List Char) :
    (place.fresh.over text).Notes (place.row + breaks text) := by
  constructor
  · rw [comments_over, row_over]
    exact Nat.le_refl _
  · intro _
    rw [comments_over, row_over]
    rfl

theorem pass
    (notes : place.Notes row)
    (char : Char) :
    (place.pass char).Notes row := by
  by_cases broken : char = '\n'
  · subst broken
    refine ⟨notes.between.mono_right (Nat.le_succ _), fun unbroken => ?_⟩
    simp [Place.pass] at unbroken
  · have sameRow : (place.pass char).row = place.row := if_neg broken
    have sameComments : (place.pass char).comments = place.comments := rfl
    have sameBreak : (place.pass char).afterBreak = place.afterBreak := by
      simp [Place.pass, broken]
    exact ⟨by rw [sameRow, sameComments]; exact notes.between,
      by rw [sameBreak, sameRow, sameComments]; exact notes.joins⟩

theorem note
    (notes : place.Notes row)
    (text : List Char) :
    ((place.note text).over text).Notes row := by
  constructor
  · rw [comments_over, row_over]
    simp only [Place.note, List.reverse_cons]
    exact between_concat.2 ⟨notes.between, Nat.le_add_right _ _, Nat.le_refl _⟩
  · intro unbroken
    rw [afterBreak_over] at unbroken
    rw [comments_over, row_over]
    simp only [Place.note, List.reverse_cons]
    exact joins_concat.2 ⟨notes.joins unbroken, Nat.le_add_right _ _, rfl⟩

end Place.Notes

theorem two_le_of_commentLength?
    {text : List Char}
    {length : Nat}
    (comment : commentLength? text = some length) :
    2 ≤ length := by
  unfold commentLength? at comment
  split at comment
  · cases comment
    omega
  · obtain ⟨inner, _, rfl⟩ := Option.map_eq_some_iff.1 comment
    omega
  · cases comment

/-- The tokens behind a place stand one behind the other, from the row on that is noted there. -/
theorem allPlaced_run
    {row : Nat}
    {covered : Nat}
    {place : Lexer.Place}
    {text : List Char}
    (notes : (place.over (text.take covered)).Notes row) :
    Token.AllPlaced row (run covered place text) := by
  fun_induction run covered place text generalizing row with
  | case1 covered place =>
      rw [List.take_nil] at notes
      exact ⟨⟨notes.between, rfl, notes.joins⟩, trivial⟩
  | case2 covered place char rest inductionHypothesis => exact inductionHypothesis notes
  | case3 place char rest blank inductionHypothesis => exact inductionHypothesis (notes.pass char)
  | case4 place char rest visible length comment inductionHypothesis =>
      refine inductionHypothesis ?_
      have more := two_le_of_commentLength? comment
      have noted := Place.Notes.note notes ((char :: rest).take length)
      obtain ⟨less, rfl⟩ : ∃ less, length = less + 1 := ⟨length - 1, by omega⟩
      exact noted
  | case5 place rest visible noComment inductionHypothesis =>
      refine ⟨⟨notes.between, rfl, notes.joins⟩, inductionHypothesis ?_⟩
      exact .behind_token place ['\x00']
  | case6 place char rest visible noComment noEnd kind further cut inductionHypothesis =>
      refine ⟨⟨notes.between, rfl, notes.joins⟩, inductionHypothesis ?_⟩
      exact .behind_token place (char :: rest.take further)

end Lexer

/-- The tokens of a text stand one behind the other. -/
theorem allPlaced_tokenize (text : List Char) : Token.AllPlaced 0 (tokenize text) := by
  unfold tokenize
  split
  · exact allPlaced_run .start
  · split
    · exact allPlaced_run (Place.Notes.start.pass _)
    · exact allPlaced_run .start

/-!
## Derivations of trees

Reading is described by how the trees of a rule are made of those of its parts.  The tokens of the
trees are those that have been read, a part that cannot be empty reads at least one of them, and
each declaration of types in the trees was read by the rule for such declarations.  From this the
items of a file are regular.
-/

namespace Rule

/-- A rule of a grammar makes trees of the tokens in front of the rest.  What rules look at without
reading over it is left out, except for line breaks. -/
inductive Derives {name : Type} (grammar : name -> Rule name) :
    Mode -> Rule name -> List Token -> List Tree -> List Token -> Prop
  | nothing {mode : Mode} {tokens : List Token} :
      Derives grammar mode .nothing tokens [] tokens
  | token {mode : Mode} {test : Token -> Bool} {next : Token} {rest : List Token}
      (fits : test next = true) :
      Derives grammar mode (.token test) (next :: rest) [.leaf next] rest
  | lineBreak {mode : Mode} {tokens : List Token} :
      Derives grammar mode .lineEnd tokens [] tokens
  | lineMark {mode : Mode} {next : Token} {rest : List Token}
      (unbroken : atBreak mode (next :: rest) = false) (ends : next.endsLine = true) :
      Derives grammar mode .lineEnd (next :: rest) [.leaf next] rest
  | joined {mode : Mode} {tokens : List Token} :
      Derives grammar mode .joined tokens [] tokens
  | ahead {mode : Mode} {test : Token -> Bool} {tokens : List Token} :
      Derives grammar mode (.ahead test) tokens [] tokens
  | absent {mode : Mode} {rule : Rule name} {tokens : List Token} :
      Derives grammar mode (.absent rule) tokens [] tokens
  | literalHere {mode : Mode} {tokens : List Token} :
      Derives grammar mode .literalHere tokens [] tokens
  | both {mode : Mode} {first second : Rule name} {tokens middle rest : List Token}
      {trees further : List Tree} (one : Derives grammar mode first tokens trees middle)
      (other : Derives grammar mode second middle further rest) :
      Derives grammar mode (.both first second) tokens (trees ++ further) rest
  | left {mode : Mode} {first second : Rule name} {tokens rest : List Token} {trees : List Tree}
      (one : Derives grammar mode first tokens trees rest) :
      Derives grammar mode (.either first second) tokens trees rest
  | right {mode : Mode} {first second : Rule name} {tokens rest : List Token} {trees : List Tree}
      (other : Derives grammar mode second tokens trees rest) :
      Derives grammar mode (.either first second) tokens trees rest
  | manyNil {mode : Mode} {rule : Rule name} {tokens : List Token} :
      Derives grammar mode (.many rule) tokens [] tokens
  | manyCons {mode : Mode} {rule : Rule name} {tokens middle rest : List Token}
      {trees further : List Tree} (one : Derives grammar mode rule tokens trees middle)
      (others : Derives grammar mode (.many rule) middle further rest) :
      Derives grammar mode (.many rule) tokens (trees ++ further) rest
  | inside {mode mode' : Mode} {rule : Rule name} {tokens rest : List Token} {trees : List Tree}
      (inner : Derives grammar mode' rule tokens trees rest) :
      Derives grammar mode (.inside mode' rule) tokens trees rest
  | node {mode : Mode} {kind : NodeKind} {rule : Rule name} {tokens rest : List Token}
      {trees : List Tree} (inner : Derives grammar mode rule tokens trees rest) :
      Derives grammar mode (.node kind rule) tokens [.node kind trees] rest
  | named {mode : Mode} {part : name} {tokens rest : List Token} {trees : List Tree}
      (inner : Derives grammar mode (grammar part) tokens trees rest) :
      Derives grammar mode (.named part) tokens trees rest

variable {name : Type} {grammar : name -> Rule name} {rule first second : Rule name}
  {mode : Mode} {tokens rest : List Token} {trees : List Tree} {depth : Nat}

theorem derives_of_passIf
    {condition : Bool}
    (derives : Derives grammar mode rule tokens [] tokens)
    (passed : passIf condition tokens = some (trees, rest)) :
    Derives grammar mode rule tokens trees rest := by
  unfold passIf at passed
  split at passed
  · cases passed
    exact derives
  · cases passed

theorem exists_of_readToken
    {test : Token -> Bool}
    (read : readToken test tokens = some (trees, rest)) :
    ∃ next, tokens = next :: rest ∧ trees = [.leaf next] ∧ test next = true := by
  cases tokens with
  | nil => cases read
  | cons next others =>
      rw [readToken] at read
      split at read
      · next fits =>
          cases read
          exact ⟨next, rfl, rfl, fits⟩
      · cases read

theorem exists_of_andThen
    {reading : Reading}
    {next : List Token -> Reading}
    (read : reading.andThen next = some (trees, rest)) :
    ∃ front middle further, reading = some (front, middle) ∧ next middle = some (further, rest) ∧
      trees = front ++ further := by
  cases reading with
  | none => cases read
  | some found =>
      obtain ⟨front, middle⟩ := found
      obtain ⟨⟨further, _⟩, readNext, same⟩ := Option.map_eq_some_iff.1 read
      cases same
      exact ⟨front, middle, further, rfl, readNext, rfl⟩

/-- What has been read is derived. -/
theorem derives_of_read
    (read : rule.read grammar depth mode tokens = some (trees, rest)) :
    Derives grammar mode rule tokens trees rest := by
  induction depth generalizing mode rule tokens trees rest with
  | zero => cases read
  | succ depth inductionHypothesis =>
      cases rule with
      | nothing =>
          cases read
          exact .nothing
      | token test =>
          obtain ⟨next, rfl, rfl, fits⟩ := exists_of_readToken read
          exact .token fits
      | lineEnd =>
          rw [read_lineEnd] at read
          split at read
          · cases read
            exact .lineBreak
          · next unbroken =>
              obtain ⟨next, rfl, rfl, ends⟩ := exists_of_readToken read
              exact .lineMark (Bool.eq_false_iff.2 unbroken) ends
      | joined => exact derives_of_passIf .joined read
      | ahead test => exact derives_of_passIf .ahead read
      | absent rule => exact derives_of_passIf .absent read
      | literalHere => exact derives_of_passIf .literalHere read
      | both first second =>
          obtain ⟨front, middle, further, readFirst, readSecond, rfl⟩ := exists_of_andThen read
          exact .both (inductionHypothesis readFirst) (inductionHypothesis readSecond)
      | either first second =>
          rw [read_either] at read
          split at read
          · exact .right (inductionHypothesis read)
          · next found readFirst => exact .left (inductionHypothesis (readFirst.trans read))
      | many rule =>
          rw [read_many] at read
          split at read
          · cases read
            exact .manyNil
          · next front middle readFirst =>
              have derivesFirst := inductionHypothesis readFirst
              split at read
              · obtain ⟨front, middle, further, same, readFurther, rfl⟩ := exists_of_andThen read
                cases same
                exact .manyCons derivesFirst (inductionHypothesis readFurther)
              · cases read
                rw [← List.append_nil trees]
                exact .manyCons derivesFirst .manyNil
      | inside mode' rule => exact .inside (inductionHypothesis read)
      | node kind rule =>
          obtain ⟨⟨children, rest⟩, readInner, same⟩ := Option.map_eq_some_iff.1 read
          cases same
          exact .node (inductionHypothesis readInner)
      | named part => exact .named (inductionHypothesis read)

namespace Derives

/-- The tokens of the trees are those that have been read. -/
theorem tokens_eq
    (derives : Derives grammar mode rule tokens trees rest) :
    tokens = Tree.tokensOfAll trees ++ rest := by
  induction derives with
  | both _ _ sameFirst sameSecond | manyCons _ _ sameFirst sameSecond =>
      rw [Tree.tokensOfAll_append, List.append_assoc, ← sameSecond, sameFirst]
  | left _ inductionHypothesis | right _ inductionHypothesis
  | inside _ inductionHypothesis | named _ inductionHypothesis => exact inductionHypothesis
  | node _ inductionHypothesis => simpa [Tree.tokensOfAll, Tree.tokens] using inductionHypothesis
  | _ => simp [Tree.tokensOfAll, Tree.tokens]

end Derives

/-! ## Rules that read something -/

/-- Whether a rule may fit without reading over a token, given the parts that may. -/
def mayBeEmpty (emptyParts : name -> Bool) : Rule name -> Bool
  | token _ => false
  | both first second => first.mayBeEmpty emptyParts && second.mayBeEmpty emptyParts
  | either first second => first.mayBeEmpty emptyParts || second.mayBeEmpty emptyParts
  | inside _ rule | node _ rule => rule.mayBeEmpty emptyParts
  | named part => emptyParts part
  | nothing | lineEnd | joined | ahead _ | absent _ | literalHere | many _ => true

theorem Derives.tokens_ne_nil
    {emptyParts : name -> Bool}
    (closed : ∀ part, (grammar part).mayBeEmpty emptyParts = true -> emptyParts part = true)
    (derives : Derives grammar mode rule tokens trees rest)
    (nonempty : rule.mayBeEmpty emptyParts = false) :
    Tree.tokensOfAll trees ≠ [] := by
  induction derives with
  | token _ => simp [Tree.tokensOfAll, Tree.tokens]
  | both _ _ filledFirst filledSecond =>
      rw [Tree.tokensOfAll_append, ne_eq, List.append_eq_nil_iff, not_and_or]
      exact (Bool.and_eq_false_iff.1 nonempty).imp filledFirst filledSecond
  | left _ inductionHypothesis =>
      exact inductionHypothesis (Bool.or_eq_false_iff.1 nonempty).1
  | right _ inductionHypothesis =>
      exact inductionHypothesis (Bool.or_eq_false_iff.1 nonempty).2
  | inside _ inductionHypothesis => exact inductionHypothesis nonempty
  | node _ inductionHypothesis =>
      simpa [Tree.tokensOfAll, Tree.tokens] using inductionHypothesis nonempty
  | @named _ part _ _ _ _ inductionHypothesis =>
      refine inductionHypothesis (Bool.eq_false_iff.2 fun empty => ?_)
      rw [mayBeEmpty, closed part empty] at nonempty
      cases nonempty
  | _ => cases nonempty

end Rule

namespace Part

/-- The parts of the language that may be empty. -/
def mayBeEmpty (part : Part) : Bool := [file, statements, switchHeader].contains part

theorem mayBeEmpty_of_rule
    (part : Part)
    (empty : (rule part).mayBeEmpty mayBeEmpty = true) :
    part.mayBeEmpty = true := by
  revert empty
  cases part <;> decide

end Part

/-! ## Nodes inside trees -/

/-- A tree is among some others or below one of them. -/
inductive Tree.Within (tree : Tree) : List Tree -> Prop
  | among {trees : List Tree} (present : tree ∈ trees) : Within tree trees
  | inside {trees children : List Tree} {kind : NodeKind}
      (present : Tree.node kind children ∈ trees)
      (within : Within tree children) : Within tree trees

namespace Tree.Within

variable {tree : Tree} {front back children : List Tree}

theorem of_only?
    {kind : NodeKind}
    {item : Tree}
    (present : item ∈ front)
    (only : item.only? kind = some tree) :
    ∃ children, tree = .node kind children ∧ Within tree front := by
  unfold only? at only
  split at only
  · next child alone =>
      split at only
      · next isKind =>
          cases only
          cases item with
          | leaf token => cases alone
          | node _ inner =>
              obtain rfl : inner = [tree] := alone
              have within : Within tree front := .inside present (.among List.mem_cons_self)
              cases tree with
              | leaf token => cases isKind
              | node kind' children =>
                  obtain rfl : kind' = kind := by simpa [Tree.isKind] using isKind
                  exact ⟨children, rfl, within⟩
      · cases only
  · cases only

theorem of_nil (within : Within tree []) : False := by
  cases within with
  | among present | inside present _ => cases present

theorem of_append (within : Within tree (front ++ back)) :
    Within tree front ∨ Within tree back := by
  cases within with
  | among present => exact (List.mem_append.1 present).imp .among .among
  | inside present within =>
      exact (List.mem_append.1 present).imp (.inside · within) (.inside · within)

theorem of_leaf
    {token : Token}
    (within : Within tree [.leaf token]) :
    tree = .leaf token := by
  cases within with
  | among present => exact List.mem_singleton.1 present
  | inside present _ => cases List.mem_singleton.1 present

theorem of_node
    {kind : NodeKind}
    (within : Within tree [.node kind children]) :
    tree = .node kind children ∨ Within tree children := by
  cases within with
  | among present => exact .inl (List.mem_singleton.1 present)
  | inside present within =>
      cases List.mem_singleton.1 present
      exact .inr within

end Tree.Within

namespace Rule

variable {name : Type} {grammar : name -> Rule name} {rule inner : Rule name} {mode : Mode}
  {tokens rest : List Token} {trees children : List Tree} {kind : NodeKind}

/-- All nodes of a kind that a rule makes by itself are made of the trees of a given rule. -/
def MakesOnly (kind : NodeKind) : Rule name -> Rule name -> Prop
  | node kind' rule, inner => (kind' = kind -> rule = inner) ∧ rule.MakesOnly kind inner
  | both first second, inner | either first second, inner =>
      first.MakesOnly kind inner ∧ second.MakesOnly kind inner
  | many rule, inner | inside _ rule, inner => rule.MakesOnly kind inner
  | nothing, _ | token _, _ | lineEnd, _ | joined, _ | ahead _, _ | absent _, _ | literalHere, _
  | named _, _ => True

/-- Nodes of a kind have been read by the rule for them. -/
theorem Derives.exists_of_within
    (grammarMakes : ∀ part, (grammar part).MakesOnly kind inner)
    (derives : Derives grammar mode rule tokens trees rest)
    (makes : rule.MakesOnly kind inner)
    (within : (Tree.node kind children).Within trees) :
    ∃ mode' before tokens' rest', tokens = before ++ tokens' ∧
      Derives grammar mode' inner tokens' children rest' := by
  induction derives with
  | token _ | lineMark _ _ => cases within.of_leaf
  | both one _ firstHypothesis secondHypothesis =>
      rcases within.of_append with within | within
      · exact firstHypothesis makes.1 within
      · obtain ⟨mode', before, tokens', rest', rfl, derived⟩ := secondHypothesis makes.2 within
        exact ⟨mode', _, tokens', rest', one.tokens_eq.trans (List.append_assoc ..).symm, derived⟩
  | manyCons one _ firstHypothesis furtherHypothesis =>
      rcases within.of_append with within | within
      · exact firstHypothesis makes within
      · obtain ⟨mode', before, tokens', rest', rfl, derived⟩ := furtherHypothesis makes within
        exact ⟨mode', _, tokens', rest', one.tokens_eq.trans (List.append_assoc ..).symm, derived⟩
  | left _ inductionHypothesis => exact inductionHypothesis makes.1 within
  | right _ inductionHypothesis => exact inductionHypothesis makes.2 within
  | inside _ inductionHypothesis => exact inductionHypothesis makes within
  | named _ inductionHypothesis => exact inductionHypothesis (grammarMakes _) within
  | @node mode' _ _ tokens' rest' _ derived inductionHypothesis =>
      rcases within.of_node with same | within
      · cases same
        obtain rfl := makes.1 rfl
        exact ⟨mode', [], tokens', rest', rfl, derived⟩
      · exact inductionHypothesis makes.2 within
  | _ => exact within.of_nil.elim

end Rule

namespace Part

open Rule

/-- How the children of a declaration of types are read. -/
def typeEntries : Rule Part := both (keyword "type") (entries (named typeSpec))

/-- Declarations of types are read as such. -/
theorem makesOnly_typeEntries (part : Part) :
    (rule part).MakesOnly .typeDeclaration typeEntries := by
  cases part <;>
    simp [rule, MakesOnly, typeEntries, Rule.sequence, Rule.oneOf, Rule.optional, Rule.mark,
      Rule.keyword, Rule.joinedMark, Rule.separatedBy, Rule.commaSeparated, Rule.commaEnded,
      Rule.commaList, Rule.lineList, Rule.lineEnded, Rule.enclosed, oneMark, identifier, plainName,
      onLine, braced, parenthesized, bracketed, entries, furtherExpressions, clauseBody, caseOf,
      resultOnLine]

end Part

/-! ## Lines of entries -/

section Lines

open Rule

variable {entry : Rule Part} {mode : Mode} {row : Nat} {tokens rest : List Token}
  {trees : List Tree}

/-- What a rule reads is a node with at least one token. -/
def Rule.ReadsNode (entry : Rule Part) : Prop :=
  ∀ mode tokens trees rest, entry.Derives Part.rule mode tokens trees rest ->
    ∃ kind children last, trees = [.node kind children] ∧
      (Tree.node kind children).last? = some last

theorem exists_last?_of_tokens_ne_nil
    {kind : NodeKind}
    {children : List Tree}
    (nonempty : Tree.tokensOfAll [.node kind children] ≠ []) :
    ∃ last, (Tree.node kind children).last? = some last := by
  rw [Tree.tokensOfAll, Tree.tokensOfAll, List.append_nil] at nonempty
  exact ⟨_, List.getLast?_eq_some_getLast nonempty⟩

/-- A rule that reads nodes only and cannot be empty reads a node with at least one token. -/
theorem Rule.readsNode_node
    {kind : NodeKind}
    {inner : Rule Part}
    (nonempty : inner.mayBeEmpty Part.mayBeEmpty = false) :
    (Rule.node kind inner).ReadsNode := by
  intro mode tokens trees rest derives
  have filled := derives.tokens_ne_nil Part.mayBeEmpty_of_rule nonempty
  cases derives with
  | node _ =>
      obtain ⟨last, ends⟩ := exists_last?_of_tokens_ne_nil filled
      exact ⟨_, _, last, rfl, ends⟩

theorem Rule.ReadsNode.either
    {first second : Rule Part}
    (one : first.ReadsNode)
    (other : second.ReadsNode) :
    (Rule.either first second).ReadsNode := by
  intro mode tokens trees rest derives
  cases derives with
  | left derived => exact one _ _ _ _ derived
  | right derived => exact other _ _ _ _ derived

theorem Rule.ReadsNode.named
    {part : Part}
    (reads : (Part.rule part).ReadsNode) :
    (Rule.named part).ReadsNode := by
  intro mode tokens trees rest derives
  cases derives with
  | named derived => exact reads _ _ _ _ derived

theorem readsNode_item : (Rule.named Part.item).ReadsNode := by
  have reads : ReadsNode (node .item (either (named Part.declaration) (named .statement))) :=
    readsNode_node (by decide)
  exact .named reads

theorem readsNode_typeSpec : (Rule.named Part.typeSpec).ReadsNode :=
  .named ((readsNode_node (by decide)).either
    ((readsNode_node (by decide)).either (readsNode_node (by decide))))

/-- A mark that ends a line has no line break in it. -/
theorem Token.breaks_of_endsLine
    {token : Token}
    (ends : token.endsLine = true) :
    Lexer.breaks token.text = 0 := by
  simp only [Token.endsLine, Bool.and_eq_true, Bool.or_eq_true, beq_iff_eq] at ends
  rcases ends.2 with same | same <;> simp [same, Lexer.breaks]

/-- Entries with the ends of their lines, and what stands behind them, stand in lines. -/
theorem lined_of_derives
    {behind : List Tree}
    (readsNode : entry.ReadsNode)
    (derives : (Rule.lineEnded entry).Derives Part.rule .lines tokens trees rest)
    (placed : Token.AllPlaced row tokens)
    (lined : ∀ row?, Lined row? behind)
    (row? : Option Nat) :
    Lined row? (trees ++ behind) := by
  unfold Rule.lineEnded at derives
  generalize same : many (both entry lineEnd) = whole at derives
  generalize lines : Mode.lines = mode at derives
  induction derives generalizing row row? with
  | manyNil => exact lined row?
  | @manyCons mode _ tokens middle rest trees further one _ _ inductionHypothesis =>
      cases same
      subst lines
      have placedMiddle := placed
      rw [one.tokens_eq, Token.AllPlaced.append] at placedMiddle
      have linedFurther (row? : Option Nat) := inductionHypothesis placedMiddle.2 row? rfl rfl
      cases one with
      | both derivedEntry derivedEnd =>
          obtain ⟨kind, children, last, rfl, ends⟩ := readsNode _ _ _ _ derivedEntry
          rw [derivedEntry.tokens_eq, Token.AllPlaced.append] at placed
          have behindEntry :
              Token.rowBehind row (Tree.tokensOfAll [.node kind children]) = last.endRow := by
            rw [Tree.tokensOfAll, Tree.tokensOfAll, List.append_nil]
            exact Token.rowBehind_of_getLast? ends
          rw [behindEntry] at placed
          cases derivedEnd with
          | lineBreak => exact .node ends (linedFurther _)
          | lineMark unbroken endsLine =>
              have placedMark := placed.2.1
              refine .node ends (.leaf (placedMark.joins unbroken) ?_ (linedFurther _))
              rw [placedMark.endRow, Token.breaks_of_endsLine endsLine, Nat.add_zero]
  | _ => cases same

end Lines

/-! ## The items of a file -/

section Items

open Rule

variable {mode : Mode} {row : Nat} {tokens rest : List Token} {trees : List Tree}

theorem leaf_of_derives_mark
    {spelling : String}
    (derives : (Rule.mark spelling).Derives Part.rule mode tokens trees rest) :
    ∃ token, trees = [.leaf token] ∧ token.text = spelling.toList := by
  cases derives with
  | token fits =>
      simp only [Token.isMark, Bool.and_eq_true, beq_iff_eq] at fits
      exact ⟨_, rfl, fits.2⟩

theorem leaf_of_derives_keyword
    {spelling : String}
    (derives : (Rule.keyword spelling).Derives Part.rule mode tokens trees rest) :
    ∃ token, trees = [.leaf token] ∧ token.text = spelling.toList := by
  cases derives with
  | token fits =>
      simp only [Token.isKeyword, Bool.and_eq_true, beq_iff_eq] at fits
      exact ⟨_, rfl, fits.2⟩

/-- Types are declared alone or in groups. -/
theorem declaresTypes_of_derives
    (derives : Part.typeEntries.Derives Part.rule mode tokens trees rest)
    (placed : Token.AllPlaced row tokens) :
    DeclaresTypes trees := by
  cases derives with
  | both derivedKeyword derivedEntries =>
      obtain ⟨keyword, rfl, isType⟩ := leaf_of_derives_keyword derivedKeyword
      rw [derivedKeyword.tokens_eq, Token.AllPlaced.append] at placed
      cases derivedEntries with
      | right derivedSpec =>
          obtain ⟨kind, children, _, rfl, _⟩ := readsNode_typeSpec _ _ _ _ derivedSpec
          exact .single keyword kind children
      | left derivedGroup =>
          cases derivedGroup with
          | both derivedOpening derivedInside =>
              obtain ⟨opening, rfl, opens⟩ := leaf_of_derives_mark derivedOpening
              have placedInside := placed.2
              rw [derivedOpening.tokens_eq, Token.AllPlaced.append] at placedInside
              cases derivedInside with
              | inside derivedBoth =>
                  cases derivedBoth with
                  | both derivedSpecs derivedClosing =>
                      obtain ⟨closing, rfl, _⟩ := leaf_of_derives_mark derivedClosing
                      have lined := lined_of_derives readsNode_typeSpec derivedSpecs placedInside.2
                        (fun _ => .nil) none
                      rw [List.append_nil] at lined
                      exact .grouped isType opens lined

/-- What stands behind the items of a file is the end of the text. -/
theorem derives_of_readFile
    {items : List Tree}
    (read : readFile tokens = some items) :
    ∃ finish, (Rule.named Part.file).Derives Part.rule .lines tokens items finish ∧
      finish.all Token.isFinish = true := by
  unfold readFile at read
  split at read
  · next trees rest readTrees =>
      split at read
      · next ends =>
          cases read
          exact ⟨rest, derives_of_read readTrees, ends⟩
      · cases read
  · cases read

/-- The items of a file that has been read by the rules are regular. -/
theorem regular_of_readFile
    {text : List Char}
    {items : List Tree}
    (read : readFile (tokenize text) = some items) :
    Regular items := by
  obtain ⟨finish, derives, _⟩ := derives_of_readFile read
  have placed := allPlaced_tokenize text
  refine ⟨?_, ?_, fun item present declaration only => ?_⟩
  · rw [derives.tokens_eq, Token.AllPlaced.append] at placed
    exact placed.1.ascend
  · cases derives with
    | named derivedFile =>
        cases derivedFile with
        | both derivedItems derivedLast =>
            refine lined_of_derives readsNode_item derivedItems placed (fun row? => ?_) none
            cases derivedLast with
            | left derivedNode =>
                obtain ⟨kind, children, last, rfl, ends⟩ :=
                  readsNode_node (by decide) _ _ _ _ derivedNode
                exact .node ends .nil
            | right derivedNothing =>
                cases derivedNothing
                exact .nil
  · obtain ⟨children, rfl, within⟩ := Tree.Within.of_only? present only
    obtain ⟨mode, before, tokens, rest, cut, derived⟩ :=
      derives.exists_of_within Part.makesOnly_typeEntries trivial within
    rw [cut, Token.AllPlaced.append] at placed
    exact declaresTypes_of_derives derived placed.2

end Items

end Go
end ConfigWiring
