import ConfigWiring.Go.Doc
import ConfigWiring.Go.Source
import Mathlib.Data.List.Induction

/-!
# Comments in regular trees

The documentation above a row is a group of comments.  The comments between two tokens stand
between the rows of these tokens, so where every mark beside the declarations stands on the line of
the code in front of it, no comment of the group begins on the line of a token in front of it.
-/

namespace ConfigWiring
namespace Go

/-! ## Rows of comments -/

namespace Comment

/-- Some comments stand one behind the other, from one row on and up to another one. -/
def Between : Nat -> List Comment -> Nat -> Prop
  | row, [], last => row ≤ last
  | row, comment :: rest, last =>
      row ≤ comment.startRow ∧ comment.startRow ≤ comment.endRow ∧ Between comment.endRow rest last

/-- Some comments stand one behind the other, and no line break parts them from each other, from
the row in front of them or from the one behind them. -/
def Joins : Nat -> List Comment -> Nat -> Prop
  | row, [], last => row = last
  | row, comment :: rest, last =>
      row = comment.startRow ∧ comment.startRow ≤ comment.endRow ∧ Joins comment.endRow rest last

/-- No blank line parts some comments from each other or from the row behind them. -/
def Reaches : Nat -> List Comment -> Nat -> Prop
  | row, [], last => last ≤ row + 1
  | row, comment :: rest, last => comment.startRow ≤ row + 1 ∧ Reaches comment.endRow rest last

variable {row last : Nat} {comments : List Comment} {comment : Comment}

theorem Between.le (between : Between row comments last) : row ≤ last := by
  induction comments generalizing row with
  | nil => exact between
  | cons comment rest inductionHypothesis =>
      exact Nat.le_trans (Nat.le_trans between.1 between.2.1) (inductionHypothesis between.2.2)

theorem Between.mono_right
    {last' : Nat}
    (between : Between row comments last)
    (more : last ≤ last') :
    Between row comments last' := by
  induction comments generalizing row with
  | nil => exact Nat.le_trans between more
  | cons comment rest inductionHypothesis =>
      exact ⟨between.1, between.2.1, inductionHypothesis between.2.2⟩

theorem between_concat :
    Between row (comments ++ [comment]) last ↔
      Between row comments comment.startRow ∧ comment.startRow ≤ comment.endRow ∧
        comment.endRow ≤ last := by
  induction comments generalizing row with
  | nil => rfl
  | cons first rest inductionHypothesis =>
      simp only [List.cons_append, Between, inductionHypothesis, and_assoc]

theorem Joins.between (joins : Joins row comments last) : Between row comments last := by
  induction comments generalizing row with
  | nil => exact Nat.le_of_eq joins
  | cons comment rest inductionHypothesis =>
      exact ⟨Nat.le_of_eq joins.1, joins.2.1, inductionHypothesis joins.2.2⟩

theorem Between.reaches
    (between : Between row comments last)
    (near : last ≤ row + 1) :
    Reaches row comments last := by
  induction comments generalizing row with
  | nil => exact near
  | cons comment rest inductionHypothesis =>
      obtain ⟨less, inside, further⟩ := between
      have bound := further.le
      exact ⟨by omega, inductionHypothesis further (by omega)⟩

theorem Joins.reaches
    {last' : Nat}
    (joins : Joins row comments last)
    (near : last' ≤ last + 1) :
    Reaches row comments last' := by
  induction comments generalizing row with
  | nil =>
      obtain rfl : row = last := joins
      exact near
  | cons comment rest inductionHypothesis =>
      exact ⟨Nat.le_succ_of_le (Nat.le_of_eq joins.1.symm), inductionHypothesis joins.2.2⟩

theorem reaches_concat :
    Reaches row (comments ++ [comment]) last ↔
      Reaches row comments comment.startRow ∧ last ≤ comment.endRow + 1 := by
  induction comments generalizing row with
  | nil => rfl
  | cons first rest inductionHypothesis =>
      simp only [List.cons_append, Reaches, inductionHypothesis, and_assoc]

end Comment

/-! ## Groups -/

namespace Doc

open Comment Text

/-- The group of comments directly above a row, from the siblings above it, the nearest first;
nothing if the group begins behind other code. -/
def groupAbove (row : Nat) : List Sibling -> Option (List Comment)
  | [] => some []
  | .code _ :: _ => some []
  | .comment comment :: above =>
      if comment.endRow + 1 < row then some []
      else if above.head?.any (Sibling.endsOn comment.startRow) then none
      else (groupAbove comment.startRow above).map (· ++ [comment])

/-- The comments of the documentation above a row, from the siblings above it. -/
def commentsAbove (row : Nat) (siblings : List Sibling) : List Comment :=
  (groupAbove row siblings).getD []

/-- The text of a group of comments. -/
def text (group : List Comment) : String :=
  String.ofList (joinAll '\n' (group.flatMap Comment.lines))

theorem linesAbove_eq_groupAbove (row : Nat) (siblings : List Sibling) :
    linesAbove row siblings = (groupAbove row siblings).map (·.flatMap Comment.lines) := by
  induction siblings generalizing row with
  | nil => rfl
  | cons sibling above inductionHypothesis =>
      cases sibling with
      | code endRow => rfl
      | comment comment =>
          rw [linesAbove, groupAbove]
          split
          · rfl
          · split
            · rfl
            · rw [inductionHypothesis]
              cases groupAbove comment.startRow above <;> simp

theorem above_eq_text (row : Nat) (siblings : List Sibling) :
    above row siblings = text (commentsAbove row siblings) := by
  rw [above, linesAbove_eq_groupAbove, text, commentsAbove]
  cases groupAbove row siblings <;> rfl

/-- Comments as siblings, the last of them first. -/
def stacked (comments : List Comment) : List Sibling := comments.reverse.map .comment

@[simp] theorem stacked_nil : stacked [] = [] := rfl

@[simp] theorem stacked_concat (comments : List Comment) (comment : Comment) :
    stacked (comments ++ [comment]) = .comment comment :: stacked comments := by
  simp [stacked]

theorem stacked_append (comments further : List Comment) :
    stacked (comments ++ further) = stacked further ++ stacked comments := by
  simp [stacked]

variable {row last : Nat} {comments group : List Comment} {comment : Comment}
  {siblings : List Sibling}

/-- A group goes no further than the comments above the row. -/
theorem suffix_of_groupAbove
    (found : groupAbove row (stacked comments) = some group) :
    group <:+ comments := by
  induction comments using List.reverseRecOn generalizing row group with
  | nil =>
      cases found
      exact List.suffix_refl []
  | append_singleton comments comment inductionHypothesis =>
      rw [stacked_concat, groupAbove] at found
      split at found
      · cases found
        exact List.nil_suffix
      · split at found
        · cases found
        · obtain ⟨inner, foundInner, rfl⟩ := Option.map_eq_some_iff.1 found
          obtain ⟨front, rfl⟩ := inductionHypothesis foundInner
          exact ⟨front, by simp⟩

/-! ## Behind code -/

/-- Of some siblings, code comes nearest, perhaps with comments behind it from which no line break
parts it, and the line goes on to the given row. -/
def BehindCode (row : Nat) (siblings : List Sibling) : Prop :=
  ∃ comments start below, siblings = stacked comments ++ .code start :: below ∧
    Joins start comments row

theorem behindCode_code (row : Nat) (siblings : List Sibling) :
    BehindCode row (.code row :: siblings) :=
  ⟨[], row, siblings, rfl, rfl⟩

/-- Where comments reach from the line of code down to a row, the group belongs to the code. -/
theorem groupAbove_eq_none_of_reaches
    (behind : BehindCode row siblings)
    (begins : comment.startRow = row)
    (reaches : Reaches comment.endRow comments last) :
    groupAbove last (stacked (comment :: comments) ++ siblings) = none := by
  obtain ⟨inner, start, below, rfl, joins⟩ := behind
  -- The comments that are joined to the code and the others make one list, whose first comment
  -- begins where the code ends.
  obtain ⟨first, rest, split, sameRow, reachesAll⟩ : ∃ first rest,
      inner ++ comment :: comments = first :: rest ∧ first.startRow = start ∧
        Reaches first.endRow rest last := by
    cases inner with
    | nil => exact ⟨comment, comments, rfl, begins.trans joins.symm, reaches⟩
    | cons first rest =>
        refine ⟨first, rest ++ comment :: comments, rfl, joins.1.symm, ?_⟩
        have toComment := joins.2.2
        clear joins
        generalize first.endRow = middle at toComment
        induction rest generalizing middle with
        | nil =>
            obtain rfl : middle = row := toComment
            exact ⟨begins ▸ Nat.le_succ _, reaches⟩
        | cons next rest inductionHypothesis =>
            exact ⟨toComment.1 ▸ Nat.le_succ _, inductionHypothesis _ toComment.2.2⟩
  rw [← List.append_assoc, ← stacked_append, split]
  clear split joins begins reaches
  induction rest using List.reverseRecOn generalizing last with
  | nil =>
      have near : ¬first.endRow + 1 < last := Nat.not_lt.2 reachesAll
      have onLine : Sibling.endsOn first.startRow (.code start) = true := by
        simp [Sibling.endsOn, sameRow]
      simp [stacked, groupAbove, near, onLine]
  | append_singleton rest top inductionHypothesis =>
      obtain ⟨further, near⟩ := reaches_concat.1 reachesAll
      rw [← List.cons_append, stacked_concat, List.cons_append, groupAbove,
        if_neg (Nat.not_lt.2 near), inductionHypothesis further]
      split <;> rfl

/-- Behind code there is no group unless there are comments of its own. -/
theorem eq_nil_of_groupAbove_behindCode
    (behind : BehindCode row siblings)
    (found : groupAbove last siblings = some group) :
    group = [] := by
  obtain ⟨inner, start, below, rfl, joins⟩ := behind
  by_cases near : last ≤ row + 1
  · cases inner with
    | nil =>
        cases found
        rfl
    | cons first rest =>
        have none := groupAbove_eq_none_of_reaches (behindCode_code start below) joins.1.symm
          (joins.2.2.reaches near)
        rw [none] at found
        cases found
  · induction inner using List.reverseRecOn with
    | nil =>
        cases found
        rfl
    | append_singleton inner top _ =>
        have bound := (between_concat.1 joins.between).2.2
        rw [stacked_concat, List.cons_append, groupAbove, if_pos (by omega)] at found
        cases found
        rfl

/-- Behind code, no comment of a group begins on the row of the code. -/
theorem suffix_of_groupAbove_behindCode
    (behind : BehindCode row siblings)
    (between : Between row comments last)
    (found : groupAbove last (stacked comments ++ siblings) = some group) :
    group <:+ comments ∧ ∀ one ∈ group, row < one.startRow := by
  induction comments using List.reverseRecOn generalizing last group with
  | nil =>
      obtain rfl := eq_nil_of_groupAbove_behindCode behind found
      exact ⟨List.nil_suffix, List.forall_mem_nil _⟩
  | append_singleton comments comment inductionHypothesis =>
      obtain ⟨between, inside, bound⟩ := between_concat.1 between
      have none (near : last ≤ comment.endRow + 1) (sameRow : comment.startRow = row) :
          groupAbove last (stacked (comments ++ [comment]) ++ siblings) = none := by
        have reaches := reaches_concat.2 ⟨between.reaches (by omega), near⟩
        cases comments with
        | nil => exact groupAbove_eq_none_of_reaches behind sameRow reaches.2
        | cons first rest =>
            have firstBound := between.2.2.le
            exact groupAbove_eq_none_of_reaches behind
              (Nat.le_antisymm (by have := between.2.1; omega) between.1) reaches.2
      have whole := found
      rw [stacked_concat, List.cons_append, groupAbove] at found
      split at found
      · cases found
        exact ⟨List.nil_suffix, List.forall_mem_nil _⟩
      · next near =>
          split at found
          · cases found
          · obtain ⟨inner, foundInner, rfl⟩ := Option.map_eq_some_iff.1 found
            obtain ⟨⟨front, rfl⟩, apart⟩ := inductionHypothesis between foundInner
            refine ⟨⟨front, by simp⟩, List.forall_mem_append.2 ⟨apart, ?_⟩⟩
            rw [List.forall_mem_singleton]
            refine Nat.lt_of_le_of_ne between.le fun sameRow => ?_
            rw [none (by omega) sameRow.symm] at whole
            cases whole

theorem commentsAbove_suffix
    (row : Nat)
    (comments : List Comment) :
    commentsAbove row (stacked comments) <:+ comments := by
  unfold commentsAbove
  cases found : groupAbove row (stacked comments) with
  | none => exact List.nil_suffix
  | some group => exact suffix_of_groupAbove found

/-- Behind code, no comment of the documentation begins on the row of the code. -/
theorem commentsAbove_behindCode
    (behind : BehindCode row siblings)
    (between : Between row comments last) :
    commentsAbove last (stacked comments ++ siblings) <:+ comments ∧
      ∀ one ∈ commentsAbove last (stacked comments ++ siblings), row < one.startRow := by
  unfold commentsAbove
  cases found : groupAbove last (stacked comments ++ siblings) with
  | none => exact ⟨List.nil_suffix, List.forall_mem_nil _⟩
  | some group => exact suffix_of_groupAbove_behindCode behind between found

end Doc

/-!
## Regular trees

The trees of a file are regular if their tokens stand one behind the other, marks that end a line
stand on the line of the code in front of them, and the declarations of types are a keyword with a
single specification or with a list of them in parentheses.  In regular trees no comment of the
documentation of a type stands behind code on its line, except behind the keyword and the
parenthesis of a group.
-/

open Comment

/-! ## Rows of tokens -/

namespace Token

/-- Tokens and the comments in front of them stand one behind the other, from a row on. -/
def Ascend : Nat -> List Token -> Prop
  | _, [] => True
  | row, token :: rest =>
      Between row token.comments token.startRow ∧ token.startRow ≤ token.endRow ∧
        Ascend token.endRow rest

/-- The row on which some tokens end, or a given one if there are none. -/
def rowBehind (row : Nat) (tokens : List Token) : Nat := (tokens.getLast?.map endRow).getD row

variable {row : Nat} {front back : List Token} {token : Token}

@[simp] theorem rowBehind_nil (row : Nat) : rowBehind row [] = row := rfl

@[simp] theorem rowBehind_append (row : Nat) (front back : List Token) :
    rowBehind row (front ++ back) = rowBehind (rowBehind row front) back := by
  cases last : back.getLast? with
  | none =>
      rw [List.getLast?_eq_none_iff] at last
      simp [last]
  | some token => simp [rowBehind, last]

@[simp] theorem rowBehind_cons (row : Nat) (token : Token) (rest : List Token) :
    rowBehind row (token :: rest) = rowBehind token.endRow rest :=
  rowBehind_append row [token] rest

theorem rowBehind_of_getLast? (ends : front.getLast? = some token) :
    rowBehind row front = token.endRow := by
  rw [rowBehind, ends]
  rfl

theorem ascend_append :
    Ascend row (front ++ back) ↔ Ascend row front ∧ Ascend (rowBehind row front) back := by
  induction front generalizing row with
  | nil => simp [Ascend]
  | cons first rest inductionHypothesis =>
      simp only [List.cons_append, Ascend, inductionHypothesis, rowBehind_cons, and_assoc]

theorem Ascend.le_rowBehind (ascend : Ascend row front) : row ≤ rowBehind row front := by
  induction front generalizing row with
  | nil => exact Nat.le_refl row
  | cons first rest inductionHypothesis =>
      rw [rowBehind_cons]
      exact Nat.le_trans (Nat.le_trans ascend.1.le ascend.2.1) (inductionHypothesis ascend.2.2)

theorem Ascend.endRow_le
    (ascend : Ascend row front)
    (present : token ∈ front) :
    token.endRow ≤ rowBehind row front := by
  obtain ⟨before, behind, rfl⟩ := List.append_of_mem present
  have further := (ascend_append.1 ascend).2.2.2.le_rowBehind
  rwa [rowBehind_append, rowBehind_cons]

end Token

/-! ## Lines of trees -/

/-- Trees that stand beside each other in lines: nodes, and behind each of them perhaps a mark on
the line on which the node ends.  The row is that on which a node directly in front ends, if there
is one. -/
inductive Lined : Option Nat -> List Tree -> Prop
  | nil {row? : Option Nat} : Lined row? []
  | node {row? : Option Nat} {kind : NodeKind} {children rest : List Tree} {last : Token}
      (ends : (Tree.node kind children).last? = some last)
      (further : Lined (some last.endRow) rest) : Lined row? (.node kind children :: rest)
  | leaf {row : Nat} {token : Token} {rest : List Tree}
      (joins : Joins row token.comments token.startRow) (flat : token.endRow = token.startRow)
      (further : Lined none rest) : Lined (some row) (.leaf token :: rest)

/-- The parts of a declaration of types. -/
inductive DeclaresTypes : List Tree -> Prop
  | single (keyword : Token) (kind : NodeKind) (children : List Tree) :
      DeclaresTypes [.leaf keyword, .node kind children]
  | grouped {keyword opening closing : Token} {specs : List Tree}
      (isType : keyword.text = "type".toList) (opens : opening.text = "(".toList)
      (lined : Lined none specs) :
      DeclaresTypes (.leaf keyword :: .leaf opening :: (specs ++ [.leaf closing]))

/-- The items of a file stand one behind the other in lines, and so do the specifications of
types in them. -/
structure Regular (items : List Tree) : Prop where
  /-- Tokens stand one behind the other. -/
  ascend : Token.Ascend 0 (Tree.tokensOfAll items)
  /-- Items stand in lines. -/
  lined : Lined none items
  /-- Types are declared alone or in groups that stand in lines. -/
  declares : ∀ item ∈ items, ∀ declaration, item.only? .typeDeclaration = some declaration ->
    DeclaresTypes declaration.children

theorem Tree.tokensOfAll_append (front back : List Tree) :
    Tree.tokensOfAll (front ++ back) = Tree.tokensOfAll front ++ Tree.tokensOfAll back := by
  induction front with
  | nil => rfl
  | cons tree rest inductionHypothesis =>
      rw [List.cons_append, tokensOfAll, tokensOfAll, inductionHypothesis, List.append_assoc]

/-- The tokens of one of some trees stand together among those of all of them. -/
theorem Tree.tokens_infix_tokensOfAll
    {tree : Tree}
    {trees : List Tree}
    (present : tree ∈ trees) :
    tree.tokens <:+: tokensOfAll trees := by
  obtain ⟨front, back, rfl⟩ := List.append_of_mem present
  rw [tokensOfAll_append, tokensOfAll, ← List.append_assoc]
  exact List.infix_append _ _ _

/-- An only child has all the tokens. -/
theorem Tree.tokens_of_only?
    {kind : NodeKind}
    {tree child : Tree}
    (only : tree.only? kind = some child) :
    tree.tokens = child.tokens := by
  unfold only? at only
  split at only
  · next alone same =>
      split at only
      · cases only
        cases tree with
        | leaf token => cases same
        | node _ children =>
            obtain rfl : children = [child] := same
            simp [tokens, tokensOfAll]
      · cases only
  · cases only

namespace Doc

variable {row? : Option Nat} {row : Nat} {trees : List Tree} {siblings above : List Sibling}
  {tree : Tree} {head : Token} {comments : List Comment}

theorem withComments_of_first?
    (begins : tree.first? = some head)
    (siblings : List Sibling) :
    withComments tree siblings = stacked head.comments ++ siblings := by
  have put (comments : List Comment) (siblings : List Sibling) :
      comments.foldl (fun above comment => .comment comment :: above) siblings =
        stacked comments ++ siblings := by
    induction comments generalizing siblings with
    | nil => rfl
    | cons comment rest inductionHypothesis =>
        rw [List.foldl_cons, inductionHypothesis]
        simp [stacked]
  simp only [withComments, begins, put]

theorem withSiblings_node
    {kind : NodeKind}
    {children rest : List Tree}
    {last : Token}
    (ends : (Tree.node kind children).last? = some last)
    (siblings : List Sibling) :
    withSiblings siblings (.node kind children :: rest) =
      (.node kind children, withComments (.node kind children) siblings) ::
        withSiblings (.code last.endRow :: withComments (.node kind children) siblings) rest := by
  rw [withSiblings, ends]
  rfl

/-- The trees with the siblings above them are among the trees. -/
theorem mem_of_mem_withSiblings (present : (tree, above) ∈ withSiblings siblings trees) :
    tree ∈ trees := by
  induction trees generalizing siblings with
  | nil => cases present
  | cons first rest inductionHypothesis =>
      cases first with
      | leaf token => exact List.mem_cons_of_mem _ (inductionHypothesis present)
      | node kind children =>
          rw [withSiblings, List.mem_cons] at present
          rcases present with same | further
          · rw [(Prod.mk.inj same).1]
            exact List.mem_cons_self
          · exact List.mem_cons_of_mem _ (inductionHypothesis further)

/-- Leaves at the end of a list of trees stand for no declarations. -/
theorem withSiblings_append_leaf
    (siblings : List Sibling)
    (trees : List Tree)
    (token : Token) :
    withSiblings siblings (trees ++ [.leaf token]) = withSiblings siblings trees := by
  fun_induction withSiblings siblings trees with
  | case1 siblings => rfl
  | case2 siblings leaf rest inductionHypothesis => exact inductionHypothesis
  | case3 siblings kind children rest tree above inductionHypothesis =>
      exact congrArg (_ :: ·) inductionHypothesis

/-- Behind code, there is code in front of the comments of each node, on the last row of the trees
in front. -/
theorem exists_behindCode_of_behindCode
    (behind : BehindCode row siblings)
    (near : ∀ start, row? = some start -> start = row ∧ ∃ below, siblings = .code row :: below)
    (lined : Lined row? trees)
    (present : (tree, above) ∈ withSiblings siblings trees)
    (begins : tree.first? = some head) :
    ∃ front back rest, trees = front ++ tree :: back ∧ above = stacked head.comments ++ rest ∧
      BehindCode (Token.rowBehind row (Tree.tokensOfAll front)) rest := by
  induction lined generalizing row siblings with
  | nil => cases present
  | @node row? kind children rest last ends _ inductionHypothesis =>
      rw [withSiblings_node ends, List.mem_cons] at present
      rcases present with same | further
      · obtain ⟨rfl, rfl⟩ := Prod.mk.inj same
        exact ⟨[], rest, siblings, rfl, withComments_of_first? begins siblings, behind⟩
      · obtain ⟨front, back, others, rfl, same, behindFront⟩ := inductionHypothesis
          (behindCode_code _ _) (by rintro start ⟨⟩; exact ⟨rfl, _, rfl⟩) further
        refine ⟨_ :: front, back, others, rfl, same, ?_⟩
        rwa [Tree.tokensOfAll, Token.rowBehind_append, Token.rowBehind_of_getLast? ends]
  | @leaf start token rest joins flat _ inductionHypothesis =>
      obtain ⟨rfl, below, rfl⟩ := near start rfl
      have begins' : (Tree.leaf token).first? = some token := rfl
      rw [withSiblings, withComments_of_first? begins'] at present
      have onLine : BehindCode token.endRow (stacked token.comments ++ .code start :: below) :=
        ⟨token.comments, start, below, rfl, flat ▸ joins⟩
      obtain ⟨front, back, others, rfl, same, behindFront⟩ :=
        inductionHypothesis onLine (by rintro _ ⟨⟩) present
      refine ⟨_ :: front, back, others, rfl, same, ?_⟩
      rwa [Tree.tokensOfAll, Token.rowBehind_append, Tree.tokens, Token.rowBehind_cons]

/-- There is code in front of the comments of each node but the first one, on the last row of the
trees in front. -/
theorem exists_behindCode
    (lined : Lined none trees)
    (row : Nat)
    (present : (tree, above) ∈ withSiblings siblings trees)
    (begins : tree.first? = some head) :
    (∃ back, trees = tree :: back ∧ above = stacked head.comments ++ siblings) ∨
      ∃ front back rest, trees = front ++ tree :: back ∧ above = stacked head.comments ++ rest ∧
        BehindCode (Token.rowBehind row (Tree.tokensOfAll front)) rest := by
  cases lined with
  | nil => cases present
  | @node _ kind children rest last ends further =>
      rw [withSiblings_node ends, List.mem_cons] at present
      rcases present with same | presentRest
      · obtain ⟨rfl, rfl⟩ := Prod.mk.inj same
        exact .inl ⟨rest, rfl, withComments_of_first? begins siblings⟩
      · obtain ⟨front, back, others, rfl, same, behind⟩ := exists_behindCode_of_behindCode
          (behindCode_code _ _) (by rintro start ⟨⟩; exact ⟨rfl, _, rfl⟩) further presentRest begins
        refine .inr ⟨_ :: front, back, others, rfl, same, ?_⟩
        rwa [Tree.tokensOfAll, Token.rowBehind_append, Token.rowBehind_of_getLast? ends]

end Doc
end Go
end ConfigWiring
