import ConfigWiring.Proofs.Go.CutText
import ConfigWiring.Proofs.Go.MovedTrees

/-!
# A remark behind a line

A comment that is added to the end of a line of code moves the tokens below by its length and stands
in front of the next one.  Nothing else changes.
-/

namespace ConfigWiring
namespace Go

open Lexer Text

/-- A comment that is added to the end of a line of a text. -/
structure Remark where
  /-- The text up to the end of the line. -/
  line : List Char
  /-- The blanks in front of the comment. -/
  space : List Char
  /-- What the comment says. -/
  words : List Char
  /-- The text behind the end of the line. -/
  below : List Char
  blank : ∀ char ∈ space, isBlank char = true ∧ char ≠ '\n'
  oneLine : '\n' ∉ words

namespace Remark

variable (remark : Remark)

/-- The comment with its marks. -/
def spelling : List Char := '/' :: '/' :: remark.words

/-- What is added. -/
def added : List Char := remark.space ++ remark.spelling

/-- The text without the remark. -/
def before : List Char := remark.line ++ '\n' :: remark.below

/-- The text with the remark. -/
def after : List Char := remark.line ++ (remark.added ++ '\n' :: remark.below)

/-- The comment in its place. -/
def comment : Comment := ⟨remark.spelling, breaks remark.line, breaks remark.line⟩

/-- A token where it stands once the remark has been added; the token at the given offset is the
first one behind the remark. -/
def move (next : Nat) (token : Token) : Token :=
  if token.offset < next then token
  else if token.offset = next then (token.shift remark.added.length).note remark.comment
  else token.shift remark.added.length

/-- What is added is read as a comment: no slash stands directly in front of it, and it does not
close a comment that has been left open. -/
structure IsRead : Prop where
  apart : remark.line.getLast? = some '/' -> remark.space ≠ []
  stays : ((tokenize remark.before).IsChain fun one next => ¬one.LeavesOpen next) ∨
    blockLength? (remark.line.getLast?.toList ++ remark.added) = none

variable {remark}

theorem stops_added : Stops (remark.added ++ '\n' :: remark.below) := by
  intro char begins
  cases spaces : remark.space with
  | nil =>
      rw [added, spaces] at begins
      cases begins
      decide
  | cons first more =>
      rw [added, spaces] at begins
      cases begins
      have blank := (remark.blank char (by rw [spaces]; exact List.mem_cons_self)).1
      rw [isSeparator, blank, Bool.or_true]

/-- The end of a line and what is added to it are alike behind the last part of the line. -/
theorem IsRead.agrees
    {lead rest : List Char}
    {tokens : List Token}
    (isRead : remark.IsRead)
    (line : remark.line = lead ++ rest)
    (begins : tokens <+: tokenize remark.before) :
    Agrees ('\n' :: remark.below) (remark.added ++ '\n' :: remark.below) rest tokens where
  stops := by
    rintro _ ⟨⟩
    decide
  stops' := stops_added
  apart ends := by
    obtain ⟨more, rfl⟩ := ends
    have spaces := isRead.apart (by simp [line])
    obtain ⟨first, others, spaces⟩ := List.exists_cons_of_ne_nil spaces
    have blank := (remark.blank first (by rw [spaces]; exact List.mem_cons_self)).1
    rw [added, spaces]
    rintro ⟨⟩
    revert blank
    decide
  stays := by
    refine isRead.stays.imp (fun chain => ?_) fun closed more ends unclosed => ?_
    · obtain ⟨others, whole⟩ := begins
      rw [← whole] at chain
      exact chain.left_of_append
    · rw [blockLength?_eq_none_iff] at closed unclosed ⊢
      obtain ⟨before, rfl⟩ := ends
      have lastOf : more.getLast?.toList <:+ remark.line.getLast?.toList := by
        cases more with
        | nil => exact List.nil_suffix
        | cons first others =>
            obtain ⟨last, ends⟩ : ∃ last, (first :: others).getLast? = some last :=
              ⟨_, List.getLast?_cons⟩
            simp [line, ends]
      intro inside
      rcases pair_infix_append inside with inside | inside
      · exact unclosed (inside.trans (List.prefix_append _ _).isInfix)
      · rw [← List.append_assoc] at inside
        rcases pair_infix_append inside with inside | inside
        · obtain ⟨front, whole⟩ := lastOf
          refine closed (inside.trans ?_)
          rw [← whole, List.append_assoc]
          exact (List.suffix_append _ _).isInfix
        · have further : ['*', '/'] <:+: '\n' :: remark.below := by
            cases ends : (more.getLast?.toList ++ remark.added).getLast? with
            | none => rwa [ends] at inside
            | some last =>
                rw [ends, Option.toList_some, List.singleton_append, List.infix_cons_iff] at inside
                refine inside.resolve_left ?_
                rintro ⟨others, same⟩
                cases same
          exact unclosed (further.trans (List.suffix_append _ _).isInfix)

/-! ## Cutting with the remark -/

theorem exists_tokenize_append
    {line : List Char}
    (someText : line ≠ []) :
    ∃ lead place rest, line = lead ++ rest ∧ place.offset = lead.length ∧
      place.row = breaks lead ∧ place.comments = [] ∧
        ∀ behind, tokenize (line ++ behind) = run 0 place (rest ++ behind) := by
  obtain ⟨first, more, rfl⟩ := List.exists_cons_of_ne_nil someText
  by_cases mark : first = orderMark
  · refine ⟨[first], Lexer.Place.start.pass first, more, rfl, rfl, ?_, rfl, fun behind => ?_⟩
    · exact (row_advance Lexer.Place.start first).trans (Nat.zero_add _)
    · rw [List.cons_append, tokenize, if_pos mark]
  · exact ⟨[], Lexer.Place.start, first :: more, rfl, rfl, rfl, rfl, fun behind => by
      rw [List.cons_append, tokenize, if_neg mark]⟩

/-- What is added as lexemes. -/
def lexemes (remark : Remark) : List Lexeme :=
  remark.space.map Lexeme.blank ++ [.remark remark.spelling]

theorem spell_lexemes : Lexeme.spell remark.lexemes = remark.added := by
  have blanks (space : List Char) : Lexeme.spell (space.map Lexeme.blank) = space := by
    induction space with
    | nil => rfl
    | cons first more inductionHypothesis =>
        rw [List.map_cons, Lexeme.spell_cons, inductionHypothesis]
        rfl
  rw [lexemes, Lexeme.spell_append, blanks, added]
  simp [Lexeme.spelling]

theorem areCutOff_lexemes : Lexeme.AreCutOff ('\n' :: remark.below) remark.lexemes := by
  refine Lexeme.areCutOff_append.2 ⟨?_, ⟨rfl, ?_, rfl⟩, trivial⟩
  · have blanks (space behind : List Char) (blank : ∀ char ∈ space, isBlank char = true) :
        Lexeme.AreCutOff behind (space.map Lexeme.blank) := by
      induction space with
      | nil => trivial
      | cons first more inductionHypothesis =>
          rw [List.forall_mem_cons] at blank
          exact ⟨blank.1, inductionHypothesis blank.2⟩
    exact blanks _ _ fun char member => (remark.blank char member).1
  · simp [spelling, remark.oneLine]

theorem tokensFrom_lexemes (place : Lexer.Place) : Lexeme.tokensFrom place remark.lexemes = [] := by
  have blanks (space : List Char) (place : Lexer.Place) :
      Lexeme.tokensFrom place (space.map Lexeme.blank) = [] := by
    induction space generalizing place with
    | nil => rfl
    | cons first more inductionHypothesis => exact inductionHypothesis _
  rw [lexemes, Lexeme.tokensFrom_append, blanks]
  rfl

theorem over_eq (place : Lexer.Place) (text : List Char) :
    place.over text =
      { place with offset := place.offset + text.length, row := place.row + breaks text } := by
  induction text generalizing place with
  | nil => rfl
  | cons char text inductionHypothesis =>
      rw [Lexer.Place.over_cons, inductionHypothesis, row_advance, Nat.add_assoc, ← breaks_cons,
        List.length_cons, Nat.add_comm text.length, ← Nat.add_assoc]
      rfl

theorem passAll_lexemes (place : Lexer.Place) :
    Lexeme.passAll place remark.lexemes =
      { place.shift remark.added.length with
        comments := ⟨remark.spelling, place.row, place.row⟩ :: place.comments } := by
  have blanks (space : List Char) (place : Lexer.Place)
      (blank : ∀ char ∈ space, isBlank char = true ∧ char ≠ '\n') :
      Lexeme.passAll place (space.map Lexeme.blank) = place.shift space.length := by
    induction space generalizing place with
    | nil => rfl
    | cons first more inductionHypothesis =>
        rw [List.forall_mem_cons] at blank
        rw [List.map_cons, Lexeme.passAll_cons, inductionHypothesis _ blank.2, Lexeme.pass]
        simp [Lexer.Place.pass, Lexer.Place.advance, Lexer.Place.shift, blank.1.2]
        omega
  have unbroken : breaks remark.spelling = 0 := by
    simpa [breaks, spelling, List.count_eq_zero] using remark.oneLine
  rw [lexemes, Lexeme.passAll_append, blanks _ _ remark.blank, Lexeme.passAll_cons,
    Lexeme.passAll_nil, Lexeme.pass, over_eq, unbroken]
  simp [Lexer.Place.note, Lexer.Place.shift, added, unbroken, Nat.add_assoc]

/-- Where the lexer stands at the end of the line, it goes on below with the remark noted. -/
theorem run_added
    {place : Lexer.Place}
    {head : Token}
    {back : List Token}
    (cut : run 0 place ('\n' :: remark.below) = head :: back)
    (fresh : place.comments = [])
    (row : place.row = breaks remark.line) :
    run 0 place (remark.added ++ '\n' :: remark.below) =
      (head.shift remark.added.length).note remark.comment ::
        back.map (Token.shift remark.added.length) := by
  have blank : isBlank '\n' = true := by decide
  rw [run_blank blank] at cut
  have moved := run_shift remark.added.length 0 (place.pass '\n') remark.below
  obtain ⟨first, rest, cutFirst, _, noted⟩ :=
    run_note remark.comment 0 ((place.pass '\n').shift remark.added.length) remark.below
  rw [cut, cutFirst] at moved
  obtain ⟨rfl, rfl⟩ := List.cons.inj moved
  rw [← spell_lexemes, Lexeme.run_spell_append areCutOff_lexemes, tokensFrom_lexemes,
    List.nil_append, run_blank blank, passAll_lexemes, spell_lexemes, ← noted]
  congr 1
  simp [Lexer.Place.pass, Lexer.Place.advance, Lexer.Place.shift, comment, fresh, row]
  omega

theorem pairwise_tokenize (text : List Char) : (tokenize text).Pairwise Token.Before := by
  unfold tokenize
  split
  · exact (pairwise_run _ _ _).1
  · split <;> exact (pairwise_run _ _ _).1

/-- Tokens in front stay, the next one gets the remark, and those behind are shifted. -/
theorem map_move
    (remark : Remark)
    {front back : List Token}
    {head : Token}
    (order : (front ++ head :: back).Pairwise Token.Before) :
    (front ++ head :: back).map (remark.move head.offset) =
      front ++ (head.shift remark.added.length).note remark.comment ::
        back.map (Token.shift remark.added.length) := by
  obtain ⟨_, orderBack, between⟩ := List.pairwise_append.1 order
  rw [List.map_append, List.map_cons]
  congr 1
  · rw [List.map_congr_left (g := id), List.map_id]
    intro token member
    have before := between token member head List.mem_cons_self
    exact if_pos (Nat.lt_of_lt_of_le before.1 before.2)
  · congr 1
    · rw [move, if_neg (Nat.lt_irrefl _), if_pos rfl]
    · refine List.map_congr_left fun token member => ?_
      have before := (List.pairwise_cons.1 orderBack).1 token member
      have further := Nat.lt_of_lt_of_le before.1 before.2
      rw [move, if_neg (Nat.lt_asymm further), if_neg (Nat.ne_of_gt further)]

/-- Up to the end of a line behind whose last token no comment stands, the lexer reads the tokens
in front and comes to a place between two tokens. -/
theorem scan_line
    {place : Lexer.Place}
    {rest : List Char}
    {front back : List Token}
    {last head : Token}
    (tokens : run 0 place (rest ++ '\n' :: remark.below) = front ++ last :: head :: back)
    (offset : place.offset + rest.length = remark.line.length)
    (row : place.row + breaks rest = breaks remark.line)
    (fresh : place.comments = [])
    (ends : last.stop ≤ remark.line.length)
    (begins : remark.line.length < head.offset)
    (below : ∀ comment ∈ head.comments, breaks remark.line < comment.startRow) :
    (scan ('\n' :: remark.below) 0 place rest).tokens = front ++ [last] ∧
      (scan ('\n' :: remark.below) 0 place rest).covered = 0 ∧
      (scan ('\n' :: remark.below) 0 place rest).place.comments = [] ∧
      (scan ('\n' :: remark.below) 0 place rest).place.row = breaks remark.line ∧
      run 0 (scan ('\n' :: remark.below) 0 place rest).place ('\n' :: remark.below) =
        head :: back := by
  have order := (pairwise_run 0 place (rest ++ '\n' :: remark.below)).1
  have scanned := run_append ('\n' :: remark.below) 0 place rest
  have rowScan := row_scan ('\n' :: remark.below) 0 place rest
  have offsetScan := offset_scan ('\n' :: remark.below) 0 place rest
  have lastOf (covers : 0 < (scan ('\n' :: remark.below) 0 place rest).covered)
      (freshScan : (scan ('\n' :: remark.below) 0 place rest).place.comments = []) :=
    last_of_scan (List.cons_ne_nil _ _) covers freshScan
  have offsets (token : Token)
      (member : token ∈ (scan ('\n' :: remark.below) 0 place rest).tokens) :=
    offset_lt_of_mem_scan member
  have rows (comment : Comment)
      (member : comment ∈ (scan ('\n' :: remark.below) 0 place rest).place.comments) :=
    startRow_le_of_mem_scan (by rw [fresh]; exact List.forall_mem_nil _) member
  generalize scan ('\n' :: remark.below) 0 place rest = scan at *
  rw [tokens] at scanned order
  -- The tokens that begin in front of the end of the line have been read, the others have not.
  have inOrder := List.pairwise_append.1 order
  have lastBefore : last.Before head := (List.pairwise_cons.1 inOrder.2.1).1 head (by simp)
  have sameTokens : (front ++ [last]) ++ head :: back =
      scan.tokens ++ run scan.covered scan.place ('\n' :: remark.below) := by
    rw [← scanned, List.append_assoc, List.singleton_append]
  obtain ⟨sameFront, sameBack⟩ := append_inj_of_forall
    (fun token => token.offset < remark.line.length) sameTokens
    (fun token member => by
      rcases List.mem_append.1 member with member | member
      · have before : token.Before last := inOrder.2.2 token member last List.mem_cons_self
        exact Nat.lt_of_lt_of_le before.1 (Nat.le_trans before.2
          (Nat.le_trans (Nat.le_of_lt lastBefore.1) ends))
      · rw [List.mem_singleton.1 member]
        exact Nat.lt_of_lt_of_le lastBefore.1 ends)
    (fun token member => by
      rw [Nat.not_lt]
      rcases List.mem_cons.1 member with rfl | member
      · exact Nat.le_of_lt begins
      · have orderBack := (List.pairwise_cons.1 inOrder.2.1).2
        have headBefore := (List.pairwise_cons.1 orderBack).1 token member
        exact Nat.le_trans (Nat.le_of_lt (Nat.lt_trans begins headBefore.1)) headBefore.2)
    (fun token member => offset ▸ offsets token member)
    (fun token member => by
      have told := (pairwise_run _ _ _).2 token member
      omega)
  obtain ⟨first, others, cut, inside, _⟩ :=
    run_note remark.comment scan.covered scan.place ('\n' :: remark.below)
  obtain ⟨rfl, rfl⟩ := List.cons.inj (sameBack.trans cut)
  have freshScan : scan.place.comments = [] := by
    refine List.eq_nil_iff_forall_not_mem.2 fun comment member => ?_
    have low := rows comment member
    have high := below comment (inside.subset (List.mem_reverse.2 member))
    omega
  have between : scan.covered = 0 := by
    refine Nat.eq_zero_of_not_pos fun covers => ?_
    rcases lastOf covers freshScan with ⟨none, _⟩ | ⟨other, lastOther, behindOther⟩
    · simp [none] at sameFront
    · rw [← sameFront, List.getLast?_concat] at lastOther
      cases lastOther
      omega
  exact ⟨sameFront.symm, between, freshScan, rowScan.trans row, between ▸ sameBack.symm⟩

/-- Where a remark is added behind the last token of a line, the tokens are moved. -/
theorem tokenize_after
    {front back : List Token}
    {last head : Token}
    (isRead : remark.IsRead)
    (known : ∀ token ∈ tokenize remark.before, token.kind ≠ .stray)
    (tokens : tokenize remark.before = front ++ last :: head :: back)
    (ends : last.stop ≤ remark.line.length)
    (begins : remark.line.length < head.offset)
    (below : ∀ comment ∈ head.comments, breaks remark.line < comment.startRow) :
    tokenize remark.after = (tokenize remark.before).map (remark.move head.offset) := by
  have order := tokens ▸ pairwise_tokenize remark.before
  have inOrder := List.pairwise_append.1 order
  have lastBefore : last.Before head := (List.pairwise_cons.1 inOrder.2.1).1 head (by simp)
  have someText : remark.line ≠ [] := by
    intro empty
    rw [empty] at ends
    exact absurd (Nat.lt_of_lt_of_le lastBefore.1 ends) (Nat.not_lt_zero _)
  obtain ⟨lead, place, rest, line, offset, row, fresh, cut⟩ := exists_tokenize_append someText
  have cutBefore : tokenize remark.before = run 0 place (rest ++ '\n' :: remark.below) := cut _
  obtain ⟨readTokens, between, freshScan, rowScan, cutBelow⟩ := scan_line
    (cutBefore.symm.trans tokens) (by rw [line, offset, List.length_append])
    (by rw [line, row, breaks, breaks, breaks, List.count_append]) fresh ends begins below
  have inFront : (scan ('\n' :: remark.below) 0 place rest).tokens <+: tokenize remark.before := by
    rw [readTokens, tokens]
    exact ⟨head :: back, by simp⟩
  have agrees := isRead.agrees line inFront
  have same := scan_congr agrees (fun token member => known token (by
    rw [cutBefore, run_append]
    exact List.mem_append_left _ member)) between freshScan
  have orderCut : ((front ++ [last]) ++ head :: back).Pairwise Token.Before := by simpa using order
  have moved := remark.map_move orderCut
  rw [List.append_assoc, List.singleton_append] at moved
  rw [after, cut, run_append, same, readTokens, between, run_added cutBelow freshScan rowScan,
    tokens, moved]

end Remark

/-!
## Declarations below a remark

A remark behind a line moves the trees below.  In the text with the remark they are spelled as
before, and above each tree but the one directly behind the remark the same siblings stand up to the
nearest code.
-/

open Comment Lexer

namespace Remark

variable {remark : Remark} {next : Nat}

theorem unseen_move : Unseen (remark.move next) := by
  have seen {property : Type} (look : Token -> property)
      (shifted : ∀ token, look (token.shift remark.added.length) = look token)
      (noted : ∀ token, look (token.note remark.comment) = look token) (token : Token) :
      look (remark.move next token) = look token := by
    unfold move
    split
    · rfl
    · split
      · rw [noted, shifted]
      · exact shifted token
  exact {
    kind := seen _ (fun _ => rfl) fun _ => rfl
    text := seen _ (fun _ => rfl) fun _ => rfl
    startRow := seen _ (fun _ => rfl) fun _ => rfl
    endRow := seen _ (fun _ => rfl) fun _ => rfl
    afterBreak := seen _ (fun _ => rfl) fun _ => rfl }

theorem comments_move
    {token : Token}
    (other : token.offset ≠ next) :
    (remark.move next token).comments = token.comments := by
  rw [move, if_neg other]
  split <;> rfl

/-! ## Spelling -/

theorem spelling_of_ends
    {text : List Char}
    {tree : Tree}
    {first last : Token}
    (begins : tree.first? = some first)
    (ends : tree.last? = some last) :
    tree.spelling text = (text.drop first.offset).take (last.stop - first.offset) := by
  rw [Tree.spelling, begins, ends]

/-- Moved trees are spelled alike if this holds of each pair of tokens at their ends. -/
theorem spelledAlike_of_ends
    {move : Token -> Token}
    {text text' : List Char}
    {tokens : List Token}
    (spelled : ∀ first ∈ tokens, ∀ last ∈ tokens,
      (text'.drop (move first).offset).take ((move last).stop - (move first).offset) =
        (text.drop first.offset).take (last.stop - first.offset)) :
    SpelledAlike move text text' tokens := by
  intro tree inside
  cases begins : tree.first? with
  | none => simp [Tree.spelling, begins]
  | some first =>
      cases ends : tree.last? with
      | none => simp [Tree.spelling, ends]
      | some last =>
          have beginsMoved : (tree.map move).first? = some (move first) := by
            rw [Tree.first?_map, begins, Option.map_some]
          have endsMoved : (tree.map move).last? = some (move last) := by
            rw [Tree.last?_map, ends, Option.map_some]
          rw [spelling_of_ends beginsMoved endsMoved, spelling_of_ends begins ends]
          exact spelled first (inside (List.mem_of_head? begins)) last
            (inside (List.mem_of_getLast? ends))

/-- Trees in front of the end of the line are spelled as before. -/
theorem spelledAlike_front
    {tokens : List Token}
    (inFront : ∀ token ∈ tokens, token.offset < next ∧ token.stop ≤ remark.line.length) :
    SpelledAlike (remark.move next) remark.before remark.after tokens := by
  have same (token : Token) (member : token ∈ tokens) : remark.move next token = token :=
    if_pos (inFront token member).1
  refine spelledAlike_of_ends fun first firstMember last lastMember => ?_
  rw [same first firstMember, same last lastMember]
  have inside := (inFront last lastMember).2
  by_cases order : first.offset ≤ last.stop
  · rw [before, after, List.drop_append_of_le_length (Nat.le_trans order inside),
      List.drop_append_of_le_length (Nat.le_trans order inside),
      List.take_append_of_le_length (by rw [List.length_drop]; omega),
      List.take_append_of_le_length (by rw [List.length_drop]; omega)]
  · rw [Nat.sub_eq_zero_of_le (Nat.le_of_not_le order), List.take_zero, List.take_zero]

/-- Trees behind the end of the line are spelled as before. -/
theorem spelledAlike_back
    {tokens : List Token}
    (below : remark.line.length ≤ next)
    (inBack : ∀ token ∈ tokens, next ≤ token.offset) :
    SpelledAlike (remark.move next) remark.before remark.after tokens := by
  have moved (token : Token) (member : token ∈ tokens) :
      (remark.move next token).offset = token.offset + remark.added.length ∧
        (remark.move next token).stop = token.stop + remark.added.length := by
    have stop : token.offset + remark.added.length + token.text.length =
        token.offset + token.text.length + remark.added.length := by omega
    rw [move, if_neg (Nat.not_lt.2 (inBack token member))]
    split <;> exact ⟨rfl, stop⟩
  refine spelledAlike_of_ends fun first firstMember last lastMember => ?_
  rw [(moved first firstMember).1, (moved last lastMember).2, Nat.add_sub_add_right]
  have behind := Nat.le_trans below (inBack first firstMember)
  congr 1
  rw [before, after, List.drop_append, List.drop_append, List.drop_append,
    List.drop_eq_nil_of_le behind, List.drop_eq_nil_of_le (by omega),
    List.drop_eq_nil_of_le (by omega : remark.added.length ≤ _)]
  simp only [List.nil_append]
  congr 1
  omega

/-! ## Moved siblings -/

/-- A tree and the siblings above it are moved: above its own comments, the siblings agree up to the
nearest code. -/
def MovesAbove (remark : Remark) (next : Nat) (one other : Tree × List Sibling) : Prop :=
  other.1 = one.1.map (remark.move next) ∧ ∃ above above', Doc.Alike above above' ∧
    one.2 = Doc.withComments one.1 above ∧ other.2 = Doc.withComments other.1 above'

/-- Only the token directly behind the remark gets a comment. -/
theorem alike_withComments
    {tree : Tree}
    {above above' : List Sibling}
    (other : ∀ token, tree.first? = some token -> token.offset ≠ next)
    (alike : Doc.Alike above above') :
    Doc.Alike (Doc.withComments tree above)
      (Doc.withComments (tree.map (remark.move next)) above') := by
  cases begins : tree.first? with
  | none => simpa [Doc.withComments, begins] using alike
  | some token =>
      have beginsMoved : (tree.map (remark.move next)).first? = some (remark.move next token) := by
        rw [Tree.first?_map, begins, Option.map_some]
      rw [Doc.withComments_of_first? begins, Doc.withComments_of_first? beginsMoved,
        comments_move (other token begins)]
      exact alike.stacked _

theorem forall₂_withSiblings
    (remark : Remark)
    {trees : List Tree}
    {siblings siblings' : List Sibling}
    (leaves : ∀ token, .leaf token ∈ trees -> token.offset ≠ next)
    (alike : Doc.Alike siblings siblings') :
    List.Forall₂ (remark.MovesAbove next) (Doc.withSiblings siblings trees)
      (Doc.withSiblings siblings' (trees.map (Tree.map (remark.move next)))) := by
  induction trees generalizing siblings siblings' with
  | nil => exact .nil
  | cons tree rest inductionHypothesis =>
      have leavesRest (token : Token) (member : .leaf token ∈ rest) : token.offset ≠ next :=
        leaves token (List.mem_cons_of_mem _ member)
      cases tree with
      | leaf token =>
          rw [List.map_cons, Tree.map_leaf, Doc.withSiblings, Doc.withSiblings, ← Tree.map_leaf]
          refine inductionHypothesis leavesRest (alike_withComments ?_ alike)
          rintro _ ⟨⟩
          exact leaves token List.mem_cons_self
      | node kind children =>
          have sameEnd : (((Tree.node kind children).map (remark.move next)).last?.map
              Token.endRow).getD 0 = ((Tree.node kind children).last?.map Token.endRow).getD 0 := by
            rw [Tree.last?_map, Option.map_map]
            exact congrArg (fun look => (Option.map look (Tree.node kind children).last?).getD 0)
              (funext fun token => unseen_move.endRow token)
          rw [List.map_cons]
          rw [Tree.map_node] at sameEnd ⊢
          rw [Doc.withSiblings, Doc.withSiblings, sameEnd]
          exact .cons ⟨(Tree.map_node kind children).symm, siblings, siblings', alike, rfl, rfl⟩
            (inductionHypothesis leavesRest (.code _ _ _))

/-- A type is declared by moved trees. -/
structure Moves (remark : Remark) (next : Nat) (site site' : Site) : Prop where
  spec : site'.spec = site.spec.map (remark.move next)
  documented : site'.documented = site.documented.map (remark.move next)
  above : ∃ above above', Doc.Alike above above' ∧
    site.siblings = Doc.withComments site.documented above ∧
      site'.siblings = Doc.withComments site'.documented above'

theorem forall₂_ofItem
    {one other : Tree × List Sibling}
    (leaves : ∀ declaration, one.1.only? .typeDeclaration = some declaration ->
      ∀ token, .leaf token ∈ declaration.children.drop 1 -> token.offset ≠ next)
    (above : remark.MovesAbove next one other) :
    List.Forall₂ (remark.Moves next) (Site.ofItem one.1 one.2) (Site.ofItem other.1 other.2) := by
  have only : other.1.only? .typeDeclaration =
      (one.1.only? .typeDeclaration).map (Tree.map (remark.move next)) := by
    rw [above.1, Tree.only?_map]
  unfold Site.ofItem
  rw [only]
  cases isOnly : one.1.only? .typeDeclaration with
  | none => exact .nil
  | some declaration =>
      have group : Site.isGroup ((declaration.map (remark.move next)).children.drop 1) =
          Site.isGroup (declaration.children.drop 1) := by
        rw [Tree.children_map, ← List.map_drop, Site.isGroup, List.any_map]
        exact congrArg _ (funext fun tree => by
          rw [Function.comp_apply, Tree.leafText?_map unseen_move])
      have specs := remark.forall₂_withSiblings (leaves declaration isOnly) .nil
      rw [List.map_drop, ← Tree.children_map] at specs
      simp only [Option.map_some, group]
      refine List.rel_map (R := remark.MovesAbove next) ?_ (List.rel_filter ?_ specs)
      · intro one' other' aboveSpec
        split
        · exact ⟨aboveSpec.1, aboveSpec.1, aboveSpec.2⟩
        · exact ⟨aboveSpec.1, above.1, above.2⟩
      · intro one' other' aboveSpec
        have sameKind : isSpec other'.1 = isSpec one'.1 := by
          rw [aboveSpec.1, isSpec, isSpec, Tree.isKind_map, Tree.isKind_map]
        exact Bool.eq_iff_iff.1 sameKind.symm

theorem forall₂_ofItems
    (remark : Remark)
    {items : List Tree}
    (leaves : ∀ token, .leaf token ∈ items -> token.offset ≠ next)
    (leavesInside : ∀ item ∈ items, ∀ declaration,
      item.only? .typeDeclaration = some declaration ->
        ∀ token, .leaf token ∈ declaration.children.drop 1 -> token.offset ≠ next) :
    List.Forall₂ (remark.Moves next) (Site.ofItems items)
      (Site.ofItems (items.map (Tree.map (remark.move next)))) := by
  have aboves := (List.forall₂_and_left _ _).2
    ⟨fun pair present => Doc.mem_of_mem_withSiblings present,
      remark.forall₂_withSiblings leaves .nil⟩
  refine List.rel_flatMap aboves fun one other ⟨present, above⟩ => ?_
  exact forall₂_ofItem (leavesInside one.1 present) above

end Remark

end Go
end ConfigWiring
