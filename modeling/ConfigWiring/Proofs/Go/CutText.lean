import ConfigWiring.Proofs.Go.Lookahead
import ConfigWiring.Proofs.Go.ReadTrees
import Mathlib.Data.List.Chain

/-!
# Cutting a text in front of another one

The lexer reads over a text and comes to the one behind it.  If it stands between two tokens there,
it comes to the same place with the same tokens whatever is behind the text.
-/

namespace ConfigWiring
namespace Go

open Text

/-- A slash stands directly in front of a star, so it begins a comment that nothing closes. -/
def Token.LeavesOpen (one next : Token) : Prop :=
  one.text = ['/'] ∧ next.text.head? = some '*' ∧ next.offset = one.stop

namespace Lexer

/-- What the lexer has read, and where it stands. -/
structure Scan where
  /-- The tokens that have been read. -/
  tokens : List Token
  /-- How many characters behind belong to what has been read already. -/
  covered : Nat
  place : Place

/-- Put a token in front of those that have been read. -/
def Scan.cons (token : Token) (scan : Scan) : Scan := { scan with tokens := token :: scan.tokens }

/-- Read over a text in front of another one. -/
def scan (behind : List Char) : Nat -> Place -> List Char -> Scan
  | covered, place, [] => ⟨[], covered, place⟩
  | covered + 1, place, char :: rest => scan behind covered (place.advance char) rest
  | 0, place, char :: rest =>
      if isBlank char then scan behind 0 (place.pass char) rest
      else
        match commentLength? (char :: (rest ++ behind)) with
        | some length =>
            scan behind (length - 1)
              ((place.note ((char :: (rest ++ behind)).take length)).advance char) rest
        | none =>
            if char = '\x00' then
              (scan behind 0 (place.fresh.advance char) rest).cons (place.token .mark [char])
            else
              let (kind, further) := lexeme char (rest ++ behind)
              (scan behind further (place.fresh.advance char) rest).cons
                (place.token kind (char :: (rest ++ behind).take further))

variable {behind behind' : List Char} {covered : Nat} {place : Place} {text : List Char}

/-- To cut two texts is to read over the first one and to go on with the second one. -/
theorem run_append (behind : List Char) (covered : Nat) (place : Place) (text : List Char) :
    run covered place (text ++ behind) =
      (scan behind covered place text).tokens ++
        run (scan behind covered place text).covered (scan behind covered place text).place
          behind := by
  fun_induction scan behind covered place text with
  | case1 => rfl
  | case2 covered place char rest inductionHypothesis =>
      rw [← inductionHypothesis, List.cons_append, run]
  | case3 place char rest blank inductionHypothesis =>
      rw [← inductionHypothesis, List.cons_append, run, if_pos blank]
  | case4 place char rest noBlank length comment inductionHypothesis =>
      rw [← inductionHypothesis, List.cons_append, run, if_neg noBlank, comment]
  | case5 place rest noBlank noComment inductionHypothesis =>
      rw [Scan.cons, List.cons_append, List.cons_append, ← inductionHypothesis, run, if_neg noBlank,
        noComment]
      rfl
  | case6 place char rest noBlank noComment noEnd kind further cut inductionHypothesis =>
      rw [Scan.cons, List.cons_append, List.cons_append, ← inductionHypothesis, run, if_neg noBlank,
        noComment]
      simp [noEnd, cut]

/-- What is covered already is passed over. -/
theorem scan_of_length_le
    (behind : List Char)
    (place : Place)
    (covers : text.length ≤ covered) :
    scan behind covered place text = ⟨[], covered - text.length, place.over text⟩ := by
  induction text generalizing covered place with
  | nil => simp [scan, Place.over]
  | cons char rest inductionHypothesis =>
      obtain ⟨less, rfl⟩ : ∃ less, covered = less + 1 := ⟨covered - 1, by simp at covers; omega⟩
      rw [List.length_cons, Nat.add_le_add_iff_right] at covers
      rw [scan, inductionHypothesis _ covers, List.length_cons, Nat.add_sub_add_right]
      rfl

theorem offset_scan (behind : List Char) (covered : Nat) (place : Place) (text : List Char) :
    (scan behind covered place text).place.offset = place.offset + text.length := by
  fun_induction scan behind covered place text with
  | case1 => rfl
  | case2 | case3 | case4 | case5 | case6 =>
      rename_i inductionHypothesis
      simp only [Scan.cons, inductionHypothesis, List.length_cons]
      simp only [Place.advance, Place.pass, Place.note, Place.fresh]
      omega

theorem row_advance (place : Place) (char : Char) :
    (place.advance char).row = place.row + breaks [char] :=
  Place.row_over place [char]

theorem breaks_cons (char : Char) (rest : List Char) :
    breaks (char :: rest) = breaks [char] + breaks rest := by
  rw [breaks, breaks, breaks, ← List.count_append, List.singleton_append]

theorem row_scan (behind : List Char) (covered : Nat) (place : Place) (text : List Char) :
    (scan behind covered place text).place.row = place.row + breaks text := by
  fun_induction scan behind covered place text with
  | case1 => rfl
  | case2 covered place char rest inductionHypothesis =>
      rw [inductionHypothesis, row_advance, breaks_cons char rest, Nat.add_assoc]
  | case3 place char rest _ inductionHypothesis | case4 place char rest _ _ _ inductionHypothesis
  | case5 place rest _ _ inductionHypothesis
  | case6 place char rest _ _ _ _ _ _ inductionHypothesis =>
      simp only [Scan.cons, inductionHypothesis, breaks_cons _ rest, ← Nat.add_assoc,
        Nat.add_right_cancel_iff]
      exact row_advance place _

/-- The comments at the place behind a text begin on its lines. -/
theorem startRow_le_of_mem_scan
    {comment : Comment}
    (noted : ∀ comment ∈ place.comments, comment.startRow ≤ place.row)
    (present : comment ∈ (scan behind covered place text).place.comments) :
    comment.startRow ≤ (scan behind covered place text).place.row := by
  have advanced (place : Place) (char : Char) : place.row ≤ (place.advance char).row := by
    rw [row_advance]
    exact Nat.le_add_right _ _
  fun_induction scan behind covered place text with
  | case1 => exact noted comment present
  | case2 covered place char rest inductionHypothesis =>
      exact inductionHypothesis
        (fun one member => Nat.le_trans (noted one member) (advanced place char)) present
  | case3 place char rest _ inductionHypothesis =>
      exact inductionHypothesis
        (fun one member => Nat.le_trans (noted one member) (advanced place char)) present
  | case4 place char rest _ length _ inductionHypothesis =>
      refine inductionHypothesis (fun one member => Nat.le_trans ?_ (advanced place char)) present
      rcases List.mem_cons.1 member with rfl | member
      · exact Nat.le_refl _
      · exact noted one member
  | case5 place rest _ _ inductionHypothesis =>
      exact inductionHypothesis (List.forall_mem_nil _) present
  | case6 place char rest _ _ _ _ _ _ inductionHypothesis =>
      exact inductionHypothesis (List.forall_mem_nil _) present

theorem offset_lt_of_mem_scan
    {token : Token}
    (present : token ∈ (scan behind covered place text).tokens) :
    token.offset < place.offset + text.length := by
  fun_induction scan behind covered place text with
  | case1 => cases present
  | case2 covered place char rest inductionHypothesis =>
      have told := inductionHypothesis present
      simp only [Place.advance, List.length_cons] at told ⊢
      omega
  | case3 place char rest _ inductionHypothesis =>
      have told := inductionHypothesis present
      simp only [Place.pass, Place.advance, List.length_cons] at told ⊢
      omega
  | case4 place char rest _ length _ inductionHypothesis =>
      have told := inductionHypothesis present
      simp only [Place.note, Place.advance, List.length_cons] at told ⊢
      omega
  | case5 place rest _ _ inductionHypothesis | case6 place _ rest _ _ _ _ _ _ inductionHypothesis =>
      rcases List.mem_cons.1 present with rfl | further
      · simp [Place.token]
      · have told := inductionHypothesis further
        simp only [Place.fresh, Place.advance, List.length_cons] at told ⊢
        omega

theorem Scan.getLast?_cons
    {token last : Token}
    {scan : Scan}
    (ends : scan.tokens.getLast? = some last) :
    (scan.cons token).tokens.getLast? = some last := by
  rw [cons, List.getLast?_cons, ends]
  rfl

/-- Where the lexer stands inside something that it has read, this is the last token or a comment in
front of the next one. -/
theorem last_of_scan
    (more : behind ≠ [])
    (inside : 0 < (scan behind covered place text).covered)
    (fresh : (scan behind covered place text).place.comments = []) :
    ((scan behind covered place text).tokens = [] ∧ text.length < covered) ∨
      ∃ last, (scan behind covered place text).tokens.getLast? = some last ∧
        place.offset + text.length < last.stop := by
  have offset (place : Place) (char : Char) (rest : List Char) :
      (place.advance char).offset + rest.length = place.offset + (char :: rest).length := by
    rw [List.length_cons, Place.advance]
    dsimp only
    omega
  fun_induction scan behind covered place text with
  | case1 covered place => exact .inl ⟨rfl, inside⟩
  | case2 covered place char rest inductionHypothesis =>
      rw [← offset place char rest, List.length_cons]
      exact (inductionHypothesis inside fresh).imp_left fun left => ⟨left.1, by omega⟩
  | case3 place char rest _ inductionHypothesis =>
      rcases inductionHypothesis inside fresh with ⟨_, impossible⟩ | last
      · exact absurd impossible (Nat.not_lt_zero _)
      · rw [← offset place char rest]
        exact .inr last
  | case4 place char rest _ length _ inductionHypothesis =>
      rcases inductionHypothesis inside fresh with ⟨_, covers⟩ | last
      · rw [scan_of_length_le behind _ (Nat.le_of_lt covers), Place.comments_over] at fresh
        cases fresh
      · rw [← offset place char rest]
        exact .inr last
  | case5 place rest _ _ inductionHypothesis =>
      rcases inductionHypothesis inside fresh with ⟨_, impossible⟩ | ⟨last, ends, behindLast⟩
      · exact absurd impossible (Nat.not_lt_zero _)
      · rw [← offset place _ rest]
        exact .inr ⟨last, Scan.getLast?_cons ends, behindLast⟩
  | case6 place char rest _ _ _ kind further _ inductionHypothesis =>
      rcases inductionHypothesis inside fresh with ⟨none, covers⟩ | ⟨last, ends, behindLast⟩
      · refine .inr ⟨place.token kind (char :: (rest ++ behind).take further),
          by rw [Scan.cons, none]; rfl, ?_⟩
        have someBehind := List.length_pos_iff.2 more
        simp only [Place.token, Token.stop, List.length_cons, List.length_take, List.length_append]
        omega
      · rw [← offset place char rest]
        exact .inr ⟨last, Scan.getLast?_cons ends, behindLast⟩

/-! ## Texts behind -/

/-- Two texts are alike behind some text from which tokens are cut: the lexer finds separators at
the start of both, and no comment in the second one that begins or ends where none does in the
first one. -/
structure Agrees (behind behind' text : List Char) (tokens : List Token) : Prop where
  stops : Stops behind
  stops' : Stops behind'
  /-- No slash in front makes a comment of a slash behind. -/
  apart : ['/'] <:+ text -> behind'.head? ≠ some '/'
  /-- No comment is left open in front, or it stays so. -/
  stays : (tokens.IsChain fun one next => ¬one.LeavesOpen next) ∨
    ∀ more, '/' :: '*' :: more <:+ text -> blockLength? (more ++ behind) = none ->
      blockLength? (more ++ behind') = none

theorem Agrees.tail
    {char : Char}
    {tokens : List Token}
    (agrees : Agrees behind behind' (char :: text) tokens) :
    Agrees behind behind' text tokens where
  stops := agrees.stops
  stops' := agrees.stops'
  apart ends := agrees.apart (List.suffix_cons_iff.2 (.inr ends))
  stays := agrees.stays.imp_right fun stays more ends =>
    stays more (List.suffix_cons_iff.2 (.inr ends))

theorem Agrees.tail_cons
    {char : Char}
    {token : Token}
    {tokens : List Token}
    (agrees : Agrees behind behind' (char :: text) (token :: tokens)) :
    Agrees behind behind' text tokens :=
  { agrees.tail with stays := agrees.tail.stays.imp_left List.IsChain.of_cons }

/-- Behind a slash that begins no comment, a star begins the next token. -/
theorem not_isChain_of_star
    {kind : TokenKind}
    {further : Nat}
    {more : List Char}
    (cut : lexeme '/' ('*' :: more ++ behind) = (kind, further)) :
    ¬List.IsChain (fun one next : Token => ¬one.LeavesOpen next)
      (place.token kind ('/' :: ('*' :: more ++ behind).take further) ::
        (scan behind further (place.fresh.advance '/') ('*' :: more)).tokens) := by
  obtain ⟨rfl, rfl⟩ : .mark = kind ∧ 0 = further := by
    have noWord : isIdentifierStart '/' = false := by decide
    have noNumber : Number.length ('/' :: '*' :: (more ++ behind)) = 0 :=
      Number.length_eq_zero (by decide) (fun same => absurd same (by decide))
    have noQuote : '/' ≠ Char.ofNat 96 := by decide
    have length : "/".length - 1 = 0 := rfl
    simpa [lexeme, noWord, noNumber, noQuote, marks, length] using cut
  have noBlank : ¬isBlank '*' = true := by decide
  have noComment : commentLength? ('*' :: (more ++ behind)) = none :=
    commentLength?_eq_none (by decide)
  rw [scan, if_neg noBlank, noComment]
  dsimp only
  rw [if_neg (by decide)]
  simp [Scan.cons, Token.LeavesOpen, Token.stop, Place.token, Place.fresh, Place.advance]

/-- Where the lexer stands between two tokens behind some text, it comes there with the same tokens
in front of every text that is alike. -/
theorem scan_congr
    (agrees : Agrees behind behind' text (scan behind covered place text).tokens)
    (known : ∀ token ∈ (scan behind covered place text).tokens, token.kind ≠ .stray)
    (between : (scan behind covered place text).covered = 0)
    (fresh : (scan behind covered place text).place.comments = []) :
    scan behind' covered place text = scan behind covered place text := by
  fun_induction scan behind covered place text with
  | case1 => rfl
  | case2 covered place char rest inductionHypothesis =>
      rw [scan, inductionHypothesis agrees.tail known between fresh]
  | case3 place char rest blank inductionHypothesis =>
      rw [scan, if_pos blank, inductionHypothesis agrees.tail known between fresh]
  | case4 place char rest noBlank length comment inductionHypothesis =>
      have inside : length ≤ rest.length := by
        refine Nat.le_of_not_lt fun covers => ?_
        rw [scan_of_length_le behind _ (by omega), Place.comments_over] at fresh
        cases fresh
      have sameText : (char :: (rest ++ behind')).take length =
          (char :: (rest ++ behind)).take length := by
        rw [← List.cons_append, ← List.cons_append, List.take_append_of_le_length (by simp; omega),
          List.take_append_of_le_length (by simp; omega)]
      rw [scan, if_neg noBlank, commentLength?_congr comment inside behind']
      dsimp only
      rw [sameText, inductionHypothesis agrees.tail known between fresh]
  | case5 place rest noBlank noComment inductionHypothesis =>
      have noComment' : commentLength? ('\x00' :: (rest ++ behind')) = none :=
        commentLength?_eq_none (by decide)
      rw [Scan.cons] at known
      rw [scan, if_neg noBlank, noComment']
      dsimp only
      rw [if_pos rfl, inductionHypothesis agrees.tail_cons
        (fun token member => known token (List.mem_cons_of_mem _ member)) between fresh]
  | case6 place char rest noBlank noComment noEnd kind further cut inductionHypothesis =>
      rw [Scan.cons] at known
      have inside : further ≤ rest.length := by
        refine Nat.le_of_not_lt fun covers => ?_
        rw [Scan.cons, scan_of_length_le behind _ (Nat.le_of_lt covers)] at between
        dsimp only at between
        omega
      have noComment' : commentLength? (char :: (rest ++ behind')) = none :=
        commentLength?_eq_none_congr noComment
          (by rintro rfl rfl; exact agrees.apart (List.suffix_refl _)) agrees.stops'
          (fun more slash star => by
            subst slash star
            exact (agrees.stays.resolve_left (not_isChain_of_star cut)) more (List.suffix_refl _))
      have sameCut : lexeme char (rest ++ behind') = (kind, further) :=
        lexeme_congr cut (known _ List.mem_cons_self) inside agrees.stops agrees.stops'
      have sameText : (rest ++ behind').take further = (rest ++ behind).take further := by
        rw [List.take_append_of_le_length inside, List.take_append_of_le_length inside]
      rw [scan, if_neg noBlank, noComment']
      dsimp only
      rw [if_neg noEnd, sameCut]
      dsimp only
      rw [sameText, inductionHypothesis agrees.tail_cons
        (fun token member => known token (List.mem_cons_of_mem _ member)) between fresh]

end Lexer

/-! ## Tokens in order -/

namespace Token

/-- A token that is not empty ends in front of another one. -/
def Before (one next : Token) : Prop := one.offset < one.stop ∧ one.stop ≤ next.offset

/-- A token some characters further. -/
def shift (width : Nat) (token : Token) : Token := { token with offset := token.offset + width }

/-- A token with one more comment in front of it. -/
def note (comment : Comment) (token : Token) : Token :=
  { token with comments := comment :: token.comments }

end Token

namespace Lexer

/-- Tokens are cut one behind the other, behind what is covered already. -/
theorem pairwise_run (covered : Nat) (place : Place) (text : List Char) :
    (run covered place text).Pairwise Token.Before ∧
      ∀ token ∈ run covered place text, place.offset + min covered text.length ≤ token.offset := by
  -- A token in front of those that are cut behind it.
  have cons {place : Place} {char : Char} {rest : List Char} {further : Nat} {kind : TokenKind}
      {text : List Char} (length : text.length = 1 + min further rest.length)
      (order : (run further (place.fresh.advance char) rest).Pairwise Token.Before)
      (behind : ∀ token ∈ run further (place.fresh.advance char) rest,
        (place.fresh.advance char).offset + min further rest.length ≤ token.offset) :
      (place.token kind text :: run further (place.fresh.advance char) rest).Pairwise Token.Before ∧
        ∀ token ∈ place.token kind text :: run further (place.fresh.advance char) rest,
          place.offset ≤ token.offset := by
    refine ⟨List.pairwise_cons.2 ⟨fun token member => ?_, order⟩, fun token member => ?_⟩
    · have told := behind token member
      simp only [Token.Before, Token.stop, Place.token, Place.advance, Place.fresh] at told ⊢
      omega
    · rcases List.mem_cons.1 member with rfl | member
      · exact Nat.le_refl _
      · have told := behind token member
        simp only [Place.advance, Place.fresh] at told
        omega
  fun_induction run covered place text with
  | case1 covered place => simp [Place.token]
  | case2 covered place char rest inductionHypothesis =>
      refine ⟨inductionHypothesis.1, fun token member => ?_⟩
      have told := inductionHypothesis.2 token member
      simp only [Place.advance, List.length_cons] at told ⊢
      omega
  | case3 place char rest _ inductionHypothesis =>
      refine ⟨inductionHypothesis.1, fun token member => ?_⟩
      have told := inductionHypothesis.2 token member
      simp only [Place.pass, Place.advance] at told ⊢
      omega
  | case4 place char rest _ length _ inductionHypothesis =>
      refine ⟨inductionHypothesis.1, fun token member => ?_⟩
      have told := inductionHypothesis.2 token member
      simp only [Place.note, Place.advance] at told ⊢
      omega
  | case5 place rest _ _ inductionHypothesis =>
      simpa only [Nat.zero_min, Nat.add_zero] using
        cons (by simp) inductionHypothesis.1 inductionHypothesis.2
  | case6 place char rest _ _ _ kind further _ inductionHypothesis =>
      simpa only [Nat.zero_min, Nat.add_zero] using
        cons (by simp [Nat.add_comm]) inductionHypothesis.1 inductionHypothesis.2

/-! ## Moved places -/

/-- A place some characters further. -/
def Place.shift (width : Nat) (place : Place) : Place :=
  { place with offset := place.offset + width }

theorem run_shift (width covered : Nat) (place : Place) (text : List Char) :
    run covered (place.shift width) text = (run covered place text).map (Token.shift width) := by
  have offset (place : Place) (char : Char) :
      (place.shift width).advance char = (place.advance char).shift width := by
    simp only [Place.advance, Place.shift, Nat.add_right_comm]
  fun_induction run covered place text with
  | case1 covered place => rfl
  | case2 covered place char rest inductionHypothesis =>
      rw [run, offset, inductionHypothesis]
  | case3 place char rest blank inductionHypothesis =>
      have passed : (place.shift width).pass char = (place.pass char).shift width := by
        rw [Place.pass, Place.pass, offset]
        rfl
      rw [run, if_pos blank, passed, inductionHypothesis]
  | case4 place char rest noBlank length comment inductionHypothesis =>
      have noted := offset (place.note ((char :: rest).take length)) char
      rw [run, if_neg noBlank, comment]
      dsimp only
      rw [← inductionHypothesis, ← noted]
      rfl
  | case5 place rest noBlank noComment inductionHypothesis =>
      have fresh := offset place.fresh '\x00'
      rw [run, if_neg noBlank, noComment]
      dsimp only
      rw [if_pos rfl, List.map_cons, ← inductionHypothesis, ← fresh]
      rfl
  | case6 place char rest noBlank noComment noEnd kind further cut inductionHypothesis =>
      have fresh := offset place.fresh char
      rw [run, if_neg noBlank, noComment]
      dsimp only
      rw [if_neg noEnd, cut]
      dsimp only
      rw [List.map_cons, ← inductionHypothesis, ← fresh]
      rfl

/-- The comments at a place stand in front of the first token that is cut there, and one more
comment at the place is one more in front of that token. -/
theorem run_note (comment : Comment) (covered : Nat) (place : Place) (text : List Char) :
    ∃ head rest, run covered place text = head :: rest ∧
      place.comments.reverse <+: head.comments ∧
        run covered { place with comments := place.comments ++ [comment] } text =
          head.note comment :: rest := by
  have token (place : Place) (kind : TokenKind) (text : List Char) :
      { place with comments := place.comments ++ [comment] }.token kind text =
        (place.token kind text).note comment := by
    simp [Place.token, Token.note]
  fun_induction run covered place text with
  | case1 covered place =>
      exact ⟨_, _, rfl, List.prefix_refl _, by rw [run, token]⟩
  | case2 covered place char rest inductionHypothesis =>
      exact inductionHypothesis
  | case3 place char rest blank inductionHypothesis =>
      obtain ⟨head, further, cut, inside, noted⟩ := inductionHypothesis
      exact ⟨head, further, cut, inside, by rw [run, if_pos blank]; exact noted⟩
  | case4 place char rest noBlank length isComment inductionHypothesis =>
      obtain ⟨head, further, cut, inside, noted⟩ := inductionHypothesis
      refine ⟨head, further, cut, (List.prefix_append _ _).trans (List.reverse_cons ▸ inside), ?_⟩
      rw [run, if_neg noBlank, isComment]
      exact noted
  | case5 place rest noBlank noComment _ =>
      refine ⟨_, _, rfl, List.prefix_refl _, ?_⟩
      rw [run, if_neg noBlank, noComment, ← token]
      rfl
  | case6 place char rest noBlank noComment noEnd kind further cut _ =>
      refine ⟨_, _, rfl, List.prefix_refl _, ?_⟩
      rw [run, if_neg noBlank, noComment, ← token]
      dsimp only
      rw [if_neg noEnd, cut]
      rfl

end Lexer
end Go
end ConfigWiring
