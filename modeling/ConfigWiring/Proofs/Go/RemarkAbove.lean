import ConfigWiring.MarkedType.Basic
import ConfigWiring.Proofs.Go.Remark
import Mathlib.Data.List.Nodup

/-!
# A remark above a declaration

A comment that is added to the line of code above the documentation of a type joins its group of
comments, which begins behind code from then on.  So the group belongs to the line of code: the type
loses its documentation and is not marked, and all else in the file is as it was.
-/

namespace ConfigWiring

/-- A type without documentation is not marked. -/
theorem Scanner.mark?_of_doc_eq_empty
    (scanner : Scanner)
    {decl : Go.TypeDecl}
    (empty : decl.doc = "") :
    scanner.mark? decl = .ok none := by
  have absent : Tag.Marker.find "" scanner.marker = .ok .absent := by
    unfold Tag.Marker.find
    split <;> rfl
  rw [mark?, empty, absent]

namespace Go

open Comment Lexer

/-! ## Trees that share a token -/

section Order

variable {trees : List Tree} {tree other : Tree} {one token : Token} {tokens : List Token}

namespace Token.Before

theorem irrefl (token : Token) : ¬token.Before token :=
  fun before => Nat.lt_irrefl _ (Nat.lt_of_lt_of_le before.1 before.2)

theorem offset_lt (before : one.Before token) : one.offset < token.offset :=
  Nat.lt_of_lt_of_le before.1 before.2

end Token.Before

theorem eq_of_offset_eq
    (order : tokens.Pairwise Token.Before)
    (present : one ∈ tokens)
    (presentToo : token ∈ tokens)
    (same : one.offset = token.offset) :
    one = token := by
  have offsets : (tokens.map Token.offset).Nodup :=
    List.pairwise_map.2 (order.imp fun before => Nat.ne_of_lt before.offset_lt)
  exact List.inj_on_of_nodup_map offsets present presentToo same

/-- A token stands at one place only. -/
theorem eq_of_cut_eq
    {front back front' back' : List Token}
    (order : (front ++ token :: back).Pairwise Token.Before)
    (same : front ++ token :: back = front' ++ token :: back') :
    front = front' ∧ back = back' := by
  have inOrder := List.pairwise_append.1 (same ▸ order)
  have notFront : token ∉ front' := fun member =>
    Token.Before.irrefl token (inOrder.2.2 token member token List.mem_cons_self)
  have notBack : token ∉ back' := fun member =>
    Token.Before.irrefl token ((List.pairwise_cons.1 inOrder.2.1).1 token member)
  obtain ⟨sameFront, _, sameBack⟩ := (List.append_cons_inj_of_notMem notFront notBack).1 same.symm
  exact ⟨sameFront.symm, sameBack.symm⟩

/-- Trees beside each other that share a token are one tree. -/
theorem Tree.eq_of_mem_tokens
    (order : (tokensOfAll trees).Pairwise Token.Before)
    (present : tree ∈ trees)
    (presentToo : other ∈ trees)
    (holds : token ∈ tree.tokens)
    (holdsToo : token ∈ other.tokens) :
    tree = other := by
  induction trees with
  | nil => cases present
  | cons first rest inductionHypothesis =>
      rw [tokensOfAll, List.pairwise_append] at order
      have apart (further : Tree) (member : further ∈ rest) (inFirst : token ∈ first.tokens)
          (inFurther : token ∈ further.tokens) : False :=
        Token.Before.irrefl token
          (order.2.2 token inFirst token ((tokens_infix_tokensOfAll member).subset inFurther))
      rcases List.mem_cons.1 present with rfl | further
      · rcases List.mem_cons.1 presentToo with rfl | furtherToo
        · rfl
        · exact (apart _ furtherToo holds holdsToo).elim
      · rcases List.mem_cons.1 presentToo with rfl | furtherToo
        · exact (apart _ further holdsToo holds).elim
        · exact inductionHypothesis order.2.1 further furtherToo

end Order

/-! ## The first token of a documented tree -/

section Documented

variable {items : List Tree} {site : Site} {head : Token}

theorem Tree.tokensOfAll_drop_one_infix (trees : List Tree) :
    tokensOfAll (trees.drop 1) <:+: tokensOfAll trees := by
  cases trees with
  | nil => exact List.infix_refl _
  | cons first rest => exact (List.suffix_append _ _).isInfix

theorem Tree.tokens_eq_of_only?
    {kind : NodeKind}
    {item declaration : Tree}
    (only : item.only? kind = some declaration)
    (typed : declaration.children ≠ []) :
    item.tokens = tokensOfAll declaration.children := by
  obtain ⟨first, rest, parts⟩ := List.exists_cons_of_ne_nil typed
  rw [tokens_of_only? only, tokens_of_children parts, parts]

/-- The specification and the documented tree of a type are parts of one item. -/
theorem Site.Stands.exists_item
    (stands : site.Stands items) :
    ∃ item ∈ items, ∃ declaration, item.only? .typeDeclaration = some declaration ∧
      site.spec ∈ declaration.children.drop 1 ∧ site.documented.tokens ⊆ item.tokens ∧
        item.tokens = Tree.tokensOfAll declaration.children := by
  cases stands with
  | single cut above only parts =>
      refine ⟨_, Doc.mem_of_mem_withSiblings above, _, only, by simp [parts],
        List.Subset.refl _, ?_⟩
      exact Tree.tokens_eq_of_only? only (by simp [parts])
  | grouped cut only parts isType opens lined above =>
      have present := Doc.mem_of_mem_withSiblings above
      have tokens := Tree.tokens_eq_of_only? only (by simp [parts])
      refine ⟨_, cut ▸ List.mem_append_right _ List.mem_cons_self, _, only,
        by simp [parts, present], ?_, tokens⟩
      rw [tokens]
      exact (Tree.tokens_infix_tokensOfAll (by simp [parts, present])).subset

theorem Site.Stands.isNode (stands : site.Stands items) :
    ∃ kind children, site.documented = .node kind children := by
  cases stands with
  | single _ above => exact Doc.isNode_of_mem_withSiblings above
  | grouped _ _ _ _ _ _ above => exact Doc.isNode_of_mem_withSiblings above

/-- Behind the last token of a line there is code, unless the token opens a group. -/
theorem Site.Above.behindCode
    {front : List Token}
    {last : Token}
    {rest : List Sibling}
    (above : Site.Above head (front ++ [last]) (Doc.stacked head.comments ++ rest))
    (noOpening : last.text ≠ "(".toList) :
    Doc.BehindCode last.endRow rest := by
  generalize sameFront : front ++ [last] = front' at above
  generalize sameRest : Doc.stacked head.comments ++ rest = siblings at above
  cases above with
  | first => simp at sameFront
  | opened outside isType opens =>
      have sameLast := congrArg List.getLast? sameFront
      simp only [List.getLast?_append_cons, List.getLast?_cons_cons, List.getLast?_singleton,
        Option.some.injEq] at sameLast
      exact absurd (sameLast ▸ opens) noOpening
  | behind behind =>
      rw [← sameFront, Token.rowBehind_of_getLast? List.getLast?_concat] at behind
      rwa [List.append_cancel_left sameRest]

/-- A part of an item behind the keyword that holds the first token of a documented tree is that
tree. -/
theorem Site.Stands.eq_documented
    {item declaration tree : Tree}
    (stands : site.Stands items)
    (order : (Tree.tokensOfAll items).Pairwise Token.Before)
    (begins : site.documented.first? = some head)
    (present : item ∈ items)
    (only : item.only? .typeDeclaration = some declaration)
    (inside : tree ∈ declaration.children.drop 1)
    (holds : head ∈ tree.tokens) :
    tree = site.documented := by
  have inDocumented : head ∈ site.documented.tokens := List.mem_of_head? begins
  have someParts : declaration.children ≠ [] := by
    rintro none
    simp [none] at inside
  have inItem : head ∈ item.tokens := by
    rw [Tree.tokens_eq_of_only? only someParts]
    exact (Tree.tokens_infix_tokensOfAll (List.mem_of_mem_drop inside)).subset holds
  have orderItem {item : Tree} (present : item ∈ items) : item.tokens.Pairwise Token.Before :=
    order.sublist (Tree.tokens_infix_tokensOfAll present).sublist
  cases stands with
  | @single _ _ item' declaration' spec keyword _ _ above only' parts =>
      have presentToo := Doc.mem_of_mem_withSiblings above
      obtain rfl := Tree.eq_of_mem_tokens order present presentToo inItem inDocumented
      obtain rfl := Option.some.inj (only.symm.trans only')
      have tokens : item.tokens = keyword :: Tree.tokensOfAll [spec] := by
        rw [Tree.tokens_eq_of_only? only someParts, parts, Tree.tokensOfAll, Tree.tokens,
          List.singleton_append]
      -- The documented item begins with its keyword, which no part behind the keyword holds.
      have isKeyword : head = keyword := by
        rw [Tree.first?, tokens] at begins
        exact (Option.some.inj begins).symm
      have orderTokens := tokens ▸ orderItem present
      rw [parts, List.drop_one, List.tail_cons] at inside
      have behind := (Tree.tokens_infix_tokensOfAll inside).subset holds
      exact absurd ((List.pairwise_cons.1 orderTokens).1 head behind)
        (isKeyword ▸ Token.Before.irrefl _)
  | @grouped _ _ specs item' declaration' spec keyword opening closing _ cut only' parts _ _ _
      above =>
      have presentToo : item' ∈ items := cut ▸ List.mem_append_right _ List.mem_cons_self
      have inSpecs := Doc.mem_of_mem_withSiblings above
      have tokens' := Tree.tokens_eq_of_only? only' (by simp [parts])
      have inItem' : head ∈ item'.tokens := by
        rw [tokens']
        exact (Tree.tokens_infix_tokensOfAll (by simp [parts, inSpecs])).subset inDocumented
      obtain rfl := Tree.eq_of_mem_tokens order present presentToo inItem inItem'
      obtain rfl := Option.some.inj (only.symm.trans only')
      have orderParts := (tokens' ▸ orderItem present).sublist
        (Tree.tokensOfAll_drop_one_infix _).sublist
      exact Tree.eq_of_mem_tokens orderParts inside (by simp [parts, inSpecs]) holds inDocumented

end Documented

/-! ## Sites below a remark -/

/-- A remark is added to the line of code above the documentation of a type.  The line ends with a
token, the comments below reach from the next line down to the next token, and with that token the
type or its item begins. -/
structure Remark.StandsAbove (remark : Remark) (items : List Tree) (site : Site)
    (last head : Token) : Prop where
  declares : site ∈ Site.ofItems items
  begins : site.documented.first? = some head
  follows : ∃ front back, Tree.tokensOfAll items = front ++ last :: head :: back
  ends : last.stop ≤ remark.line.length
  endRow : last.endRow = breaks remark.line
  offset : remark.line.length < head.offset
  below : ∀ comment ∈ head.comments, breaks remark.line < comment.startRow
  reaches : Reaches (breaks remark.line) head.comments head.startRow
  /-- The line does not open a group. -/
  noOpening : last.text ≠ "(".toList

/-- The items of a text with a remark are those of the text without it, moved. -/
structure Remark.Moved (remark : Remark) (items : List Tree) (next : Nat) : Prop where
  regular : Regular items
  order : (Tree.tokensOfAll items).Pairwise Token.Before
  itemised : itemsOf remark.after = .ok (items.map (Tree.map (remark.move next)))

namespace Remark

variable {remark : Remark} {items : List Tree} {site one site' : Site} {last head : Token}

namespace StandsAbove

/-- Texts that are read by the plain rules are read so with the remark. -/
theorem moved_of_readFile
    (stands : remark.StandsAbove items site last head)
    (isRead : remark.IsRead)
    (read : readFile (tokenize remark.before) = some items) :
    remark.Moved items head.offset := by
  obtain ⟨finish, derives, finishes⟩ := derives_of_readFile read
  have tokens := derives.tokens_eq
  have known : ∀ token ∈ tokenize remark.before, token.kind ≠ .stray := by
    rw [tokens, List.forall_mem_append]
    refine ⟨derives.isKnown Part.readsKnown_rule trivial, fun token member => ?_⟩
    have isFinish : token.kind = .finish := by
      simpa [Token.isFinish] using List.all_eq_true.1 finishes token member
    rw [isFinish]
    decide
  obtain ⟨front, back, cut⟩ := stands.follows
  have tokensBefore : tokenize remark.before = front ++ last :: head :: (back ++ finish) := by
    rw [tokens, cut]
    simp
  have tokensAfter :=
    tokenize_after isRead known tokensBefore stands.ends stands.offset stands.below
  refine ⟨regular_of_readFile read, ?_, ?_⟩
  · have order := pairwise_tokenize remark.before
    rw [tokens] at order
    exact (List.pairwise_append.1 order).1
  · apply itemsOf_of_readFile
    rw [tokensAfter, readFile_map unseen_move.blur, read, Option.map_some]

section Moved

variable (stands : remark.StandsAbove items site last head)
  (order : (Tree.tokensOfAll items).Pairwise Token.Before)

include stands

theorem head_mem : head ∈ Tree.tokensOfAll items := by
  obtain ⟨front, back, cut⟩ := stands.follows
  simp [cut]

include order

theorem offset_ne
    {token : Token}
    (present : token ∈ Tree.tokensOfAll items)
    (other : token ≠ head) :
    token.offset ≠ head.offset :=
  fun same => other (eq_of_offset_eq order present stands.head_mem same)

theorem stop_le
    {token : Token}
    (present : token ∈ Tree.tokensOfAll items)
    (before : token.Before head) :
    token.stop ≤ remark.line.length := by
  obtain ⟨front, back, cut⟩ := stands.follows
  rw [cut] at order present
  have inOrder := List.pairwise_append.1 order
  have headBack := List.pairwise_cons.1 inOrder.2.1
  have lastBefore : last.Before head := headBack.1 head List.mem_cons_self
  rcases List.mem_append.1 present with inFront | further
  · have beforeLast : token.Before last := inOrder.2.2 token inFront last List.mem_cons_self
    exact Nat.le_trans beforeLast.2 (Nat.le_trans (Nat.le_of_lt lastBefore.1) stands.ends)
  · rcases List.mem_cons.1 further with rfl | behindLast
    · exact stands.ends
    · rcases List.mem_cons.1 behindLast with rfl | inBack
      · exact (Token.Before.irrefl _ before).elim
      · have behind := (List.pairwise_cons.1 headBack.2).1 token inBack
        exact absurd before.offset_lt (Nat.lt_asymm behind.offset_lt)

variable (standsSite : site.Stands items)

include standsSite

/-- The specification of a type lies in front of the remark or behind it. -/
theorem spelledAlike (standsOne : one.Stands items) :
    SpelledAlike (remark.move head.offset) remark.before remark.after one.spec.tokens := by
  obtain ⟨item, present, declaration, only, inside, _, tokens⟩ := standsOne.exists_item
  have inItem : one.spec.tokens <:+: item.tokens :=
    tokens ▸ Tree.tokens_infix_tokensOfAll (List.mem_of_mem_drop inside)
  obtain ⟨front, back, cut⟩ := inItem.trans (Tree.tokens_infix_tokensOfAll present)
  have orderCut := cut ▸ order
  rw [List.append_assoc] at orderCut
  obtain ⟨_, orderBack, inFront⟩ := List.pairwise_append.1 orderCut
  obtain ⟨orderSpec, _, inBack⟩ := List.pairwise_append.1 orderBack
  have below : remark.line.length ≤ head.offset := Nat.le_of_lt stands.offset
  have inCut : head ∈ front ++ one.spec.tokens ++ back := cut ▸ stands.head_mem
  rw [List.append_assoc, List.mem_append, List.mem_append] at inCut
  rcases inCut with headFront | headSpec | headBack
  · exact spelledAlike_back below fun token member => Nat.le_of_lt
      (inFront head headFront token (List.mem_append_left _ member)).offset_lt
  · have same := standsSite.eq_documented order stands.begins present only inside headSpec
    obtain ⟨more, begins⟩ := List.head?_eq_some_iff.1 (same ▸ stands.begins)
    rw [begins] at orderSpec ⊢
    refine spelledAlike_back below fun token member => ?_
    rcases List.mem_cons.1 member with rfl | further
    · exact Nat.le_refl _
    · exact Nat.le_of_lt ((List.pairwise_cons.1 orderSpec).1 token further).offset_lt
  · refine spelledAlike_front fun token member => ?_
    have before := inBack token member head headBack
    have present : token ∈ Tree.tokensOfAll items := by
      rw [← cut]
      simp [member]
    exact ⟨before.offset_lt, stands.stop_le order present before⟩

/-- The token directly behind the remark is no item and no part of a group. -/
theorem forall₂_sites :
    List.Forall₂ (remark.Moves head.offset) (Site.ofItems items)
      (Site.ofItems (items.map (Tree.map (remark.move head.offset)))) := by
  have single (token : Token) : token ∈ (Tree.leaf token).tokens := by simp [Tree.tokens]
  have inDocumented : head ∈ site.documented.tokens := List.mem_of_head? stands.begins
  refine forall₂_ofItems remark (fun token present => ?_)
    fun item present declaration only token inside => ?_
  · refine stands.offset_ne order ((Tree.tokens_infix_tokensOfAll present).subset (single token)) ?_
    rintro rfl
    obtain ⟨item, presentToo, declaration, only, _, documented, _⟩ := standsSite.exists_item
    obtain rfl :=
      Tree.eq_of_mem_tokens order present presentToo (single _) (documented inDocumented)
    cases only
  · have inItem : token ∈ item.tokens := by
      rw [Tree.tokens_of_only? only]
      exact (Tree.tokens_infix_of_mem_children (List.mem_of_mem_drop inside)).subset (single token)
    refine stands.offset_ne order ((Tree.tokens_infix_tokensOfAll present).subset inItem) ?_
    rintro rfl
    have same := standsSite.eq_documented order stands.begins present only inside (single _)
    obtain ⟨kind, children, isNode⟩ := standsSite.isNode
    cases same.trans isNode

end Moved

/-- Below the remark nothing is documented. -/
theorem doc_eq_empty
    (stands : remark.StandsAbove items site last head)
    (moved : remark.Moved items head.offset)
    (present : one ∈ Site.ofItems items)
    (begins : one.documented.first? = some head)
    (moves : remark.Moves head.offset one site') :
    site'.doc = "" := by
  obtain ⟨siblings, siblings', alike, above, above'⟩ := moves.above
  obtain ⟨front', head', back', cut', begins', standsAbove⟩ := moved.regular.exists_above present
  obtain rfl := Option.some.inj (begins.symm.trans begins')
  obtain ⟨front, back, cut⟩ := stands.follows
  have sameFront : front' = front ++ [last] := by
    have sameCut : front' ++ head :: back' = (front ++ [last]) ++ head :: back := by
      rw [← cut', cut, List.append_assoc, List.singleton_append]
    exact (eq_of_cut_eq (cut' ▸ moved.order) sameCut).1
  have behind : Doc.BehindCode (breaks remark.line) siblings' := by
    rw [sameFront, above, Doc.withComments_of_first? begins] at standsAbove
    exact alike.behindCode (stands.endRow ▸ standsAbove.behindCode stands.noOpening)
  have begins' : site'.documented.first? = some (remark.move head.offset head) := by
    rw [moves.documented, Tree.first?_map, begins]
    rfl
  have comments : (remark.move head.offset head).comments = remark.comment :: head.comments := by
    rw [move, if_neg (Nat.lt_irrefl _), if_pos rfl]
    rfl
  have none : Doc.groupAbove head.startRow
      (Doc.stacked (remark.comment :: head.comments) ++ siblings') = none :=
    Doc.groupAbove_eq_none_of_reaches behind rfl stands.reaches
  rw [Site.doc_eq_text begins', above', Doc.withComments_of_first? begins', comments,
    unseen_move.startRow, Doc.commentsAbove, none]
  rfl

/-- All other types are documented as before. -/
theorem doc_eq
    (stands : remark.StandsAbove items site last head)
    (order : (Tree.tokensOfAll items).Pairwise Token.Before)
    (standsOne : one.Stands items)
    (other : one.documented.first? ≠ some head)
    (moves : remark.Moves head.offset one site') :
    site'.doc = one.doc := by
  obtain ⟨siblings, siblings', alike, above, above'⟩ := moves.above
  obtain ⟨item, present, _, _, _, documented, _⟩ := standsOne.exists_item
  have further (token : Token) (begins : one.documented.first? = some token) :
      token.offset ≠ head.offset := by
    have inItem : token ∈ item.tokens := documented (List.mem_of_head? begins)
    refine stands.offset_ne order ((Tree.tokens_infix_tokensOfAll present).subset inItem) ?_
    rintro rfl
    exact other begins
  rw [Site.doc, Site.doc, above', above, moves.documented, Tree.startRow_map unseen_move]
  exact ((alike_withComments further alike).above_eq _).symm

/-- Of the declarations only that below the remark changes: it loses its documentation. -/
theorem decls_eq
    (stands : remark.StandsAbove items site last head)
    (moved : remark.Moved items head.offset)
    (package dir : String) :
    (Site.ofItems (items.map (Tree.map (remark.move head.offset)))).map
        (Site.decl remark.after package dir) =
      (Site.ofItems items).map fun one =>
        let decl := one.decl remark.before package dir
        if one.documented.first? = some head then { decl with doc := "" } else decl := by
  have standsSite := moved.regular.stands stands.declares
  have sites := (List.forall₂_and_left _ _).2
    ⟨fun one (present : one ∈ Site.ofItems items) => present,
      stands.forall₂_sites moved.order standsSite⟩
  refine Eq.symm ?_
  rw [← List.forall₂_eq_eq_eq]
  refine List.forall₂_map_left_iff.2 (List.forall₂_map_right_iff.2 (sites.imp ?_))
  rintro one site' ⟨present, moves⟩
  have standsOne := moved.regular.stands present
  have spelled := stands.spelledAlike moved.order standsSite standsOne
  have declMoved : site'.decl remark.after package dir =
      declOf remark.before package dir site'.doc one.spec := by
    rw [Site.decl, moves.spec, declOf_map unseen_move spelled]
  dsimp only
  rw [declMoved]
  split
  · next begins =>
      rw [stands.doc_eq_empty moved present begins moves]
      rfl
  · next other =>
      rw [stands.doc_eq moved.order standsOne other moves]
      rfl

end StandsAbove

/-- A remark that is added to the line of code directly above the documentation of a type, or above
the type itself, takes the documentation away from it: in the text with the remark the type has none
and is not marked.  All else in the file is as before.  Where the plain rules leave the text
undecided, the items are taken to be regular and to be moved by the remark. -/
theorem forgets_doc
    {path : Path}
    {file : SourceFile}
    (stands : remark.StandsAbove items site last head)
    (isRead : remark.IsRead)
    (itemised : itemsOf remark.before = .ok items)
    (recovered : readFile (tokenize remark.before) = none -> remark.Moved items head.offset)
    (read : parseSource path (String.ofList remark.before) = .ok file) :
    let decl := Site.decl remark.before file.package (((path.parent?).map Path.text).getD "")
    file.decls = (Site.ofItems items).map decl ∧
      parseSource path (String.ofList remark.after) = .ok { file with
        decls := (Site.ofItems items).map fun one =>
          if one.documented.first? = some head then { decl one with doc := "" } else decl one } ∧
      ∀ scanner : Scanner, scanner.mark? { decl site with doc := "" } = .ok none := by
  have moved : remark.Moved items head.offset := by
    cases found : readFile (tokenize remark.before) with
    | none => exact recovered found
    | some items' =>
        obtain rfl : items' = items :=
          Except.ok.inj ((itemsOf_of_readFile found).symm.trans itemised)
        exact stands.moved_of_readFile isRead found
  have before := parseSource_eq_of_itemsOf path (String.ofList remark.before)
    (by rw [String.toList_ofList]; exact itemised)
  have after := parseSource_eq_of_itemsOf path (String.ofList remark.after)
    (by rw [String.toList_ofList]; exact moved.itemised)
  rw [String.toList_ofList] at before after
  obtain rfl := Except.ok.inj (before.symm.trans read)
  refine ⟨rfl, ?_, fun scanner => Scanner.mark?_of_doc_eq_empty scanner rfl⟩
  rw [after, stands.decls_eq moved, packageOf_map unseen_move]

/-- A remark behind a variable, above a marked type. -/
def noted : Remark where
  line := "package a\n\nvar port = 8080".toList
  space := [' ']
  words := " note".toList
  below := "// @app-cfg\ntype Db struct{}\n\n// named\ntype Name string\n".toList
  blank := List.forall_mem_singleton.2 (by decide)
  oneLine := by decide

theorem noted_forgets_doc :
    ∃ file : SourceFile, parseSource ⟨"a.go"⟩ (String.ofList noted.before) = .ok file ∧
      file.decls.map TypeDecl.doc = ["@app-cfg", "named"] ∧
      ∃ sites : List Site, ∃ head : Token, ∃ decl : Site -> TypeDecl,
        file.decls = sites.map decl ∧
        parseSource ⟨"a.go"⟩ (String.ofList noted.after) = .ok { file with
          decls := sites.map fun one =>
            if one.documented.first? = some head then { decl one with doc := "" }
            else decl one } := by
  let file : SourceFile := ⟨⟨"a.go"⟩, "a", [⟨"a", ⟨""⟩, "Db", "@app-cfg", .struct, []⟩,
    ⟨"a", ⟨""⟩, "Name", "named", .other, []⟩]⟩
  let last : Token := ⟨.number, "8080".toList, 22, 2, 2, false, []⟩
  let head : Token := ⟨.keyword, "type".toList, 39, 4, 4, true, [⟨"// @app-cfg".toList, 3, 3⟩]⟩
  have read : parseSource ⟨"a.go"⟩ (String.ofList noted.before) = .ok file := by decide +kernel
  let items := (readFile (tokenize noted.before)).getD []
  have decided : (readFile (tokenize noted.before)).isSome = true := by decide +kernel
  have itemised : itemsOf noted.before = .ok items := by
    obtain ⟨found, isFound⟩ := Option.isSome_iff_exists.1 decided
    rw [itemsOf_of_readFile isFound]
    simp only [items, isFound, Option.getD_some]
  have first :
      (Site.ofItems items).head?.bind (fun site => site.documented.first?) = some head := by
    decide +kernel
  obtain ⟨site, isFirst, begins⟩ := Option.bind_eq_some_iff.1 first
  have stands : noted.StandsAbove items site last head := {
    declares := List.mem_of_head? isFirst
    begins
    follows := ⟨(Tree.tokensOfAll items).take 5, (Tree.tokensOfAll items).drop 7, by decide +kernel⟩
    ends := by decide +kernel
    endRow := by decide +kernel
    offset := by decide +kernel
    below := by decide +kernel
    reaches := ⟨by decide +kernel, Nat.le_refl 4⟩
    noOpening := by decide }
  have isRead : noted.IsRead := ⟨by decide, .inr (by decide +kernel)⟩
  obtain ⟨decls, after, _⟩ := forgets_doc stands isRead itemised
    (fun undecided => by rw [undecided] at decided; cases decided) read
  exact ⟨file, read, rfl, Site.ofItems items, head, _, decls, after⟩

/-- A marked type below a line of code is marked no more once a remark stands behind the line. -/
theorem remark_takes_mark :
    ∃ marked plain : TypeDecl,
      parseSource ⟨"a.go"⟩ "package a\n\nvar port = 8080\n// @app-cfg\ntype Db struct{}\n" =
        .ok ⟨⟨"a.go"⟩, "a", [marked]⟩ ∧
      parseSource ⟨"a.go"⟩ "package a\n\nvar port = 8080 // note\n// @app-cfg\ntype Db struct{}\n" =
        .ok ⟨⟨"a.go"⟩, "a", [plain]⟩ ∧
      marked.doc = "@app-cfg" ∧ plain.doc = "" ∧
      (Scanner.mk "@app-cfg").mark? marked =
        .ok (some ⟨"@app-cfg", "a", "Db", ⟨""⟩, ⟨[]⟩, .struct, []⟩) ∧
      (Scanner.mk "@app-cfg").mark? plain = .ok none := by
  refine ⟨⟨"a", ⟨""⟩, "Db", "@app-cfg", .struct, []⟩, ⟨"a", ⟨""⟩, "Db", "", .struct, []⟩, ?_⟩
  decide +kernel

end Remark

end Go
end ConfigWiring
