import ConfigWiring.Proofs.Go.ReadTrees

/-!
# Documented types

Each declaration of a type is made of a specification, documented by the comments above the
specification itself if it is one of a group, and by those above the whole item otherwise.
-/

namespace ConfigWiring
namespace Go

/-- Where a type is declared. -/
structure Site where
  /-- The specification of the type. -/
  spec : Tree
  /-- The tree that the documentation stands above: the specification or its item. -/
  documented : Tree
  /-- The siblings above that tree, the nearest first. -/
  siblings : List Sibling

namespace Site

/-- The documentation of the type. -/
def doc (site : Site) : String := Doc.above site.documented.startRow site.siblings

/-- The declaration of the type. -/
def decl (text : List Char) (package dir : String) (site : Site) : TypeDecl :=
  declOf text package dir site.doc site.spec

/-- Whether behind the keyword of a declaration of types a parenthesis opens a group. -/
def isGroup (behindKeyword : List Tree) : Bool :=
  behindKeyword.any fun tree => tree.leafText? == some "("

/-- The types that an item declares, given the siblings above it. -/
def ofItem (item : Tree) (siblings : List Sibling) : List Site :=
  match item.only? .typeDeclaration with
  | none => []
  | some declaration =>
      let behindKeyword := declaration.children.drop 1
      ((Doc.withSiblings [] behindKeyword).filter fun (tree, _) => isSpec tree).map
        fun (spec, inner) =>
          if isGroup behindKeyword then ⟨spec, spec, inner⟩ else ⟨spec, item, siblings⟩

/-- The types that the items of a file declare. -/
def ofItems (items : List Tree) : List Site :=
  (Doc.withSiblings [] items).flatMap fun (item, siblings) => ofItem item siblings

theorem map_decl_ofItem
    (text : List Char)
    (package dir : String)
    (item : Tree)
    (siblings : List Sibling) :
    declsOfItem text package dir item siblings =
      (ofItem item siblings).map (decl text package dir) := by
  unfold declsOfItem ofItem
  cases item.only? .typeDeclaration with
  | none => rfl
  | some declaration =>
      simp only [List.map_map]
      refine List.map_congr_left fun pair _ => ?_
      rw [Function.comp_apply]
      split
      · next group => rw [isGroup, if_pos group, decl, doc]
      · next single => rw [isGroup, if_neg single, decl, doc]

end Site

/-- A file has the declarations of its sites. -/
theorem parseSource_eq_of_itemsOf
    (path : Path)
    (contents : String)
    {items : List Tree}
    (itemised : itemsOf contents.toList = .ok items) :
    parseSource path contents = .ok {
      path
      package := packageOf items
      decls := (Site.ofItems items).map (Site.decl contents.toList (packageOf items)
        (((path.parent?).map Path.text).getD "")) } := by
  refine parseSource_eq_ok_iff.2 ⟨items, itemised, ?_⟩
  simp only [Site.ofItems, List.map_flatMap, Site.map_decl_ofItem]

/-! ## Sites of regular items -/

variable {items : List Tree} {site : Site}

/-- The specification of a site stands alone behind the keyword of its item, or in a group. -/
inductive Site.Stands (items : List Tree) : Site -> Prop
  /-- The item of a single specification. -/
  | single {before after : List Tree} {item declaration spec : Tree} {keyword : Token}
      {siblings : List Sibling} (cut : items = before ++ item :: after)
      (above : (item, siblings) ∈ Doc.withSiblings [] items)
      (only : item.only? .typeDeclaration = some declaration)
      (parts : declaration.children = [.leaf keyword, spec]) : Stands items ⟨spec, item, siblings⟩
  /-- One of the specifications of a group. -/
  | grouped {before after specs : List Tree} {item declaration spec : Tree}
      {keyword opening closing : Token} {inner : List Sibling}
      (cut : items = before ++ item :: after)
      (only : item.only? .typeDeclaration = some declaration)
      (parts : declaration.children =
        .leaf keyword :: .leaf opening :: (specs ++ [.leaf closing]))
      (isType : keyword.text = "type".toList) (opens : opening.text = "(".toList)
      (lined : Lined none specs)
      (above : (spec, inner) ∈ Doc.withSiblings (Doc.stacked opening.comments) specs) :
      Stands items ⟨spec, spec, inner⟩

/-- In regular items each site stands in one of the two ways. -/
theorem Regular.stands
    (regular : Regular items)
    (present : site ∈ Site.ofItems items) :
    site.Stands items := by
  obtain ⟨⟨item, siblings⟩, above, inside⟩ := List.mem_flatMap.1 present
  have member := Doc.mem_of_mem_withSiblings above
  obtain ⟨before, after, cut⟩ := List.append_of_mem member
  unfold Site.ofItem at inside
  cases only : item.only? .typeDeclaration with
  | none => simp [only] at inside
  | some declaration =>
      have declares := regular.declares item member declaration only
      simp only [only] at inside
      obtain ⟨⟨spec, inner⟩, specAbove, rfl⟩ := List.mem_map.1 inside
      have specAbove := (List.mem_filter.1 specAbove).1
      generalize parts : declaration.children = children at declares specAbove ⊢
      cases declares with
      | single keyword kind specChildren =>
          rw [List.drop_one, List.tail_cons] at specAbove ⊢
          have alone : spec = .node kind specChildren := by
            simpa using Doc.mem_of_mem_withSiblings specAbove
          subst alone
          exact .single cut above only parts
      | @grouped keyword opening closing specs isType opens lined =>
          have group : Site.isGroup (.leaf opening :: (specs ++ [.leaf closing])) = true := by
            simp [Site.isGroup, Tree.leafText?, opens]
          rw [List.drop_one, List.tail_cons] at specAbove ⊢
          rw [group, if_pos rfl]
          have begins : (Tree.leaf opening).first? = some opening := rfl
          rw [Doc.withSiblings, Doc.withComments_of_first? begins, List.append_nil,
            Doc.withSiblings_append_leaf] at specAbove
          exact .grouped cut only parts isType opens lined specAbove

theorem Tree.tokens_of_children
    {tree : Tree}
    {first : Tree}
    {rest : List Tree}
    (parts : tree.children = first :: rest) :
    tree.tokens = Tree.tokensOfAll (first :: rest) := by
  cases tree with
  | leaf token => cases parts
  | node kind children =>
      obtain rfl : children = first :: rest := parts
      rfl

theorem Lined.exists_first?
    {row? : Option Nat}
    {trees : List Tree}
    {kind : NodeKind}
    {children : List Tree}
    (lined : Lined row? trees)
    (present : Tree.node kind children ∈ trees) :
    ∃ head, (Tree.node kind children).first? = some head := by
  induction lined with
  | nil => cases present
  | @node row? kind' children' rest last ends _ inductionHypothesis =>
      rcases List.mem_cons.1 present with same | further
      · have nonempty : (Tree.node kind' children').tokens ≠ [] := by
          intro none
          rw [Tree.last?, none] at ends
          cases ends
        obtain ⟨head, rest, tokens⟩ := List.exists_cons_of_ne_nil nonempty
        exact ⟨head, by rw [same, Tree.first?, tokens, List.head?_cons]⟩
      · exact inductionHypothesis further
  | leaf _ _ _ inductionHypothesis =>
      rcases List.mem_cons.1 present with same | further
      · cases same
      · exact inductionHypothesis further

theorem Doc.isNode_of_mem_withSiblings
    {tree : Tree}
    {above siblings : List Sibling}
    {trees : List Tree}
    (present : (tree, above) ∈ withSiblings siblings trees) :
    ∃ kind children, tree = .node kind children := by
  induction trees generalizing siblings with
  | nil => cases present
  | cons first rest inductionHypothesis =>
      cases first with
      | leaf token => exact inductionHypothesis present
      | node kind children =>
          rw [withSiblings, List.mem_cons] at present
          rcases present with same | further
          · exact ⟨kind, children, (Prod.mk.inj same).1⟩
          · exact inductionHypothesis further

/-! ## Above a type -/

/-- What stands above a tree with the given first token, behind the tokens in front of it: nothing,
the keyword and the parenthesis of a group, or the line of code on which the last token ends. -/
inductive Site.Above (head : Token) : List Token -> List Sibling -> Prop
  | first : Above head [] (Doc.stacked head.comments)
  | opened (outside : List Token) {keyword opening : Token} (isType : keyword.text = "type".toList)
      (opens : opening.text = "(".toList) :
      Above head (outside ++ [keyword, opening]) (Doc.stacked (opening.comments ++ head.comments))
  | behind {front : List Token} {rest : List Sibling}
      (behind : Doc.BehindCode (Token.rowBehind 0 front) rest) :
      Above head front (Doc.stacked head.comments ++ rest)

/-- In regular items each type stands in one of these places. -/
theorem Regular.exists_above
    (regular : Regular items)
    (present : site ∈ Site.ofItems items) :
    ∃ front head back, Tree.tokensOfAll items = front ++ head :: back ∧
      site.documented.first? = some head ∧ Site.Above head front site.siblings := by
  cases regular.stands present with
  | @single before after item declaration spec keyword siblings cut above only parts =>
      obtain ⟨kind, children, isNode⟩ := Doc.isNode_of_mem_withSiblings above
      obtain ⟨head, begins⟩ : ∃ head, item.first? = some head := by
        subst isNode
        exact regular.lined.exists_first? (cut ▸ List.mem_append_right _ List.mem_cons_self)
      obtain ⟨more, itemTokens⟩ := List.head?_eq_some_iff.1 begins
      rcases Doc.exists_behindCode regular.lined 0 above begins with
        ⟨back, cut, same⟩ | ⟨front, back, rest, cut, same, behind⟩
      · rw [List.append_nil] at same
        refine ⟨[], head, more ++ Tree.tokensOfAll back, ?_, begins, same ▸ .first⟩
        rw [cut, Tree.tokensOfAll, itemTokens, List.cons_append, List.nil_append]
      · refine ⟨Tree.tokensOfAll front, head, more ++ Tree.tokensOfAll back, ?_, begins,
          same ▸ .behind behind⟩
        rw [cut, Tree.tokensOfAll_append, Tree.tokensOfAll, itemTokens, List.cons_append]
  | @grouped before after specs item declaration spec keyword opening closing inner cut only parts
      isType opens lined above =>
      obtain ⟨kind, children, isNode⟩ := Doc.isNode_of_mem_withSiblings above
      obtain ⟨head, begins⟩ : ∃ head, spec.first? = some head := by
        have present := Doc.mem_of_mem_withSiblings above
        subst isNode
        exact lined.exists_first? present
      obtain ⟨more, specTokens⟩ := List.head?_eq_some_iff.1 begins
      have itemTokens :
          item.tokens = keyword :: opening :: (Tree.tokensOfAll specs ++ [closing]) := by
        rw [Tree.tokens_of_only? only, Tree.tokens_of_children parts]
        simp [Tree.tokensOfAll, Tree.tokens, Tree.tokensOfAll_append]
      rcases Doc.exists_behindCode lined opening.endRow above begins with
        ⟨back, cutSpecs, same⟩ | ⟨front, back, rest, cutSpecs, same, behind⟩
      · rw [← Doc.stacked_append] at same
        refine ⟨Tree.tokensOfAll before ++ [keyword, opening], head,
          more ++ Tree.tokensOfAll back ++ closing :: Tree.tokensOfAll after, ?_, begins,
          same ▸ .opened _ isType opens⟩
        rw [cut, Tree.tokensOfAll_append, Tree.tokensOfAll, itemTokens, cutSpecs, Tree.tokensOfAll,
          specTokens]
        simp
      · refine ⟨Tree.tokensOfAll before ++ [keyword, opening] ++ Tree.tokensOfAll front, head,
          more ++ Tree.tokensOfAll back ++ closing :: Tree.tokensOfAll after, ?_, begins,
          same ▸ .behind ?_⟩
        · rw [cut, Tree.tokensOfAll_append, Tree.tokensOfAll, itemTokens, cutSpecs,
            Tree.tokensOfAll_append, Tree.tokensOfAll, specTokens]
          simp
        · rw [Token.rowBehind_append, Token.rowBehind_append]
          exact behind

/-! ## Comments of the documentation -/

/-- A comment stands in front of the first token of a documented tree, alone on its line: no token
in front of it ends there. -/
def Comment.StandsAlone (front : List Token) (head : Token) (comment : Comment) : Prop :=
  comment ∈ head.comments ∧ ∀ token ∈ front, token.endRow < comment.startRow

/-- A comment stands in front of the first specification of a group, behind its keyword or its
parenthesis. -/
def Comment.OpensGroup (front : List Token) (head : Token) (comment : Comment) : Prop :=
  ∃ outside keyword opening, front = outside ++ [keyword, opening] ∧
    keyword.text = "type".toList ∧ opening.text = "(".toList ∧
      comment ∈ opening.comments ++ head.comments

theorem Site.doc_eq_text
    {head : Token}
    (begins : site.documented.first? = some head) :
    site.doc = Doc.text (Doc.commentsAbove head.startRow site.siblings) := by
  rw [doc, Doc.above_eq_text, Tree.startRow, begins]
  rfl

/-- In regular items each comment of the documentation of a type stands alone on its line or
behind the keyword or the parenthesis of a group. -/
theorem Regular.exists_group
    (regular : Regular items)
    (present : site ∈ Site.ofItems items) :
    ∃ front head back group, Tree.tokensOfAll items = front ++ head :: back ∧
      site.documented.first? = some head ∧ site.doc = Doc.text group ∧
        ∀ comment ∈ group, comment.StandsAlone front head ∨ comment.OpensGroup front head := by
  obtain ⟨front, head, back, tokens, begins, above⟩ := regular.exists_above present
  refine ⟨front, head, back, _, tokens, begins, Site.doc_eq_text begins, fun comment member => ?_⟩
  generalize site.siblings = siblings at above member
  cases above with
  | first =>
      exact .inl ⟨(Doc.commentsAbove_suffix _ _).subset member, List.forall_mem_nil _⟩
  | opened outside isType opens =>
      exact .inr ⟨outside, _, _, rfl, isType, opens, (Doc.commentsAbove_suffix _ _).subset member⟩
  | behind behind =>
      have ascend := regular.ascend
      rw [tokens, Token.ascend_append] at ascend
      obtain ⟨inside, apart⟩ := Doc.commentsAbove_behindCode behind ascend.2.1
      exact .inl ⟨inside.subset member, fun token among =>
        Nat.lt_of_le_of_lt (ascend.1.endRow_le among) (apart comment member)⟩

/-!
## Comments behind code

A comment that begins on the line of the code in front of it does not belong to the documentation
of a type, unless it stands between the keyword of a group of types and the first of them.
-/

/-- The items of a text are regular if those of texts that the plain rules leave undecided are. -/
theorem regular_of_itemsOf
    {text : List Char}
    {items : List Tree}
    (recovered : readFile (tokenize text) = none -> recoverItems text = .ok items -> Regular items)
    (itemised : itemsOf text = .ok items) :
    Regular items := by
  unfold itemsOf at itemised
  split at itemised
  · next read =>
      cases itemised
      exact regular_of_readFile read
  · next undecided => exact recovered undecided itemised

/-- The documentation of each type of a file is the text of comments in front of the first token of
the specification or of its item.  Each of these comments stands alone, with no token in front of it
that ends on its line, or it stands in front of the first specification of a group. -/
theorem comments_stand_alone_of_parseSource
    {path : Path}
    {contents : String}
    {file : SourceFile}
    (recovered : ∀ items, readFile (tokenize contents.toList) = none ->
      recoverItems contents.toList = .ok items -> Regular items)
    (read : parseSource path contents = .ok file) :
    ∃ items, itemsOf contents.toList = .ok items ∧
      (readFile (tokenize contents.toList) = some items -> ∃ finish,
        tokenize contents.toList = Tree.tokensOfAll items ++ finish ∧
          finish.all Token.isFinish = true) ∧
      file.decls = (Site.ofItems items).map
        (Site.decl contents.toList (packageOf items) (((path.parent?).map Path.text).getD "")) ∧
      ∀ site ∈ Site.ofItems items, ∃ front head back group,
        Tree.tokensOfAll items = front ++ head :: back ∧ site.documented.first? = some head ∧
          site.doc = Doc.text group ∧
            ∀ comment ∈ group, comment.StandsAlone front head ∨ comment.OpensGroup front head := by
  obtain ⟨items, itemised, -⟩ := parseSource_eq_ok_iff.1 read
  have regular := regular_of_itemsOf (recovered items) itemised
  rw [parseSource_eq_of_itemsOf path contents itemised] at read
  cases read
  refine ⟨items, itemised, fun readItems => ?_, rfl, fun _ present => regular.exists_group present⟩
  obtain ⟨finish, derives, ends⟩ := derives_of_readFile readItems
  exact ⟨finish, derives.tokens_eq, ends⟩

/-- A file whose documentation all stands alone, beside comments behind code. -/
def trailingText : String :=
  "package a\n\nvar port = 8080 // note\n// hidden\ntype Plain struct{} // more\n\n" ++
    "type (\n\t// first\n\tHost string // second\n\n\t// third\n\tName string\n)\n"

theorem comments_stand_alone_in_trailingText :
    ∃ file items, parseSource ⟨"a.go"⟩ trailingText = .ok file ∧
      file.decls.map TypeDecl.doc = ["", "first", "third"] ∧
      itemsOf trailingText.toList = .ok items ∧
      ∀ site ∈ Site.ofItems items, ∃ front head back group,
        Tree.tokensOfAll items = front ++ head :: back ∧ site.documented.first? = some head ∧
          site.doc = Doc.text group ∧
            ∀ comment ∈ group, comment.StandsAlone front head ∨ comment.OpensGroup front head := by
  let file : SourceFile :=
    ⟨⟨"a.go"⟩, "a", [⟨"a", ⟨""⟩, "Plain", "", .struct, []⟩,
      ⟨"a", ⟨""⟩, "Host", "first", .other, []⟩, ⟨"a", ⟨""⟩, "Name", "third", .other, []⟩]⟩
  have read : parseSource ⟨"a.go"⟩ trailingText = .ok file := by decide +kernel
  have decided : (readFile (tokenize trailingText.toList)).isSome = true := by decide +kernel
  obtain ⟨items, itemised, _, _, documented⟩ := comments_stand_alone_of_parseSource
    (fun items undecided => by rw [undecided] at decided; cases decided) read
  exact ⟨file, items, read, rfl, itemised, documented⟩

/-- A file with a comment behind the parenthesis of a group. -/
def openingText : String := "package a\n\ntype ( // @app-cfg\n\tA struct{}\n)\n"

/-- A comment behind the parenthesis of a group is the documentation of its first type, though it
begins on the line on which the parenthesis stands. -/
theorem comment_behind_opening_documents :
    ∃ before opening head behind comment,
      tokenize openingText.toList = before ++ opening :: head :: behind ∧
        opening.text = "(".toList ∧ comment ∈ head.comments ∧
          comment.startRow = opening.endRow ∧ comment.lines = ["@app-cfg".toList] ∧
            parseSource ⟨"a.go"⟩ openingText =
              .ok ⟨⟨"a.go"⟩, "a", [⟨"a", ⟨""⟩, "A", "@app-cfg", .struct, []⟩]⟩ := by
  let comment : Comment := ⟨"// @app-cfg".toList, 2, 2⟩
  let opening : Token := ⟨.mark, "(".toList, 16, 2, 2, false, []⟩
  let head : Token := ⟨.identifier, "A".toList, 31, 3, 3, true, [comment]⟩
  refine ⟨(tokenize openingText.toList).take 3, opening, head, (tokenize openingText.toList).drop 5,
    comment, ?_⟩
  decide +kernel

end Go
end ConfigWiring
