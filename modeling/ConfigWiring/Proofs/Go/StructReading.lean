import ConfigWiring.Proofs.Go.RegularTrees
import ConfigWiring.Proofs.Go.StructTrees

/-!
# Reading struct declarations back

A file of struct declarations is read as what was written: each declaration with the documentation
directly above it and with its fields and their tags, whether it has a keyword of its own or stands
in a group.
-/

namespace ConfigWiring
namespace Go

open Text

/-! ## Documentation -/

theorem DocLine.lines_remark (line : DocLine) (row : Nat) :
    (Comment.mk line.remark row row).lines = [line.text.toList] := by
  have blank : isBlank ' ' = true := by decide
  have trimmed : trim (' ' :: line.text.toList) = trim line.text.toList := by
    simp [trim, trimStart, blank]
  rw [remark, Comment.lines]
  simp only
  rw [trimmed, line.trimmed]

namespace Sibling

/-- The nearest of some siblings, if there are any, is code that ends above a row. -/
def EndAbove (row : Nat) (siblings : List Sibling) : Prop :=
  ∀ sibling, siblings.head? = some sibling -> ∃ endRow < row, sibling = .code endRow

theorem EndAbove.code {row endRow : Nat} (above : endRow < row) (siblings : List Sibling) :
    EndAbove row (.code endRow :: siblings) := by
  rintro sibling ⟨⟩
  exact ⟨endRow, above, rfl⟩

theorem EndAbove.mono
    {row row' : Nat}
    {siblings : List Sibling}
    (above : EndAbove row siblings)
    (further : row ≤ row') :
    EndAbove row' siblings := fun sibling nearest => by
  obtain ⟨endRow, less, same⟩ := above sibling nearest
  exact ⟨endRow, by omega, same⟩

end Sibling

namespace Doc

/-- Siblings with comments put on top of them, the latest last. -/
def stack (comments : List Comment) (siblings : List Sibling) : List Sibling :=
  comments.foldl (fun above comment => .comment comment :: above) siblings

/-- The lines of documentation are found behind those above them. -/
theorem linesAbove_stack
    (row : Nat)
    (lines : List DocLine)
    (siblings : List Sibling)
    (clear : siblings.head?.any (Sibling.endsOn row) = false) :
    linesAbove (row + lines.length) (stack (docComments row lines) siblings) =
      (linesAbove row siblings).map (· ++ lines.map fun line => line.text.toList) := by
  -- Comments are looked at from the last one upwards; the induction puts the first one on top of
  -- the siblings, where it is what the others are stacked on.
  induction lines generalizing row siblings with
  | nil => simp [docComments, stack]
  | cons line rest inductionHypothesis =>
      let comment : Comment := ⟨line.remark, row, row⟩
      have nearest : linesAbove (row + 1) (.comment comment :: siblings) =
          (linesAbove row siblings).map (· ++ [line.text.toList]) := by
        rw [linesAbove, if_neg (Nat.lt_irrefl _), clear, line.lines_remark]
        rfl
      have others := inductionHypothesis (row + 1) (.comment comment :: siblings) rfl
      rw [nearest, Option.map_map] at others
      rw [List.length_cons, Nat.add_comm rest.length, ← Nat.add_assoc, docComments]
      refine others.trans ?_
      simp [Function.comp_def]

/-- No lines stand above a row that only code is above. -/
theorem linesAbove_of_endAbove
    {row : Nat}
    {siblings : List Sibling}
    (above : Sibling.EndAbove row siblings) :
    linesAbove row siblings = some [] ∧ siblings.head?.any (Sibling.endsOn row) = false := by
  cases siblings with
  | nil => exact ⟨rfl, rfl⟩
  | cons nearest others =>
      obtain ⟨endRow, less, rfl⟩ := above nearest rfl
      exact ⟨rfl, by simp [Sibling.endsOn]; omega⟩

/-- The documentation of a tree is what is written directly above its first token. -/
theorem above_of_isDocumented
    {lines : List DocLine}
    {bound : Nat}
    {head : Token}
    {tree : Tree}
    {siblings : List Sibling}
    (documented : head.IsDocumented lines bound)
    (begins : tree.first? = some head)
    (clear : Sibling.EndAbove bound siblings) :
    Doc.above tree.startRow (withComments tree siblings) =
      "\n".intercalate (lines.map DocLine.text) := by
  obtain ⟨row, below, comments, startRow⟩ := documented
  obtain ⟨noLines, noCode⟩ := linesAbove_of_endAbove (clear.mono below)
  have stacked : withComments tree siblings = stack (docComments row lines) siblings := by
    rw [withComments, begins, ← comments]
    rfl
  have found := linesAbove_stack row lines siblings noCode
  have startsAt : tree.startRow = row + lines.length := by
    rw [Tree.startRow, begins, ← startRow]
    rfl
  rw [above, startsAt, stacked, found, noLines, ← String.toList_inj, String.toList_ofList,
    String.toList_intercalate]
  simp [joinAll, Function.comp_def]

/-- Of declarations that stand below each other, each is found with its own documentation. -/
theorem flatMap_withSiblings
    {seen : Type}
    {tells : StructText -> seen -> Prop}
    {head last : seen -> Token}
    {bound : Nat}
    {structs : List StructText}
    {all : List seen}
    {siblings : List Sibling}
    {treeOf : seen -> Tree}
    {declOf : StructText -> TypeDecl}
    {result : Tree × List Sibling -> List TypeDecl}
    (descends : Descends tells head last bound structs all)
    (clear : Sibling.EndAbove bound siblings)
    (nodes : ∀ found, ∃ kind children, treeOf found = .node kind children)
    (begins : ∀ found, (treeOf found).first? = some (head found))
    (ends : ∀ found, (treeOf found).last? = some (last found))
    (each : ∀ struct found above, tells struct found ->
      Doc.above (treeOf found).startRow above =
        "\n".intercalate (struct.docLines.map DocLine.text) ->
      result (treeOf found, above) = [declOf struct]) :
    (withSiblings siblings (all.map treeOf)).flatMap result = structs.map declOf := by
  induction descends generalizing siblings with
  | nil => rfl
  | @cons bound next struct found structs all told documented below rest inductionHypothesis =>
      obtain ⟨kind, children, same⟩ := nodes found
      have own := above_of_isDocumented documented (begins found) clear
      -- Above what follows there is code, which no line of its documentation stands beside.
      have further := inductionHypothesis
        (Sibling.EndAbove.code below (withComments (treeOf found) siblings))
      have unfolded : withSiblings siblings (treeOf found :: all.map treeOf) =
          (treeOf found, withComments (treeOf found) siblings) ::
            withSiblings (.code (last found).endRow :: withComments (treeOf found) siblings)
              (all.map treeOf) := by
        have endRow : ((treeOf found).last?.map Token.endRow).getD 0 = (last found).endRow := by
          rw [ends]
          rfl
        rw [← endRow, same, withSiblings]
      rw [List.map_cons, unfolded, List.flatMap_cons, each _ _ _ told own, further]
      rfl

end Doc

/-! ## Trees -/

namespace SpecTokens

theorem last?_tree (spec : SpecTokens) : spec.tree.last? = some spec.closing := by
  simp [tree, typeTree, Tree.last?, Tree.tokens, Tree.tokensOfAll, Tree.tokensOfAll_append,
    List.getLast?_cons]

end SpecTokens

theorem ItemTokens.last?_tree (item : ItemTokens) : item.tree.last? = some item.spec.closing := by
  have last := item.spec.last?_tree
  simp only [Tree.last?] at last
  simp [tree, Tree.last?, Tree.tokens, Tree.tokensOfAll, List.getLast?_cons, last]

/-! ## What the trees tell -/

/-- Only the quotes around a text are trimmed. -/
theorem trimWhile_quoted
    {quote : Char}
    {body : List Char}
    (plain : quote ∉ body) :
    trimWhile (· == quote) (quote :: (body ++ [quote])) = body := by
  have single : ∀ char ∈ [quote], (char == quote) = true := by simp
  have other {char : Char} (present : char ∈ body) : (char == quote) = false :=
    beq_false_of_ne fun same => plain (same ▸ present)
  exact trimWhile_append single single (fun _ first => other (List.mem_of_mem_head? first))
    (fun _ last => other (List.mem_of_getLast? last))

theorem TagBody.tagText_eq
    {tag : TagBody}
    {token : Token}
    {broken : Bool}
    (told : token.Is .raw tag.quoted.toList broken) :
    tagText token = tag.text := by
  rw [tagText, if_pos told.kind, told.text, tag.toList_quoted, trimWhile_quoted tag.plain,
    String.ofList_toList]

namespace FieldTokens

variable {line : FieldLine} {field : FieldTokens}

/-- The identifiers below the names of a field are its names. -/
theorem Tells.map_names (told : field.Tells line) :
    (field.namesTree.tokens.filter Token.isIdentifier).map (fun token => String.ofList token.text) =
      (line.first :: line.further).map Identifier.text := by
  have further : ((Tree.tokensOfAll
      (field.further.flatMap fun pair => [.leaf pair.1, .leaf pair.2])).filter
        Token.isIdentifier).map (fun token => String.ofList token.text) =
      line.further.map Identifier.text := by
    have furtherTold := told.further
    generalize line.further = names, field.further = pairs at furtherTold
    induction furtherTold with
    | nil => rfl
    | @cons name pair names pairs here _ inductionHypothesis =>
        have noIdentifier : pair.1.isIdentifier = false := by
          rw [Token.isIdentifier, here.1.kind]
          rfl
        simp [Tree.tokensOfAll, Tree.tokens, noIdentifier, here.2.isIdentifier, here.2.text,
          inductionHypothesis]
  simp [namesTree, Tree.tokens, Tree.tokensOfAll, told.first.isIdentifier, told.first.text, further]

/-- The tree of a field tells its names and its tag. -/
theorem Tells.fieldsOf_tree (told : field.Tells line) (text : List Char) :
    fieldsOf text field.tree = line.fields := by
  have named : field.tree.child? .names = some field.namesTree := rfl
  have tagged : (field.tree.child? .tag).bind Tree.first? = field.tag? := by
    rw [tree]
    cases field.tag? <;> rfl
  have unfolded : fieldsOf text field.tree =
      (field.namesTree.tokens.filter Token.isIdentifier).map fun token =>
        ⟨String.ofList token.text, field.tag?.elim "" tagText⟩ := by
    rw [fieldsOf, tagged, named]
    cases field.tag? <;> rfl
  have content : field.tag?.elim "" tagText = (line.tag?.map TagBody.text).getD "" := by
    have tagTold := told.tag
    generalize line.tag? = written, field.tag? = seen at tagTold
    cases tagTold with
    | none => rfl
    | some isTag => exact TagBody.tagText_eq isTag
  have names := congrArg
    (List.map fun name => (⟨name, (line.tag?.map TagBody.text).getD ""⟩ : Field)) told.map_names
  rw [List.map_map, List.map_map] at names
  rw [unfolded, content]
  exact names

end FieldTokens

namespace SpecTokens

variable {struct : StructText} {spec : SpecTokens} {broken : Bool}

/-- The fields below the type of a declaration are its fields. -/
theorem Tells.flatMap_fieldsOf (told : spec.Tells broken struct) (text : List Char) :
    (spec.typeTree.children.filter (Tree.isKind .field)).flatMap (fieldsOf text) =
      struct.fieldLines.flatMap FieldLine.fields := by
  have trees : spec.typeTree.children.filter (Tree.isKind .field) =
      spec.fields.map FieldTokens.tree := by
    have isField (field : FieldTokens) : field.tree.isKind .field = true := rfl
    have noLeaf (token : Token) : (Tree.leaf token).isKind .field = false := rfl
    simp [typeTree, Tree.children, noLeaf, List.filter_eq_self, isField]
  rw [trees, List.flatMap_map]
  have fieldsTold := told.fields
  generalize struct.fieldLines = lines, spec.fields = fields at fieldsTold
  induction fieldsTold with
  | nil => rfl
  | cons here _ inductionHypothesis =>
      rw [List.flatMap_cons, List.flatMap_cons, inductionHypothesis, here.fieldsOf_tree]

/-- The tree of a declaration tells what was written. -/
theorem Tells.declOf_tree
    (told : spec.Tells broken struct)
    (text : List Char)
    (package dir : String) :
    declOf text package dir ("\n".intercalate (struct.docLines.map DocLine.text)) spec.tree =
      struct.decl package ⟨dir⟩ := by
  have isStruct : structOf? spec.tree = some spec.typeTree := rfl
  have name : (spec.tree.children.head?.bind Tree.leafText?).getD "" = struct.name.text := by
    have spelt : (spec.tree.children.head?.bind Tree.leafText?).getD "" =
        String.ofList spec.name.text := rfl
    rw [spelt, told.name.text, String.ofList_toList]
  simp only [declOf, isStruct, name, told.flatMap_fieldsOf text]
  rfl

end SpecTokens

/-! ## Files -/

theorem packageOf_eq
    {package : Identifier}
    {clause : PackageTokens}
    (told : clause.Tells package)
    (items : List Tree) :
    packageOf (clause.tree :: items) = package.text := by
  have found : packageOf (clause.tree :: items) = String.ofList clause.name.text := rfl
  rw [found, told.name.text, String.ofList_toList]

/-- An item with one declaration tells what was written, with the documentation above it. -/
theorem ItemTokens.Tells.declsOfItem_tree
    {struct : StructText}
    {item : ItemTokens}
    {above : List Sibling}
    (told : item.Tells struct)
    (documented : Doc.above item.tree.startRow above =
      "\n".intercalate (struct.docLines.map DocLine.text))
    (text : List Char)
    (package dir : String) :
    declsOfItem text package dir item.tree above = [struct.decl package ⟨dir⟩] := by
  have unfolded : declsOfItem text package dir item.tree above =
      [declOf text package dir (Doc.above item.tree.startRow above) item.spec.tree] := rfl
  rw [unfolded, documented, told.spec.declOf_tree]

/-- A group tells what was written, each declaration with the documentation above it. -/
theorem GroupTokens.Tells.declsOfItem_tree
    {structs : List StructText}
    {group : GroupTokens}
    (told : group.Tells structs)
    (text : List Char)
    (package dir : String)
    (above : List Sibling) :
    declsOfItem text package dir group.tree above =
      structs.map (StructText.decl package ⟨dir⟩) := by
  obtain ⟨openedBelow, opening⟩ := told.opening
  obtain ⟨bound, descends⟩ := told.specs
  let entries : List Tree := .leaf group.opening ::
    (group.specs.map SpecTokens.tree ++ [.leaf group.closing])
  have grouped : entries.any (fun tree => tree.leafText? == some "(") = true := by
    have spelt : (Tree.leaf group.opening).leafText? = some "(" := by
      rw [Tree.leafText?, opening.text]
    rw [List.any_cons, spelt]
    rfl
  have listed : Doc.withSiblings [] entries =
      Doc.withSiblings [] (group.specs.map SpecTokens.tree) := by
    have clean : Doc.withComments (.leaf group.opening) [] = [] := by
      have begins : (Tree.leaf group.opening).first? = some group.opening := rfl
      rw [Doc.withComments, begins]
      simp [told.clean]
    rw [Doc.withSiblings, clean, Doc.withSiblings_append_leaf]
  have unfolded : declsOfItem text package dir group.tree above =
      ((Doc.withSiblings [] (group.specs.map SpecTokens.tree)).filter fun pair =>
        isSpec pair.1).map fun pair =>
          declOf text package dir (Doc.above pair.1.startRow pair.2) pair.1 := by
    have children : declsOfItem text package dir group.tree above =
        ((Doc.withSiblings [] entries).filter fun pair => isSpec pair.1).map fun pair =>
          declOf text package dir (if entries.any (fun tree => tree.leafText? == some "(")
            then Doc.above pair.1.startRow pair.2
            else Doc.above group.tree.startRow above) pair.1 := rfl
    rw [children, grouped, listed]
    rfl
  rw [unfolded, ← List.flatMap_singleton' (Doc.withSiblings _ _), List.filter_flatMap,
    List.map_flatMap]
  refine Doc.flatMap_withSiblings descends (fun sibling none => by cases none)
    (fun spec => ⟨_, _, rfl⟩) (fun spec => rfl) SpecTokens.last?_tree
    fun struct spec inner toldSpec documented => ?_
  have kept : [(spec.tree, inner)].filter (fun pair => isSpec pair.1) = [(spec.tree, inner)] := rfl
  rw [kept, List.map_singleton, documented, toldSpec.declOf_tree]

/-- What is read of a file in which declarations stand behind a package clause. -/
theorem parseSource_of_itemsOf
    {package : Identifier}
    {clause : PackageTokens}
    {structs : List StructText}
    {contents : String}
    {trees : List Tree}
    (path : Path)
    (told : clause.Tells package)
    (items : itemsOf contents.toList = .ok (clause.tree :: trees))
    (read : ∀ dir, (Doc.withSiblings
        (.code clause.name.endRow :: Doc.withComments clause.tree []) trees).flatMap
          (fun pair => declsOfItem contents.toList package.text dir pair.1 pair.2) =
        structs.map (StructText.decl package.text ⟨dir⟩)) :
    parseSource path contents = .ok {
      path
      package := package.text
      decls := structs.map
        (StructText.decl package.text ⟨((path.parent?).map Path.text).getD ""⟩) } := by
  have noDecls (dir : String) : (Doc.withSiblings [] (clause.tree :: trees)).flatMap
      (fun pair => declsOfItem contents.toList package.text dir pair.1 pair.2) =
        structs.map (StructText.decl package.text ⟨dir⟩) := by
    rw [← read]
    rfl
  refine parseSource_eq_ok_iff.2 ⟨_, items, ?_⟩
  simp only [packageOf_eq told, noDecls]

/-- **Declarations are read back.**  A file of struct declarations, each below the lines of its
documentation, is read as exactly these, in order, whether each of them has a keyword of its own or
all of them are in one group. -/
theorem parseSource_text
    (path : Path)
    (package : Identifier)
    (structs : List StructText)
    (layout : Layout) :
    parseSource path (layout.text package structs) = .ok {
      path
      package := package.text
      decls := structs.map
        (StructText.decl package.text ⟨((path.parent?).map Path.text).getD ""⟩) } := by
  cases layout with
  | separate =>
      obtain ⟨clause, items, finish, bound, cut, told, below, descends, finished⟩ :=
        Layout.exists_separateTokens package structs
      have read : itemsOf (Layout.separate.text package structs).toList =
          .ok (clause.tree :: items.map ItemTokens.tree) :=
        itemsOf_of_readFile (cut ▸ readFile_separate told descends finished)
      refine parseSource_of_itemsOf path told read fun dir => ?_
      refine Doc.flatMap_withSiblings descends (.code below _) (fun item => ⟨_, _, rfl⟩)
        (fun item => rfl) ItemTokens.last?_tree fun struct item above toldItem documented => ?_
      exact toldItem.declsOfItem_tree documented _ _ _
  | grouped blankLines opensBelow =>
      obtain ⟨clause, group, finish, cut, told, groupTold, finished⟩ :=
        Layout.exists_groupedTokens package structs blankLines opensBelow
      have read : itemsOf ((Layout.grouped blankLines opensBelow).text package structs).toList =
          .ok [clause.tree, group.tree] :=
        itemsOf_of_readFile (cut ▸ readFile_grouped told groupTold finished)
      refine parseSource_of_itemsOf path told read fun dir => ?_
      have listed (siblings : List Sibling) : Doc.withSiblings siblings [group.tree] =
          [(group.tree, Doc.withComments group.tree siblings)] := rfl
      rw [listed, List.flatMap_singleton]
      exact groupTold.declsOfItem_tree _ _ _ _

end Go
end ConfigWiring
