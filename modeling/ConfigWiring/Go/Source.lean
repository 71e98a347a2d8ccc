import ConfigWiring.Failure
import ConfigWiring.Go.Declaration
import ConfigWiring.Go.Doc
import ConfigWiring.Go.Language
import ConfigWiring.Go.Lexer
import ConfigWiring.Go.Recovery.Growth
import ConfigWiring.Go.Recovery.Items
import ConfigWiring.Go.Recovery.Parser

/-!
# Source files

A file gives its package and the types that it declares at the top level, grouped or not.

## Items

A file is read by plain rules first.  They are quick and never accept more than they
should, but they leave some unusual texts undecided; such a text is read in spite of
its faults, which then tells where it is broken or what its items are.
-/

namespace ConfigWiring
namespace Go

/-- The items of a text that the plain rules leave undecided. -/
def recoverItems (text : List Char) : Except SyntaxError (List Tree) :=
  match Recovery.Parser.grow text with
  | none => .error ⟨0, none⟩
  | some tree =>
      match tree.fault? with
      | some fault => .error fault
      | none => .ok (tree.items (.ofChars text))

/-- The items of a text. -/
def itemsOf (text : List Char) : Except SyntaxError (List Tree) :=
  match readFile (tokenize text) with
  | some items => .ok items
  | none => recoverItems text

/-- What the plain rules read is not recovered. -/
theorem itemsOf_of_readFile
    {text : List Char}
    {items : List Tree}
    (read : readFile (tokenize text) = some items) :
    itemsOf text = .ok items := by
  unfold itemsOf
  rw [read]

/-!
## Declarations

A type of a group is documented by the comments above it, any other type
by those above the keyword.
-/

open Text

/-- The text of a tag without its quotes and, between double quotes, without the
backslashes in front of quotes and backslashes. -/
def tagText (token : Token) : String :=
  if token.kind = .raw then
    String.ofList (trimWhile (· == Char.ofNat 96) token.text)
  else
    let body := (token.text.drop 1).dropLast
    String.ofList
      (replaceAll ['\\', '\\'] ['\\'] (replaceAll ['\\', '"'] ['"'] body))

/-- The name of a field that consists of a type alone: the last name of the type,
without its package and its arguments. -/
def embeddedName (type : List Char) : String :=
  let bare := (trim type).dropWhile (· == '*')
  let withoutArguments := bare.takeWhile (· != '[')
  String.ofList (trim ((splitAll '.' withoutArguments).getLast?.getD []))

namespace Tree

/-- The part of a text that a tree covers. -/
def spelling (text : List Char) (tree : Tree) : List Char :=
  match tree.first?, tree.last? with
  | some first, some last => (text.drop first.offset).take (last.stop - first.offset)
  | _, _ => []

/-- The children of a node. -/
def children : Tree -> List Tree
  | leaf _ => []
  | node _ children => children

/-- Whether a tree is a node of the given kind. -/
def isKind (kind : NodeKind) : Tree -> Bool
  | leaf _ => false
  | node kind' _ => kind' == kind

/-- The only child, if it is of the given kind. -/
def only? (kind : NodeKind) (tree : Tree) : Option Tree :=
  match tree.children with
  | [child] => if child.isKind kind then some child else none
  | _ => none

/-- The first child of the given kind. -/
def child? (kind : NodeKind) (tree : Tree) : Option Tree :=
  tree.children.find? (isKind kind)

/-- The spelling of a leaf. -/
def leafText? : Tree -> Option String
  | leaf token => some (String.ofList token.text)
  | node _ _ => none

/-- The row on which a tree begins. -/
def startRow (tree : Tree) : Nat := (tree.first?.map Token.startRow).getD 0

end Tree

/-- The fields that one field declaration adds to a struct. -/
def fieldsOf (text : List Char) (declaration : Tree) : List Field :=
  let tag := match (declaration.child? .tag).bind Tree.first? with
    | some token => tagText token
    | none => ""
  match declaration.child? .names with
  | some names =>
      (names.tokens.filter Token.isIdentifier).map fun token => ⟨String.ofList token.text, tag⟩
  | none =>
      match declaration.child? .embedded with
      | some type => [⟨embeddedName (type.spelling text), tag⟩]
      | none => []

/-- The struct type of a specification, if its type is one. -/
def structOf? (spec : Tree) : Option Tree :=
  if spec.isKind .typeSpec then
    (spec.child? .type).bind (Tree.only? .structType)
  else none

/-- The declaration of one specification. -/
def declOf (text : List Char) (package dir doc : String) (spec : Tree) : TypeDecl :=
  let struct? := structOf? spec
  { package
    dir := ⟨dir⟩
    name := (spec.children.head?.bind Tree.leafText?).getD ""
    doc
    shape := if struct?.isSome then .struct else .other
    fields := match struct? with
      | some type => (type.children.filter (Tree.isKind .field)).flatMap (fieldsOf text)
      | none => [] }

/-- Whether a tree is a type specification or an alias. -/
def isSpec (tree : Tree) : Bool := tree.isKind .typeSpec || tree.isKind .typeAlias

/-- The declarations of an item, given the siblings above it. -/
def declsOfItem (text : List Char) (package dir : String) (item : Tree)
    (siblings : List Sibling) : List TypeDecl :=
  match item.only? .typeDeclaration with
  | none => []
  | some declaration =>
      let behindKeyword := declaration.children.drop 1
      let grouped := behindKeyword.any fun tree => tree.leafText? == some "("
      let outer := Doc.above item.startRow siblings
      ((Doc.withSiblings [] behindKeyword).filter fun (tree, _) => isSpec tree).map
        fun (spec, inner) =>
          declOf text package dir (if grouped then Doc.above spec.startRow inner else outer) spec

/-- The name in the first package clause that has one. -/
def packageOf (items : List Tree) : String :=
  (items.findSome? fun item =>
    (item.only? .package).bind fun clause =>
      (clause.tokens.getLast?).map fun token => String.ofList token.text).getD ""

/-- Read the declarations of a file.  The path names the file in errors and gives
the directory of its declarations. -/
def parseSource (path : Path) (contents : String) : Except Failure SourceFile :=
  let text := contents.toList
  match itemsOf text with
  | .error error =>
      .error (.parse (path.text ++ ":" ++ toString (error.row + 1)) error.message)
  | .ok items =>
      let package := packageOf items
      let dir := ((path.parent?).map Path.text).getD ""
      .ok {
        path
        package
        decls := (Doc.withSiblings [] items).flatMap fun (item, siblings) =>
          declsOfItem text package dir item siblings }

/-- The declarations of a file are read exactly if its items are. -/
theorem parseSource_eq_ok_iff
    {path : Path}
    {contents : String}
    {file : SourceFile} :
    parseSource path contents = .ok file ↔
      ∃ items, itemsOf contents.toList = .ok items ∧ file = {
        path
        package := packageOf items
        decls := (Doc.withSiblings [] items).flatMap fun (item, siblings) =>
          declsOfItem contents.toList (packageOf items) (((path.parent?).map Path.text).getD "")
            item siblings } := by
  unfold parseSource
  cases itemised : itemsOf contents.toList with
  | error error => simp only [itemised, reduceCtorEq, false_and, exists_false]
  | ok items => simp only [itemised, Except.ok.injEq, exists_eq_left', eq_comm]

end Go
end ConfigWiring
