import ConfigWiring.Go.Grammar
import ConfigWiring.Go.Recovery.Growth

/-!
# The items of a tree

A tree that has grown over a whole text knows every construct.  What a file declares
can be read from its items: only what declares types stays a node, everything else
falls into its tokens.  Comments go with the token behind them.
-/

namespace ConfigWiring
namespace Go
namespace Recovery

namespace Label

/-- The construct that a tree stands for, if it stands for one. -/
def construct? : Label -> Option Construct
  | symbol code =>
      if code < Symbol.headOffset then none else Construct.all[code - Symbol.headOffset]?
  | fault | leftOut => none

/-- Whether a tree stands for a terminal. -/
def isTerminal : Label -> Bool
  | symbol code => code < Symbol.headOffset
  | fault | leftOut => false

/-- Whether a tree is a comment. -/
def isComment (label : Label) : Bool := label == .symbol Terminal.comment.code

end Label

/-- The kind of node that a construct is kept as, if it is kept. -/
def Construct.nodeKind? : Construct -> Option NodeKind
  | packageClause => some .package
  | typeDeclaration => some .typeDeclaration
  | typeSpec => some .typeSpec
  | typeAlias => some .typeAlias
  | typeParameterList => some .typeParameters
  | structType => some .structType
  | fieldDeclaration => some .field
  | _ => none

/-- The class of a string, if a construct is one. -/
def Construct.stringKind? : Construct -> Option TokenKind
  | rawString => some .raw
  | interpretedString => some .interpreted
  | _ => none

/-- The class of the token that a terminal is. -/
def Label.tokenKind (label : Label) : TokenKind :=
  if label == .symbol Terminal.identifier.code then .identifier else .mark

/-! ## Comments -/

/-- The comments in front of tokens, each group with the place of its token. -/
abbrev CommentGroups : Type := List (Nat × List Comment)

namespace Growth

mutual

/-- The terminals of a tree in order. -/
def terminals : Growth -> List Growth
  | mk facts [] => [mk facts []]
  | mk _ (part :: parts) => part.terminals ++ terminalsOf parts

/-- The terminals of some trees in order. -/
def terminalsOf : List Growth -> List Growth
  | [] => []
  | part :: parts => part.terminals ++ terminalsOf parts

end

/-- The place behind a terminal or a string. -/
def stop (tree : Growth) : Nat := tree.facts.start + tree.facts.size.chars

/-- The comment that a terminal is. -/
def comment (source : SourceText) (tree : Growth) : Comment where
  text := source.between tree.facts.start tree.stop
  startRow := source.rows.getD tree.facts.start 0
  endRow := source.rows.getD tree.stop 0

/-- The comments among some terminals, given those in front of them that are still
without a token. -/
def commentGroups (source : SourceText) : List Comment -> List Growth -> CommentGroups
  | _, [] => []
  | waiting, tree :: trees =>
      if tree.facts.label.isComment then
        commentGroups source (waiting ++ [tree.comment source]) trees
      else if !tree.facts.label.isShown || waiting.isEmpty then
        commentGroups source waiting trees
      else (tree.facts.start, waiting) :: commentGroups source [] trees

/-- The token that a tree is. -/
def token (source : SourceText) (comments : CommentGroups) (kind : TokenKind) (tree : Growth) :
    Token where
  kind
  text := source.between tree.facts.start tree.stop
  offset := tree.facts.start
  startRow := source.rows.getD tree.facts.start 0
  endRow := source.rows.getD tree.stop 0
  afterBreak := false
  comments := (comments.lookup tree.facts.start).getD []

/-! ## Parts -/

/-- A part of a construct, with the trees that are kept of it. -/
structure Part where
  label : Label
  trees : List Tree

namespace Part

/-- Whether the part is a string. -/
def isString (part : Part) : Bool := (part.label.construct?.bind Construct.stringKind?).isSome

/-- Whether the part is a single token. -/
def isToken (part : Part) : Bool := part.label.isTerminal

/-- The trees of some parts. -/
def allTrees (parts : List Part) : List Tree := parts.flatMap trees

/-- The parts of a type specification as the children of its node: what stands last
is the type. -/
def inSpec (parts : List Part) : List Tree :=
  allTrees parts.dropLast ++ [.node .type (allTrees (parts.drop (parts.length - 1)))]

/-- The parts of a field declaration without a tag as the children of its node.  An
embedded type stands alone or behind a star. -/
def inField (parts : List Part) : List Tree :=
  let last := allTrees (parts.drop (parts.length - 1))
  let front := allTrees parts.dropLast
  match parts with
  | [_] => [.node .embedded last]
  | first :: _ =>
      if first.label == .symbol (Terminal.spelled "*").code then front ++ [.node .embedded last]
      else .node .names front :: last
  | [] => []

/-- The parts of a construct as the children of its node. -/
def inNode (kind : NodeKind) (parts : List Part) : List Tree :=
  match kind with
  | .typeSpec | .typeAlias => inSpec parts
  | .field =>
      let types := parts.filter fun part => !part.isString
      let tags := parts.filter isString
      inField types ++ tags.map fun tag => .node .tag tag.trees
  | _ => allTrees parts

end Part

mutual

/-- The parts that a tree adds to the construct around it: itself, or what it sums
up if it is no node of its own. -/
def parts (source : SourceText) (comments : CommentGroups) : Growth -> List Part
  | mk facts inner =>
      let tree := mk facts inner
      let below := partsOf source comments inner
      if facts.label.isTerminal then
        if facts.label.isComment || !facts.label.isShown then []
        else [⟨facts.label, [.leaf (tree.token source comments facts.label.tokenKind)]⟩]
      else
        match facts.label.construct? with
        | none => below
        | some construct =>
            match construct.stringKind?, construct.nodeKind? with
            | some kind, _ => [⟨facts.label, [.leaf (tree.token source comments kind)]⟩]
            | none, some kind => [⟨facts.label, [.node kind (Part.inNode kind below)]⟩]
            | none, none =>
                if construct.isShown then [⟨facts.label, Part.allTrees below⟩] else below

/-- The parts that some trees add to the construct around them. -/
def partsOf (source : SourceText) (comments : CommentGroups) : List Growth -> List Part
  | [] => []
  | tree :: trees => tree.parts source comments ++ partsOf source comments trees

end

/-- The items of the tree of a whole text. -/
def items (source : SourceText) (tree : Growth) : List Tree :=
  let comments := commentGroups source [] tree.terminals
  (partsOf source comments tree.children).flatMap fun part =>
    if part.isToken then part.trees else [.node .item part.trees]

end Growth
end Recovery
end Go
end ConfigWiring
