import ConfigWiring.Go.Recovery.Automaton
import ConfigWiring.Go.Recovery.Scanner

/-!
# Trees with faults

A tree sums up a part of a text.  Besides constructs and terminals it can hold faults:
parts that fit nowhere and terminals that are missing.  Every tree knows its cost,
which tells how far its text is from valid text: a fault costs by the number and the
length of the parts that are left out.

A tree of a whole text shows where the text is broken: where parts are left out, or
where a terminal is missing.  The fault that comes first in the text is the one to
tell.  A missing line break shows nowhere, so a text in which nothing else is wrong
counts as whole.
-/

namespace ConfigWiring
namespace Go

namespace Recovery

/-- What a tree stands for. -/
inductive Label where
  /-- A terminal or a construct, by its number. -/
  | symbol (code : Nat)
  /-- Parts that fit nowhere. -/
  | fault
  /-- Parts that have been left out so far. -/
  | leftOut
  deriving DecidableEq, Repr, Inhabited

namespace Label

/-- Whether the tree is a node of its own. -/
def isShown : Label -> Bool
  | symbol code => Productions.shown.getD code false
  | fault => true
  | leftOut => false

/-- Whether the tree holds parts that do not belong to a construct. -/
def isFaulty : Label -> Bool
  | symbol _ => false
  | fault | leftOut => true

/-- A number by which labels are ordered. -/
def order : Label -> Nat
  | symbol code => code
  | fault => Productions.wholeFile + 1
  | leftOut => Productions.wholeFile + 2

end Label

/-- How much text something takes. -/
structure Extent where
  chars : Nat
  bytes : Nat
  rows : Nat
  deriving DecidableEq, Repr, Inhabited

namespace Extent

/-- No text. -/
def none : Extent := ⟨0, 0, 0⟩

/-- One text behind another. -/
def add (first second : Extent) : Extent :=
  ⟨first.chars + second.chars, first.bytes + second.bytes, first.rows + second.rows⟩

/-- The text between two places. -/
def between (source : SourceText) (start stop : Nat) : Extent where
  chars := stop - start
  bytes := source.bytes.getD stop 0 - source.bytes.getD start 0
  rows := source.rows.getD stop 0 - source.rows.getD start 0

end Extent

/-- What is known about a tree. -/
structure Facts where
  label : Label
  /-- Whether the tree may stand anywhere, like a comment. -/
  extra : Bool
  /-- Whether the terminal is missing from the text. -/
  missing : Bool
  /-- Whether the terminal is spelled like a word of the language. -/
  isWord : Bool
  /-- The place of the first character of a terminal. -/
  start : Nat
  /-- The text between what stands before and the tree. -/
  padding : Extent
  /-- The text of the tree. -/
  size : Extent
  cost : Nat
  weight : Int
  /-- The number of nodes inside the tree. -/
  inside : Nat
  /-- The number of nodes directly below the tree. -/
  below : Nat
  /-- The names that the parts of a construct are given. -/
  names : List (Option String)
  deriving Repr, Inhabited

/-- A tree that has grown over a part of a text. -/
inductive Growth where
  | mk (facts : Facts) (children : List Growth)
  deriving Inhabited

/-! ## Costs -/

/-- What every fault costs. -/
def faultCost : Nat := 500

/-- What each node costs that is left out. -/
def nodeCost : Nat := 100

/-- What each byte costs that is left out. -/
def byteCost : Nat := 1

/-- What each row costs that is left out. -/
def rowCost : Nat := 30

/-- What a missing terminal costs. -/
def missingCost : Nat := 610

/-- What it costs to leave out a text with a number of nodes. -/
def omissionCost (extent : Extent) (nodes : Nat) : Nat :=
  byteCost * extent.bytes + rowCost * extent.rows + nodeCost * nodes

namespace Growth

/-- What is known about a tree. -/
def facts : Growth -> Facts
  | mk facts _ => facts

/-- The trees of which a tree consists. -/
def children : Growth -> List Growth
  | mk _ children => children

/-- The text in front of a tree together with its own. -/
def total (tree : Growth) : Extent := tree.facts.padding.add tree.facts.size

/-- Whether a tree is a fault. -/
def isFault (tree : Growth) : Bool := tree.facts.label == .fault

/-- The number of nodes of a tree, where parts that are left out count as one. -/
def count (tree : Growth) : Nat :=
  tree.facts.inside +
    if tree.facts.label.isShown || tree.facts.label == .leftOut then 1 else 0

/-- The tree as one that may stand anywhere. -/
def asExtra : Growth -> Growth
  | mk facts children => mk { facts with extra := true } children

/-- The tree with more weight. -/
def addWeight (weight : Int) : Growth -> Growth
  | mk facts children => mk { facts with weight := facts.weight + weight } children

/-- The tree under another label. -/
def relabel (label : Label) : Growth -> Growth
  | mk facts children => mk { facts with label } children

/-- The tree of a terminal, or of text that is no terminal. -/
def leaf (source : SourceText) (label : Label) (before start stop : Nat) (isWord : Bool) :
    Growth :=
  mk {
    label
    extra := label == .symbol Terminal.finish.code
    missing := false
    isWord
    start
    padding := .between source before start
    size := .between source start stop
    cost := 0
    weight := 0
    inside := 0
    below := 0
    names := [] } []

/-- The tree of a terminal that is missing at a place. -/
def missing (terminal place : Nat) : Growth :=
  mk {
    label := .symbol terminal
    extra := false
    missing := true
    isWord := false
    start := place
    padding := .none
    size := .none
    cost := missingCost
    weight := 0
    inside := 0
    below := 0
    names := [] } []

/-- What a tree adds to the cost of the fault that it is part of. -/
def costAsPart (tree : Growth) : Nat :=
  let facts := tree.facts
  if facts.extra || (tree.isFault && tree.children.isEmpty) then 0
  else if facts.label.isShown then nodeCost
  else nodeCost * facts.below

/-- The facts about a tree with one more part behind the others.  The flag tells
whether the part is given a name, and the other whether it is the first one. -/
def addPart (named isFirst : Bool) (facts : Facts) (part : Growth) : Facts :=
  let inner := part.facts
  let shown := named || inner.label.isShown
  { facts with
    padding := if isFirst then inner.padding else facts.padding
    size := if isFirst then inner.size else facts.size.add part.total
    cost := facts.cost + (if inner.label == .leftOut then 0 else inner.cost) +
      (if facts.label.isFaulty then part.costAsPart else 0)
    weight := facts.weight + inner.weight
    inside := facts.inside + inner.inside + (if shown then 1 else 0)
    below := facts.below + (if shown then 1 else inner.below) }

/-- The facts about a tree with further parts.  The names are those of the parts that
are still to come, and the flag tells whether none came before. -/
def addParts : List (Option String) -> Bool -> Facts -> List Growth -> Facts
  | _, _, facts, [] => facts
  | names, isFirst, facts, part :: parts =>
      if part.facts.extra then
        addParts names false (addPart false isFirst facts part) parts
      else
        addParts names.tail false (addPart names.head?.join.isSome isFirst facts part) parts

/-- The tree that consists of some parts. -/
def branch (label : Label) (names : List (Option String)) (extra : Bool)
    (parts : List Growth) : Growth :=
  let empty : Facts := {
    label
    extra
    missing := false
    isWord := false
    start := (parts.head?.map fun part => part.facts.start).getD 0
    padding := .none
    size := .none
    cost := 0
    weight := 0
    inside := 0
    below := 0
    names }
  let facts := addParts names true empty parts
  if label.isFaulty then
    mk { facts with cost := facts.cost + faultCost + omissionCost facts.size 0 } parts
  else mk facts parts

/-- The trees without the ones at the end that may stand anywhere, and those. -/
def splitExtras (trees : List Growth) : List Growth × List Growth :=
  let extras := (trees.reverse.takeWhile fun tree => tree.facts.extra).reverse
  (trees.take (trees.length - extras.length), extras)

/-! ## Choosing between trees -/

mutual

/-- How two trees of one text compare by what they stand for. -/
def compare : Growth -> Growth -> Ordering
  | mk facts children, mk facts' children' =>
      ((Ord.compare facts.label.order facts'.label.order).then
        (Ord.compare children.length children'.length)).then (compareAll children children')

/-- How two lists of trees compare. -/
def compareAll : List Growth -> List Growth -> Ordering
  | tree :: trees, tree' :: trees' => (compare tree tree').then (compareAll trees trees')
  | _, _ => .eq

end

/-- Whether another tree is better than the one at hand: one of lower cost, or of
greater weight. -/
def isBetter (tree other : Growth) : Bool :=
  if other.facts.cost != tree.facts.cost then other.facts.cost < tree.facts.cost
  else if other.facts.weight != tree.facts.weight then other.facts.weight > tree.facts.weight
  else tree.facts.cost > 0 || compare tree other == .gt

/-- Whether two trees may take each other's place. -/
def isLike (first second : Growth) : Bool :=
  first.facts.label == second.facts.label &&
    ((first.facts.cost > 0 && second.facts.cost > 0) ||
      (first.facts.padding.bytes == second.facts.padding.bytes &&
        first.facts.size.bytes == second.facts.size.bytes &&
        first.children.length == second.children.length &&
        first.facts.extra == second.facts.extra))

end Growth
end Recovery

/-! ## The first fault of a text -/

/-- Where a text is broken. -/
structure SyntaxError where
  /-- The row of the fault, counted from zero. -/
  row : Nat
  /-- What is missing there, if something is. -/
  missing : Option String
  deriving DecidableEq, Repr

namespace SyntaxError

/-- The wording of a syntax error. -/
def message (error : SyntaxError) : String :=
  match error.missing with
  | some terminal => "missing " ++ terminal
  | none => "invalid Go syntax"

end SyntaxError

namespace Recovery

/-- What a tree is called where it is missing and is given no name. -/
def Label.name : Label -> String
  | symbol code => (Terminal.array.getD code .finish).name
  | fault | leftOut => ""

namespace Growth

mutual

/-- The first fault of a tree in front of which some rows of the text end.  The name
is the one that the construct around the tree gives it. -/
def firstFault (name : Option String) (row : Nat) : Growth -> Option SyntaxError
  | mk facts parts =>
      let start := row + facts.padding.rows
      if facts.label == .fault then some ⟨start, none⟩
      else if facts.missing && (name.isSome || facts.label.isShown) then
        some ⟨start, some (name.getD facts.label.name)⟩
      else if facts.cost = 0 then none
      else firstFaultOf facts.names row parts

/-- The first fault of some parts.  The names are those that the parts which are no
extras are given. -/
def firstFaultOf (names : List (Option String)) (row : Nat) :
    List Growth -> Option SyntaxError
  | [] => none
  | part :: parts =>
      let isExtra := part.facts.extra
      match part.firstFault (if isExtra then none else names.head?.join) row with
      | some fault => some fault
      | none =>
          firstFaultOf (if isExtra then names else names.tail) (row + part.total.rows) parts

end

/-- Where the text of a whole tree is broken, if it is. -/
def fault? (tree : Growth) : Option SyntaxError := tree.firstFault none 0

end Growth
end Recovery

end Go
end ConfigWiring
