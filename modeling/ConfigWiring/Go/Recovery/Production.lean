import ConfigWiring.Go.Recovery.Definition

/-!
# Productions

Each construct is spelled out as a list of alternatives, and each alternative as a
row of steps.  A step carries the rank and the side that hold for it, so that two
readings can be compared where they part.  What is repeated in a phrase becomes a
symbol of its own, which is either the repeated phrase or two such symbols.

Symbols are numbered: first the terminals, then the constructs, then the runs.
-/

namespace ConfigWiring
namespace Go
namespace Recovery

/-- What stands for a part of a text in a production. -/
inductive Symbol where
  | terminal (terminal : Terminal)
  | construct (construct : Construct)
  /-- A phrase one or more times. -/
  | run (phrase : Phrase)
  deriving DecidableEq, Repr

/-- A place in an alternative. -/
structure Step where
  symbol : Symbol
  rank : Int
  side : Option Side
  name : Option String
  deriving DecidableEq, Repr

/-- One way to spell out a phrase. -/
structure Alternative where
  steps : List Step
  weight : Int
  deriving DecidableEq, Repr

namespace Alternative

/-- The alternative with its last step changed. -/
def changeLast (change : Step -> Step) (alternative : Alternative) : Alternative :=
  match alternative.steps.getLast? with
  | some last => { alternative with steps := alternative.steps.dropLast ++ [change last] }
  | none => alternative

/-- The weight that is farther from zero. -/
def heavier (first second : Int) : Int := if second.natAbs > first.natAbs then second else first

/-- One alternative behind another. -/
def append (first second : Alternative) : Alternative :=
  ⟨first.steps ++ second.steps, heavier first.weight second.weight⟩

end Alternative

namespace Phrase

/-- The ways to spell out a phrase.  The rank, the side and the name are those of
the phrase around it, which hold again behind it unless it stands at the end. -/
def alternatives (rank : Int) (side : Option Side) (name : Option String) :
    Bool -> Phrase -> List Alternative
  | _, .nothing => [⟨[], 0⟩]
  | _, .terminal symbol => [⟨[⟨.terminal symbol, rank, side, name⟩], 0⟩]
  | _, .construct symbol => [⟨[⟨.construct symbol, rank, side, name⟩], 0⟩]
  | _, .repeated phrase => [⟨[⟨.run phrase, rank, side, name⟩], 0⟩]
  | atEnd, .both first second =>
      (first.alternatives rank side name false).flatMap fun front =>
        (second.alternatives rank side name atEnd).map front.append
  | atEnd, .either first second =>
      first.alternatives rank side name atEnd ++ second.alternatives rank side name atEnd
  | atEnd, .ranked inner phrase =>
      let spelled := phrase.alternatives inner side name atEnd
      if atEnd then spelled else spelled.map (.changeLast fun step => { step with rank })
  | atEnd, .grouped inner phrase =>
      let spelled := phrase.alternatives rank (some inner) name atEnd
      if atEnd then spelled else spelled.map (.changeLast fun step => { step with side })
  | atEnd, .weighted weight phrase =>
      (phrase.alternatives rank side name atEnd).map fun alternative =>
        { alternative with weight := Alternative.heavier weight alternative.weight }
  | atEnd, .renamed inner phrase => phrase.alternatives rank side (some inner) atEnd

/-- The phrases that are repeated in a phrase. -/
def runs : Phrase -> List Phrase
  | .nothing | .terminal _ | .construct _ => []
  | .repeated phrase => phrase.runs ++ [phrase]
  | .both first second | .either first second => first.runs ++ second.runs
  | .ranked _ phrase | .grouped _ phrase | .weighted _ phrase | .renamed _ phrase => phrase.runs

end Phrase

namespace Symbol

/-- The symbols that are spelled out, constructs before runs. -/
def heads : List Symbol :=
  Construct.all.map construct ++
    ((Construct.all.flatMap fun head => head.phrase.runs).eraseDups).map run

/-- The ways to spell out a symbol. -/
def alternatives : Symbol -> List Alternative
  | .terminal _ => []
  | .construct inner => (inner.phrase.alternatives 0 none none true).eraseDups
  | .run phrase =>
      let step : Step := ⟨run phrase, 0, none, none⟩
      (⟨[step, step], 0⟩ :: phrase.alternatives 0 none none true).eraseDups

/-- The number of the first symbol that is no terminal. -/
def headOffset : Nat := Terminal.all.length

/-- The number of a symbol. -/
def code : Symbol -> Nat
  | .terminal inner => inner.code
  | symbol => headOffset + heads.findIdx (· == symbol)

/-- Whether a symbol is a node of its own in a tree. -/
def isShown : Symbol -> Bool
  | .terminal inner => inner.isShown
  | .construct inner => inner.isShown
  | .run _ => false

end Symbol

/-- An alternative of a symbol, with its symbols as numbers. -/
structure Production where
  /-- The number of the symbol that is spelled out. -/
  head : Nat
  symbols : Array Nat
  ranks : Array Int
  sides : Array (Option Side)
  /-- The names that the parts are given, as far as they are renamed. -/
  names : List (Option String)
  weight : Int
  deriving DecidableEq, Repr, Inhabited

namespace Production

/-- The number of parts. -/
def length (production : Production) : Nat := production.symbols.size

/-- The symbol at a position. -/
def symbol? (production : Production) (position : Nat) : Option Nat :=
  production.symbols[position]?

/-- The rank that holds in front of a position. -/
def rankBefore (production : Production) (position : Nat) : Int :=
  if position = 0 then 0 else production.ranks.getD (position - 1) 0

/-- The side to which the parts in front of a position group. -/
def sideBefore (production : Production) (position : Nat) : Option Side :=
  if position = 0 then none else production.sides.getD (position - 1) none

/-- Whether two productions give trees of the same form. -/
def sameForm (first second : Production) : Bool :=
  first.head == second.head && first.length == second.length &&
    first.weight == second.weight && first.names == second.names

/-- Whether two productions are alike from the part in front of a position on. -/
def sameFrom (position : Nat) (first second : Production) : Bool :=
  first.sameForm second &&
    (first.symbols.toList.drop position == second.symbols.toList.drop position) &&
    (first.ranks.toList.drop (position - 1) == second.ranks.toList.drop (position - 1)) &&
    (first.sides.toList.drop (position - 1) == second.sides.toList.drop (position - 1))

end Production

/-! ## The grammar in numbers -/

/-- The productions of a grammar with what follows from them. -/
structure Productions where
  all : Array Production
  /-- The productions of each head, from the head with the lowest number on. -/
  ofHead : Array (List Nat)
  /-- The terminals with which each head may begin. -/
  beginnings : Array TerminalSet
  /-- For each head the heads with which it may begin, each with the terminals that
  may follow there; nothing if those that may follow the head itself may. -/
  leads : Array (List (Nat × Option TerminalSet))
  /-- For each production and position the first production that is alike from
  there on. -/
  likes : Array (Array Nat)

namespace Productions

/-- The head that stands for a whole file, which is spelled out by the last
production. -/
def wholeFile : Nat := Symbol.headOffset + Symbol.heads.length

/-- The productions of all heads. -/
def listed : List Production :=
  (Symbol.heads.zipIdx.flatMap fun (head, index) =>
    head.alternatives.map fun alternative => {
      head := Symbol.headOffset + index
      symbols := (alternative.steps.map fun step => step.symbol.code).toArray
      ranks := (alternative.steps.map Step.rank).toArray
      sides := (alternative.steps.map Step.side).toArray
      names := alternative.steps.map Step.name
      weight := alternative.weight : Production }) ++
  [{ head := wholeFile, symbols := #[Symbol.headOffset], ranks := #[0], sides := #[none],
     names := [none], weight := 0 }]

/-- The terminals with which a symbol may begin. -/
def beginningOf (beginnings : Array TerminalSet) (symbol : Nat) : TerminalSet :=
  if symbol < Symbol.headOffset then .single symbol
  else beginnings.getD (symbol - Symbol.headOffset) .empty

/-- The beginnings of the heads, with those added that follow from the productions. -/
def enlarge (productions : List Production) (beginnings : Array TerminalSet) :
    Array TerminalSet :=
  productions.foldl
    (fun beginnings production =>
      match production.symbol? 0 with
      | some first =>
          let index := production.head - Symbol.headOffset
          beginnings.setIfInBounds index
            ((beginnings.getD index .empty).union (beginningOf beginnings first))
      | none => beginnings)
    beginnings

/-- The beginnings of the heads after a number of rounds. -/
def beginningsAfter (productions : List Production) : Nat -> Array TerminalSet
  | 0 => Array.replicate (Symbol.heads.length + 1) .empty
  | rounds + 1 =>
      let before := beginningsAfter productions rounds
      enlarge productions before

/-- The head with which a production begins, if it begins with one. -/
def leadOf? (beginnings : Array TerminalSet) (production : Production) :
    Option (Nat × Option TerminalSet) :=
  match production.symbol? 0 with
  | some first =>
      if first < Symbol.headOffset then none
      else some (first, (production.symbol? 1).map (beginningOf beginnings))
  | none => none

/-- The first of some productions that is like a given one from a position on. -/
def likeOf (candidates : List (Production × Nat)) (production : Production) (position : Nat) :
    Nat :=
  match candidates.find? fun (other, _) => other.sameFrom position production with
  | some (_, number) => number
  | none => 0

/-- The grammar of Go. -/
def go : Productions :=
  let numbered := listed.zipIdx
  let grouped := (List.range (Symbol.heads.length + 1)).map fun index =>
    numbered.filter fun (production, _) => production.head == Symbol.headOffset + index
  let groups := grouped.toArray
  let beginnings := beginningsAfter listed 24
  {
    all := listed.toArray
    ofHead := (grouped.map fun group => group.map (·.2)).toArray
    beginnings
    leads := (grouped.map fun group =>
      (group.filterMap fun (production, _) => leadOf? beginnings production).eraseDups).toArray
    likes := (listed.map fun production =>
      ((List.range (production.length + 1)).map
        (likeOf (groups.getD (production.head - Symbol.headOffset) []) production)).toArray).toArray
  }

/-- Which symbols are nodes of their own in a tree. -/
def shown : Array Bool :=
  ((Terminal.all.map Symbol.terminal ++ Symbol.heads).map Symbol.isShown).toArray

/-- Whether a head is a run. -/
def isRun (head : Nat) : Bool :=
  Symbol.headOffset + Construct.all.length ≤ head && head < wholeFile

end Productions
end Recovery
end Go
end ConfigWiring
