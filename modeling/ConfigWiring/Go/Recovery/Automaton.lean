import ConfigWiring.Go.Recovery.Production
import Std.Data.HashMap

/-!
# The automaton of a grammar

A state says how far the constructs have been read that may be going on at a place,
and which terminals may follow each of them.  The state decides for every terminal
what can be done: read it, sum up what has been read, or neither.  States are worked
out when they are first visited.

Where a state allows more than one thing, ranks and sides settle what they can;
otherwise all of them are done.
-/

namespace ConfigWiring
namespace Go
namespace Recovery

/-- What can be done at a terminal. -/
inductive Action where
  /-- Read the terminal and go on in another state.  The flag tells that this only
  repeats what summing up does as well. -/
  | shift (target : Nat) (repeats : Bool)
  /-- Sum up the parts of a production. -/
  | reduce (production : Nat)
  /-- Read over the terminal. -/
  | pass
  /-- The whole text has been read. -/
  | accept
  /-- Look for a place at which reading can go on. -/
  | resume
  deriving DecidableEq, Repr, Inhabited

namespace Action

/-- The production that is summed up, if one is. -/
def production? : Action -> Option Nat
  | reduce production => some production
  | _ => none

end Action

/-- How far the constructs have been read that may be going on at a place: positions
in productions in order, each with the terminals that may follow. -/
structure Kernel where
  entries : List (Nat × Nat × TerminalSet)
  deriving DecidableEq, Repr, Hashable

namespace Kernel

/-- The entries with one more position, in order. -/
def insertInto (production position : Nat) (follow : TerminalSet) :
    List (Nat × Nat × TerminalSet) -> List (Nat × Nat × TerminalSet)
  | [] => [(production, position, follow)]
  | (production', position', follow') :: rest =>
      if production = production' && position = position' then
        (production, position, follow.union follow') :: rest
      else if production < production' || (production = production' && position < position') then
        (production, position, follow) :: (production', position', follow') :: rest
      else (production', position', follow') :: insertInto production position follow rest

/-- The kernel with one more position. -/
def insert (kernel : Kernel) (production position : Nat) (follow : TerminalSet) : Kernel :=
  ⟨insertInto production position follow kernel.entries⟩

end Kernel

/-- What a state decides. -/
structure Table where
  /-- What can be done at each terminal. -/
  actions : Array (List Action)
  /-- The state behind each head. -/
  moves : Std.HashMap Nat Nat
  /-- The terminals that are looked for. -/
  sought : TerminalSet
  /-- Whether reserved words are no identifiers here. -/
  reserves : Bool

namespace Table

/-- What can be done at a terminal. -/
def actionsAt (table : Table) (terminal : Nat) : List Action := table.actions.getD terminal []

/-- The state behind a terminal that is read. -/
def shiftTarget? (table : Table) (terminal : Nat) : Option Nat :=
  match (table.actionsAt terminal).getLast? with
  | some (.shift target _) => some target
  | _ => none

/-- Whether a terminal that does not end the text makes the state sum up first. -/
def reducesAt (table : Table) (terminal : Nat) : Bool :=
  ((table.actionsAt terminal).head?.bind Action.production?).isSome

end Table

/-! ## What may follow -/

namespace Productions

/-- The terminals that may follow behind the symbol at a position. -/
def followBehind (grammar : Productions) (production : Production) (position : Nat)
    (follow : TerminalSet) : TerminalSet :=
  match production.symbol? (position + 1) with
  | some next => beginningOf grammar.beginnings next
  | none => follow

/-- Note that some terminals may follow a head; the head is looked at again if this
is new. -/
def noteFollow (noted : Array (Option TerminalSet) × List Nat) (head : Nat)
    (follow : TerminalSet) : Array (Option TerminalSet) × List Nat :=
  let index := head - Symbol.headOffset
  match noted.1.getD index none with
  | some before =>
      let after := before.union follow
      if after = before then noted else (noted.1.setIfInBounds index (some after), head :: noted.2)
  | none => (noted.1.setIfInBounds index (some follow), head :: noted.2)

/-- The terminals that may follow each head that may begin at a place, from the
heads that remain to be looked at. -/
def closeFollows (grammar : Productions) :
    Nat -> Array (Option TerminalSet) × List Nat -> Array (Option TerminalSet)
  | 0, (follows, _) => follows
  | _ + 1, (follows, []) => follows
  | bound + 1, (follows, head :: rest) =>
      let index := head - Symbol.headOffset
      let own := (follows.getD index none).getD .empty
      closeFollows grammar bound
        ((grammar.leads.getD index []).foldl
          (fun noted (lead, follow) => noteFollow noted lead (follow.getD own))
          (follows, rest))

/-- The terminals that may follow each head that may begin in a state. -/
def follows (grammar : Productions) (kernel : Kernel) : Array (Option TerminalSet) :=
  let start : Array (Option TerminalSet) × List Nat :=
    (Array.replicate grammar.ofHead.size none, [])
  let begun := kernel.entries.foldl
    (fun noted (number, position, follow) =>
      let production := grammar.all.getD number default
      match production.symbol? position with
      | some symbol =>
          if symbol < Symbol.headOffset then noted
          else noteFollow noted symbol (grammar.followBehind production position follow)
      | none => noted)
    start
  closeFollows grammar (grammar.ofHead.size * (Symbol.headOffset + 1)) begun

/-- All positions that may be going on in a state: those of the kernel and the
beginnings of what may begin there. -/
def positions (grammar : Productions) (kernel : Kernel) : List (Nat × Nat × TerminalSet) :=
  let begun := (grammar.follows kernel).toList.zipIdx.flatMap fun (follow, index) =>
    match follow with
    | some follow => (grammar.ofHead.getD index []).map fun number => (number, 0, follow)
    | none => []
  kernel.entries ++ begun

end Productions

/-! ## Settling conflicts -/

/-- What is known about the productions that can be summed up at a terminal. -/
structure Rivals where
  rank : Int
  sides : List (Option Side)
  deriving Repr, Inhabited

/-- What can be done at a terminal, with what is known about the productions. -/
structure Choice where
  actions : List Action
  rivals : Rivals
  deriving Inhabited

namespace Choice

/-- The choice with one more production to sum up; the higher rank wins. -/
def addProduction (grammar : Productions) (number : Nat) (choice : Choice) : Choice :=
  let production := grammar.all.getD number default
  let action : Action :=
    if production.head = Productions.wholeFile then .accept else .reduce number
  let rank := production.rankBefore production.length
  let side := production.sideBefore production.length
  if choice.actions.isEmpty || rank > choice.rivals.rank then ⟨[action], ⟨rank, [side]⟩⟩
  else if rank < choice.rivals.rank then choice
  else
    let known := choice.actions.any fun other =>
      other = action ||
        match other.production? with
        | some known => (grammar.all.getD known default).sameForm production
        | none => false
    ⟨if known then choice.actions else choice.actions ++ [action],
      ⟨rank, side :: choice.rivals.sides⟩⟩

/-- The positions of a kernel behind which a terminal may be read, and the heads of
the productions that it may be read in or summed up in front of. -/
def contenders (grammar : Productions) (kernel : Kernel) (terminal : Nat) :
    List Int × List Nat :=
  kernel.entries.foldl
    (fun (ranks, heads) (number, position, follow) =>
      let production := grammar.all.getD number default
      match production.symbol? position with
      | some symbol =>
          if position > 0 &&
              (Productions.beginningOf grammar.beginnings symbol).contains terminal then
            (production.rankBefore position :: ranks, production.head :: heads)
          else (ranks, heads)
      | none =>
          if follow.contains terminal && production.head != Productions.wholeFile then
            (ranks, production.head :: heads)
          else (ranks, heads))
    ([], [])

/-- The actions at a terminal that can be both read and summed up in front of. -/
def settle (grammar : Productions) (kernel : Kernel) (terminal target : Nat)
    (choice : Choice) : List Action :=
  let (ranks, heads) := contenders grammar kernel terminal
  let repeats :=
    match heads with
    | head :: others => Productions.isRun head && others.all (· == head)
    | [] => false
  let shift := Action.shift target false
  if choice.actions.isEmpty then [shift]
  else if repeats then choice.actions ++ [.shift target true]
  else
    let lower := ranks.any (· < choice.rivals.rank)
    let higher := ranks.any (· > choice.rivals.rank)
    if higher && !lower then [shift]
    else if lower && !higher then choice.actions
    else if lower then choice.actions ++ [shift]
    else if choice.rivals.sides.all (· == some .left) then choice.actions
    else if choice.rivals.sides.all (· == some .right) then [shift]
    else choice.actions ++ [shift]

end Choice

/-! ## States -/

/-- A state, with what it decides once that has been worked out. -/
structure State where
  kernel : Kernel
  table : Option Table

/-- The states that have been met. -/
structure Automaton where
  states : Array State
  numbers : Std.HashMap Kernel Nat

namespace Automaton

/-- The state in which nothing fits. -/
def lost : Nat := 0

/-- The state at the start of a text. -/
def start : Nat := 1

/-- What is done in the state in which nothing fits: look for a place to go on. -/
def lostTable : Table where
  actions := ((List.range Symbol.headOffset).map fun terminal =>
    if terminal = Terminal.comment.code then [Action.pass]
    else if Terminal.soughtSet.contains terminal then [Action.resume]
    else []).toArray
  moves := {}
  sought := Terminal.soughtSet
  reserves := false

/-- The kernel at the start of a text. -/
def startKernel (grammar : Productions) : Kernel :=
  ⟨[(grammar.all.size - 1, 0, .single Terminal.finish.code)]⟩

/-- The automaton before any state has been visited. -/
def initial (grammar : Productions) : Automaton where
  states := #[⟨⟨[]⟩, some lostTable⟩, ⟨startKernel grammar, none⟩]
  numbers := Std.HashMap.emptyWithCapacity.insert (startKernel grammar) start

/-- The number of the state with a kernel. -/
def numberOf (automaton : Automaton) (kernel : Kernel) : Nat × Automaton :=
  match automaton.numbers[kernel]? with
  | some number => (number, automaton)
  | none =>
      let number := automaton.states.size
      (number, ⟨automaton.states.push ⟨kernel, none⟩, automaton.numbers.insert kernel number⟩)

/-- Note the position behind the next symbol of each position. -/
def successors (grammar : Productions) (positions : List (Nat × Nat × TerminalSet)) :
    Array Kernel :=
  positions.foldl
    (fun kernels (number, position, follow) =>
      match (grammar.all.getD number default).symbol? position with
      | some symbol =>
          let like := (grammar.likes.getD number #[]).getD (position + 1) number
          kernels.setIfInBounds symbol
            ((kernels.getD symbol ⟨[]⟩).insert like (position + 1) follow)
      | none => kernels)
    (Array.replicate (Symbol.headOffset + grammar.ofHead.size) ⟨[]⟩)

/-- The productions that can be summed up at each terminal. -/
def completions (grammar : Productions) (positions : List (Nat × Nat × TerminalSet)) :
    Array Choice :=
  positions.foldl
    (fun choices (number, position, follow) =>
      if (grammar.all.getD number default).length = position then
        follow.codes.foldl
          (fun choices terminal =>
            choices.setIfInBounds terminal
              ((choices.getD terminal default).addProduction grammar number))
          choices
      else choices)
    (Array.replicate Symbol.headOffset ⟨[], ⟨0, []⟩⟩)

/-- Give each kernel that is not empty the number of its state; the others get
none. -/
def enroll (kernels : Array Kernel) (automaton : Automaton) :
    List (Option Nat) × Automaton :=
  kernels.toList.foldr
    (fun kernel (numbers, automaton) =>
      if kernel.entries.isEmpty then (none :: numbers, automaton)
      else
        let (number, automaton) := automaton.numberOf kernel
        (some number :: numbers, automaton))
    ([], automaton)

/-- What a state decides. -/
def work (grammar : Productions) (kernel : Kernel) (automaton : Automaton) :
    Table × Automaton :=
  let positions := grammar.positions kernel
  let (numbers, automaton) := enroll (successors grammar positions) automaton
  let choices := completions grammar positions
  let actions := (List.range Symbol.headOffset).map fun terminal =>
    let choice := choices.getD terminal default
    match (numbers[terminal]?).join with
    | some target => choice.settle grammar kernel terminal target
    | none =>
        if choice.actions.isEmpty && terminal = Terminal.comment.code then [Action.pass]
        else choice.actions
  let valid := TerminalSet.ofCodes
    ((actions.zipIdx.filter fun (actions, _) => !actions.isEmpty).map (·.2))
  let identifier := TerminalSet.single Terminal.identifier.code
  let reserves := valid.meets identifier
  ({
    actions := actions.toArray
    moves := (numbers.zipIdx.drop Symbol.headOffset).foldl
      (fun moves (number, symbol) =>
        match number with
        | some number => moves.insert symbol number
        | none => moves)
      {}
    sought := if valid.meets Terminal.wordSet then valid.union identifier else valid
    reserves }, automaton)

/-- What a state decides, worked out on the first visit. -/
def visit (grammar : Productions) (number : Nat) (automaton : Automaton) : Table × Automaton :=
  match automaton.states[number]? with
  | none => (lostTable, automaton)
  | some state =>
      match state.table with
      | some table => (table, automaton)
      | none =>
          let (table, automaton) := work grammar state.kernel automaton
          (table, { automaton with
            states := automaton.states.setIfInBounds number ⟨state.kernel, some table⟩ })

end Automaton
end Recovery
end Go
end ConfigWiring
