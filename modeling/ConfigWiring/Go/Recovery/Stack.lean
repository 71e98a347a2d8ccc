import ConfigWiring.Go.Recovery.Growth

/-!
# Readings side by side

A text that can be read in several ways is read in all of them side by side.  The
readings share what they have in common: their stacks form a graph, in which a node
leads back to several others where readings have met again.  Each reading is known by
its number; the most promising one comes first.
-/

namespace ConfigWiring
namespace Go
namespace Recovery

/-- A way back from a node of the graph: the node before and the tree in between;
where reading got lost there is no tree. -/
structure Link where
  node : Nat
  tree : Option Growth
  deriving Inhabited

/-- A node of the graph. -/
structure Node where
  state : Nat
  links : List Link
  /-- The text up to here. -/
  place : Extent
  cost : Nat
  weight : Int
  /-- The number of nodes of the trees up to here. -/
  count : Nat
  deriving Inhabited

/-- Whether a reading goes on. -/
inductive Status where
  | active
  /-- The reading does not know what to do with a terminal. -/
  | paused (terminal : Growth)
  | halted
  deriving Inhabited

namespace Status

/-- Whether a reading goes on. -/
def isActive : Status -> Bool
  | active => true
  | _ => false

/-- Whether a reading is paused. -/
def isPaused : Status -> Bool
  | paused _ => true
  | _ => false

/-- Whether a reading has been given up. -/
def isHalted : Status -> Bool
  | halted => true
  | _ => false

end Status

/-- A state that a reading was in before it got lost. -/
structure Landmark where
  place : Extent
  /-- The number of trees read since. -/
  depth : Nat
  state : Nat
  deriving DecidableEq, Repr

/-- The end of a reading. -/
structure Head where
  node : Nat
  status : Status
  /-- The count of nodes when the reading got lost for the last time. -/
  countAtFault : Nat
  /-- The states before the reading got lost. -/
  landmarks : Option (List Landmark)
  deriving Inhabited

/-- All readings of a text. -/
structure Readings where
  source : SourceText
  automaton : Automaton
  nodes : Array Node
  heads : Array Head
  /-- The best tree of the whole text so far. -/
  finished : Option Growth
  /-- How often the end of the text has been reached. -/
  arrivals : Nat

/-- What works on readings. -/
abbrev Work : Type -> Type := StateM Readings

/-- Some trees that have been taken off a stack, and the reading that ends below
them. -/
structure Slice where
  trees : List Growth
  reading : Nat

namespace Readings

/-- The only reading of a text before its start. -/
def initial (source : SourceText) : Readings where
  source
  automaton := .initial Productions.go
  nodes := #[⟨Automaton.start, [], .none, 0, 0, 0⟩]
  heads := #[⟨0, .active, 0, none⟩]
  finished := none
  arrivals := 0

/-- A node. -/
def nodeAt (readings : Readings) (number : Nat) : Node := readings.nodes.getD number default

/-- The end of a reading. -/
def headAt (readings : Readings) (number : Nat) : Head := readings.heads.getD number default

/-- The last node of a reading. -/
def top (readings : Readings) (number : Nat) : Node :=
  readings.nodeAt (readings.headAt number).node

end Readings

namespace Stack

/-- The number of readings. -/
def size : Work Nat := return (← get).heads.size

/-- The end of a reading. -/
def head (reading : Nat) : Work Head := return (← get).headAt reading

/-- The last node of a reading. -/
def top (reading : Nat) : Work Node := return (← get).top reading

/-- Change the end of a reading. -/
def changeHead (reading : Nat) (change : Head -> Head) : Work Unit :=
  modify fun readings => { readings with heads := readings.heads.modify reading change }

/-- Change a node. -/
def changeNode (number : Nat) (change : Node -> Node) : Work Unit :=
  modify fun readings => { readings with nodes := readings.nodes.modify number change }

/-- Add a node; its number is the result. -/
def addNode (node : Node) : Work Nat :=
  modifyGet fun readings =>
    (readings.nodes.size, { readings with nodes := readings.nodes.push node })

/-- Add a reading that ends at a node and is otherwise like another one; its number
is the result. -/
def addReading (like node : Nat) : Work Nat :=
  modifyGet fun readings =>
    (readings.heads.size, { readings with
      heads := readings.heads.push
        ⟨node, .active, (readings.headAt like).countAtFault, none⟩ })

/-- Give up a reading. -/
def halt (reading : Nat) : Work Unit :=
  changeHead reading fun head => { head with status := .halted }

/-- Take away a reading; the ones behind it move up. -/
def remove (reading : Nat) : Work Unit :=
  modify fun readings => { readings with
    heads := (readings.heads.toList.eraseIdx reading).toArray }

/-- Put a reading in the place of an earlier one. -/
def replace (source target : Nat) : Work Unit := do
  if source = target then return
  let old ← head target
  let new ← head source
  changeHead target fun _ => { new with landmarks := new.landmarks.or old.landmarks }
  remove source

/-- Let two readings change places. -/
def swap (first second : Nat) : Work Unit := do
  let one ← head first
  let other ← head second
  changeHead first fun _ => other
  changeHead second fun _ => one

/-- Add a copy of a reading; its number is the result. -/
def copy (reading : Nat) : Work Nat :=
  modifyGet fun readings =>
    (readings.heads.size, { readings with
      heads := readings.heads.push { readings.headAt reading with landmarks := none } })

/-- Put a tree on top of a reading, or nothing where the reading gets lost. -/
def push (reading : Nat) (tree : Option Growth) (state : Nat) : Work Unit := do
  let tip ← head reading
  let before ← top reading
  let node : Node :=
    match tree with
    | some tree => {
        state
        links := [⟨tip.node, some tree⟩]
        place := before.place.add tree.total
        cost := before.cost + tree.facts.cost
        weight := before.weight + tree.facts.weight
        count := before.count + tree.count }
    | none => { before with state, links := [⟨tip.node, none⟩] }
  let number ← addNode node
  changeHead reading fun head => { head with
    node := number
    countAtFault := if tree.isNone then node.count else head.countAtFault }

/-! ## Merging -/

/-- Whether two links lead over trees that may take each other's place. -/
def sameTree : Option Growth -> Option Growth -> Bool
  | some first, some second => first.isLike second
  | none, none => true
  | _, _ => false

/-- The weight behind a link. -/
def weightBehind (before : Node) (link : Link) : Int :=
  before.weight + (link.tree.map fun tree => tree.facts.weight).getD 0

/-- How many links a node may have. -/
def linkLimit : Nat := 8

/-- Add a link to a node, or join it with one that the node has.  The number bounds
how far back readings are joined. -/
def addLink : Nat -> Nat -> Link -> Work Unit
  | 0, _, _ => return
  | bound + 1, number, link => do
      if link.node = number then return
      let readings ← get
      let node := readings.nodeAt number
      let before := readings.nodeAt link.node
      let same := node.links.filter fun known => sameTree known.tree link.tree
      let joins (known : Link) : Bool :=
        let other := readings.nodeAt known.node
        known.node == link.node ||
          (other.state == before.state && other.place.bytes == before.place.bytes &&
            other.cost == before.cost)
      match same.find? joins with
      | some known =>
          if known.node = link.node then
            match known.tree, link.tree with
            | some old, some new =>
                if new.facts.weight > old.facts.weight then
                  let position := node.links.findIdx fun other =>
                    sameTree other.tree link.tree && joins other
                  changeNode number fun node => { node with
                    links := node.links.set position link
                    weight := weightBehind before link }
            | _, _ => return
          else
            for earlier in before.links do
              addLink bound known.node earlier
            changeNode number fun node => { node with
              weight := max node.weight (weightBehind before link) }
      | none =>
          if node.links.length < linkLimit then
            changeNode number fun node => { node with
              links := node.links ++ [link]
              count := max node.count
                (before.count + (link.tree.map Growth.count).getD 0)
              weight := max node.weight (weightBehind before link) }

/-- Whether two readings have come to the same place in the same state at the same
cost. -/
def canMerge (first second : Nat) : Work Bool := do
  let readings ← get
  let one := readings.top first
  let other := readings.top second
  return (readings.headAt first).status.isActive && (readings.headAt second).status.isActive &&
    one.state == other.state && one.place.bytes == other.place.bytes && one.cost == other.cost

/-- Merge the second reading into the first one if that is possible. -/
def merge (first second : Nat) : Work Bool := do
  if !(← canMerge first second) then return false
  let bound := (← get).nodes.size
  let number := (← head first).node
  for link in (← top second).links do
    addLink bound number link
  let node ← top first
  if node.state = Automaton.lost then
    changeHead first fun head => { head with countAtFault := node.count }
  remove second
  return true

/-- Merge a reading into the first of some others into which it can be merged. -/
def mergeInto : List Nat -> Nat -> Work Bool
  | [], _ => return false
  | other :: others, reading => do
      if ← merge other reading then return true
      mergeInto others reading

/-! ## Taking trees off -/

/-- A way back from the end of a reading: the node it has come to, the trees passed,
the nearest to the start of the text first, and their number. -/
structure Walk where
  node : Nat
  trees : List Growth
  depth : Nat

/-- How many ways back are followed at the same time. -/
def walkLimit : Nat := 64

namespace Walk

/-- The way over one more link. -/
def back (walk : Walk) (link : Link) : Walk :=
  match link.tree with
  | some tree =>
      ⟨link.node, tree :: walk.trees, if tree.facts.extra then walk.depth else walk.depth + 1⟩
  | none => ⟨link.node, walk.trees, walk.depth + 1⟩

/-- Take each of some ways one step further back.  The first part of the result are
the ways that have come where they should, the others go on; of these the ones that
branch off come last. -/
def step (nodes : Array Node) (arrives stops : Walk -> Bool) :
    List Walk -> List Walk -> List Walk -> List Walk × List Walk
  | [], onward, branched => ([], onward.reverse ++ branched)
  | walk :: walks, onward, branched =>
      let links := (nodes.getD walk.node default).links
      let arrived := if arrives walk then [walk] else []
      let (arrivals, rest) :=
        match links with
        | [] => step nodes arrives stops walks onward branched
        | first :: others =>
            if stops walk then step nodes arrives stops walks onward branched
            else
              let room := walkLimit - (walks.length + 1 + onward.length + branched.length)
              step nodes arrives stops walks (walk.back first :: onward)
                (branched ++ (others.take room).map walk.back)
      (arrived ++ arrivals, rest)

/-- All ways back that arrive, the shorter ones first. -/
def follow (nodes : Array Node) (arrives stops : Walk -> Bool) : Nat -> List Walk -> List Walk
  | 0, _ => []
  | _ + 1, [] => []
  | bound + 1, walks =>
      let (arrivals, rest) := step nodes arrives stops walks [] []
      arrivals ++ follow nodes arrives stops bound rest

end Walk

/-- The ways back from the end of a reading that arrive. -/
def waysBack (reading : Nat) (arrives stops : Walk -> Bool) : Work (List Walk) := do
  let readings ← get
  return Walk.follow readings.nodes arrives stops (readings.nodes.size + 1)
    [⟨(readings.headAt reading).node, [], 0⟩]

/-- The reading to which a way back leads, given the slices cut so far; a new one
unless an earlier slice has led to the same node. -/
def readingFor (like node : Nat) : List Slice -> Work Nat
  | [] => addReading like node
  | slice :: slices => do
      if (← head slice.reading).node = node then return slice.reading
      readingFor like node slices

/-- Put a slice behind the last one of the same reading, or at the end. -/
def insertSlice (slices : List Slice) (slice : Slice) : List Slice :=
  let behind := (slices.reverse.takeWhile fun other => other.reading != slice.reading).reverse
  if behind.length = slices.length then slices ++ [slice]
  else slices.take (slices.length - behind.length) ++ slice :: behind

/-- Cut a reading where each of some ways back ends. -/
def cut (reading : Nat) : List Walk -> List Slice -> Work (List Slice)
  | [], slices => return slices
  | walk :: walks, slices => do
      let target ← readingFor reading walk.node slices.reverse
      cut reading walks (insertSlice slices ⟨walk.trees, target⟩)

/-- Take a number of trees off a reading. -/
def pop (reading depth : Nat) : Work (List Slice) := do
  let reached (walk : Walk) : Bool := walk.depth == depth
  cut reading (← waysBack reading reached reached) []

/-- Take all trees off a reading. -/
def popAll (reading : Nat) : Work (List Slice) := do
  let nodes := (← get).nodes
  let atStart (walk : Walk) : Bool := (nodes.getD walk.node default).links.isEmpty
  cut reading (← waysBack reading atStart fun _ => false) []

/-- Take the fault off a reading that ends with one. -/
def popFault (reading : Nat) : Work (Option Growth) := do
  let links := (← top reading).links
  match links.find? fun link => link.tree.any Growth.isFault with
  | some ⟨node, some tree⟩ =>
      changeHead reading fun head => { head with node, status := .active }
      return some tree
  | _ => return none

/-! ## Where a reading stands -/

/-- How far back landmarks are noted. -/
def landmarkLimit : Nat := 16

/-- Note the states that a reading was in before it got lost. -/
def noteLandmarks (reading : Nat) : Work Unit := do
  let nodes := (← get).nodes
  let within (walk : Walk) : Bool := walk.depth ≤ landmarkLimit
  let walks ← waysBack reading within fun walk => !within walk
  let landmarks := walks.foldl
    (fun landmarks walk =>
      let node := nodes.getD walk.node default
      let landmark : Landmark := ⟨node.place, walk.depth, node.state⟩
      let known := (landmarks.takeWhile fun (other : Landmark) => walk.depth ≤ other.depth).any
        fun other => other.depth == walk.depth && other.state == node.state
      if known then landmarks else landmark :: landmarks)
    []
  changeHead reading fun head => { head with landmarks := some landmarks.reverse }

/-- What the faults of a reading cost. -/
def cost (reading : Nat) : Work Nat := do
  let node ← top reading
  let isFresh := node.state == Automaton.lost &&
    (node.links.head?.map fun link => link.tree.isNone).getD false
  return node.cost + if (← head reading).status.isPaused || isFresh then faultCost else 0

/-- The number of nodes that a reading has added since it got lost for the last
time. -/
def progress (reading : Nat) : Work Nat := do
  let count := (← top reading).count
  changeHead reading fun head => { head with countAtFault := min head.countAtFault count }
  return count - (← head reading).countAtFault

end Stack
end Recovery
end Go
end ConfigWiring
