import ConfigWiring.Go.Recovery.Stack

/-!
# Reading a text in spite of faults

All readings of a text advance side by side, one terminal at a time.  Where none of
them knows what to do, the most promising one is taken up again in three ways at once:
a missing terminal is supplied, or what has been read is left out back to a state in
which the next terminal fits, or the next terminal is left out.  The costs of these
faults decide which of the readings are kept.
-/

namespace ConfigWiring
namespace Go
namespace Recovery
namespace Parser

open Stack

/-- How many readings are kept. -/
def readingLimit : Nat := 6

/-- How many readings may be added while one terminal is read. -/
def readingReserve : Nat := 4

/-- The difference in cost, times the progress made, from which on a reading is given
up for a better one. -/
def toleratedDifference : Nat := 1800

/-! ## Tables and terminals -/

/-- What a state decides. -/
def table (state : Nat) : Work Table :=
  modifyGet fun readings =>
    let source := readings.source
    let nodes := readings.nodes
    let heads := readings.heads
    let finished := readings.finished
    let arrivals := readings.arrivals
    let (table, automaton) := readings.automaton.visit Productions.go state
    (table, ⟨source, automaton, nodes, heads, finished, arrivals⟩)

/-- What can be done in a state with a tree in front. -/
def actionsFor (state : Nat) (label : Label) : Work (List Action) := do
  match label with
  | .symbol code => return (← table state).actionsAt code
  | .fault | .leftOut => return []

/-- The state behind a head. -/
def moveFrom (state head : Nat) : Work Nat := do
  return (← table state).moves.getD head Automaton.lost

/-- The state behind a terminal, if it can be read. -/
def shiftFrom (state terminal : Nat) : Work (Option Nat) := do
  return (← table state).shiftTarget? terminal

/-- Whether a word is never an identifier in a state. -/
def reservesWord (state : Nat) (label : Label) : Work Bool := do
  match label with
  | .symbol code => return (← table state).reserves && Terminal.reservedSet.contains code
  | .fault | .leftOut => return false

/-- The tree of a terminal that has been found; an identifier that is spelled like a
word of the language is that word where it fits or is reserved. -/
def terminalTree (state before : Nat) (find : Find) : Work Growth := do
  let source := (← get).source
  let plain (isWord : Bool) (code : Nat) : Growth :=
    .leaf source (.symbol code) before find.start find.stop isWord
  if find.terminal != Terminal.identifier.code then return plain false find.terminal
  let spelling := source.between find.start find.stop
  match Terminal.words.find? fun (word, _) => word == spelling with
  | none => return plain false find.terminal
  | some (_, word) =>
      let fits := !((← table state).actionsAt word).isEmpty
      let reserved ← reservesWord state (.symbol word)
      return plain true (if fits || reserved then word else find.terminal)

/-- The next terminal in front of a reading.  What is not looked for in its state is
looked for as behind a fault. -/
def nextTerminal (reading : Nat) : Work Growth := do
  let source := (← get).source
  let node ← top reading
  let before := node.place.chars
  match Scanner.find (← table node.state).sought source before with
  | .ok find => terminalTree node.state before find
  | .error _ =>
      match Scanner.find Terminal.soughtSet source before with
      | .ok find => terminalTree node.state before find
      | .error start =>
          let reached := start + Scanner.attempt (start == before) (source.rest start)
          let stop := Scanner.strayEnd source (2 * source.length + 2) start reached
          return .leaf source .fault before start stop false

/-! ## Summing up -/

/-- The tree that sums up some parts as a production says, followed by the extras at
its end. -/
def sumUp (production : Production) (trees : List Growth) : Growth × List Growth :=
  let (parts, extras) := Growth.splitExtras trees
  (.branch (.symbol production.head) production.names false parts, extras)

/-- The best of the trees that slices of one reading sum up to. -/
def bestOf (production : Production) (best : Growth × List Growth) :
    List Slice -> Growth × List Growth
  | [] => best
  | slice :: slices =>
      let other := sumUp production slice.trees
      bestOf production (if best.1.isBetter other.1 then other else best) slices

/-- Put several trees on top of a reading without leaving its state. -/
def pushAll (reading state : Nat) (trees : List Growth) : Work Unit := do
  for tree in trees do
    push reading (some tree) state

/-- Sum up the parts in each slice.  The number tells how many of the readings that
the slices lead to have been taken away again. -/
def reduceSlices (reading : Nat) (production : Production) (limit : Nat) :
    Nat -> Nat -> List Slice -> Work Unit
  | 0, _, _ => return
  | _ + 1, _, [] => return
  | bound + 1, removed, slice :: slices => do
      let same := slices.takeWhile fun other => other.reading == slice.reading
      let rest := slices.drop same.length
      let target := slice.reading - removed
      if target > limit then
        remove target
        reduceSlices reading production limit bound (removed + 1) rest
      else
        let (tree, extras) := bestOf production (sumUp production slice.trees) same
        let next ← moveFrom (← top target).state production.head
        push target (some (tree.addWeight production.weight)) next
        pushAll target next extras
        let others := (List.range target).filter (· != reading)
        let merged ← mergeInto others target
        reduceSlices reading production limit bound (if merged then removed + 1 else removed) rest

/-- Sum up the parts of a production on top of a reading.  The result is the first
reading that this adds, if it adds any. -/
def reduce (reading number : Nat) : Work (Option Nat) := do
  let production := Productions.go.all.getD number default
  let before ← size
  let slices ← pop reading production.length
  let halted := ((← get).heads.filter fun head => head.status.isHalted).size
  reduceSlices reading production (readingLimit + readingReserve + halted) (slices.length + 1) 0
    slices
  return if (← size) > before then some before else none

/-- The productions among some actions, without those that sum up to the same form as
others before. -/
def reductions (actions : List Action) : List Nat :=
  actions.foldl
    (fun known action =>
      match action.production? with
      | some number =>
          let production := Productions.go.all.getD number default
          let isKnown := known.any fun other =>
            let other := Productions.go.all.getD other default
            other.head == production.head && other.length == production.length
          if production.length = 0 || isKnown then known else known ++ [number]
      | none => known)
    []

/-- Sum up as several productions say, one after another.  The result is what the last
one adds. -/
def reduceEach (reading : Nat) : List Nat -> Work (Option Nat)
  | [] => return none
  | [number] => reduce reading number
  | number :: numbers => do
      let _ ← reduce reading number
      reduceEach reading numbers

/-- Whether an action reads a terminal or looks for a place to go on. -/
def goesOn : Action -> Bool
  | .shift _ repeats => !repeats
  | .resume => true
  | _ => false

/-- Sum up whatever can be summed up, in front of a terminal or, without one, in front
of any terminal, in the readings from a number on.  The result tells whether a
reading can go on with the terminal. -/
def reduceAll (start : Nat) (terminal : Option Nat) : Work Bool := do
  loop 1000 (← size) start 0 false
where
  /-- Go through the readings. -/
  loop : Nat -> Nat -> Nat -> Nat -> Bool -> Work Bool
    | 0, _, _, _, found => return found
    | bound + 1, first, reading, round, found => do
        let count ← size
        if reading ≥ count then return found
        let others := (List.range reading).filter (first ≤ ·)
        if ← mergeInto others reading then
          loop bound first reading (round + 1) found
        else
          let decisions ← table (← top reading).state
          let actions :=
            match terminal with
            | some terminal => decisions.actionsAt terminal
            | none => (List.range Symbol.headOffset).tail.flatMap decisions.actionsAt
          let last ← reduceEach reading (reductions actions)
          let canGoOn := actions.any goesOn
          match last with
          | some added =>
              if !canGoOn && round < readingLimit then
                replace added reading
                return ← loop bound first reading (round + 1) found
              else if !canGoOn && terminal.isSome then remove reading
          | none => if !canGoOn && terminal.isSome then remove reading
          let next := if reading = start then count else reading + 1
          loop bound first next (round + 1) (found || canGoOn)

/-! ## Comparing readings -/

/-- How promising a reading is. -/
structure Standing where
  cost : Nat
  progress : Nat
  weight : Int
  isLost : Bool

/-- How two readings compare. -/
inductive Verdict where
  /-- The second one is given up. -/
  | takeFirst
  | preferFirst
  | even
  | preferSecond
  /-- The first one is given up. -/
  | takeSecond
  deriving DecidableEq, Repr

namespace Standing

/-- Whether a reading is so much better than another one that the other is given
up. -/
def isFarBetter (better worse : Standing) : Bool :=
  (worse.cost - better.cost) * (1 + better.progress) > toleratedDifference

/-- How two readings compare. -/
def compare (first second : Standing) : Verdict :=
  if !first.isLost && second.isLost then
    if first.cost < second.cost then .takeFirst else .preferFirst
  else if first.isLost && !second.isLost then
    if second.cost < first.cost then .takeSecond else .preferSecond
  else if first.cost < second.cost then
    if first.isFarBetter second then .takeFirst else .preferFirst
  else if second.cost < first.cost then
    if second.isFarBetter first then .takeSecond else .preferSecond
  else if first.weight > second.weight then .preferFirst
  else if second.weight > first.weight then .preferSecond
  else .even

end Standing

/-- How promising a reading is. -/
def standing (reading : Nat) : Work Standing := do
  let status := (← head reading).status
  let node ← top reading
  return {
    cost := (← cost reading) + if status.isPaused then nodeCost else 0
    progress := ← progress reading
    weight := node.weight
    isLost := status.isPaused || node.state == Automaton.lost }

/-- Whether one of some readings would make it pointless to go on with a reading at a
cost. -/
def anyBetter (reading : Nat) (own : Standing) (bytes : Nat) : List Nat -> Work Bool
  | [] => return false
  | other :: others => do
      let isActive := (← head other).status.isActive
      if other = reading || !isActive || (← top other).place.bytes < bytes then
        anyBetter reading own bytes others
      else
        match own.compare (← standing other) with
        | .takeSecond => return true
        | .preferSecond =>
            if ← canMerge other reading then return true
            anyBetter reading own bytes others
        | _ => anyBetter reading own bytes others

/-- Whether it would be pointless to go on with a reading at a cost. -/
def hasBetter (reading newCost : Nat) : Work Bool := do
  if (← get).finished.any fun tree => tree.facts.cost ≤ newCost then return true
  let node ← top reading
  let own : Standing := ⟨newCost, ← progress reading, node.weight, false⟩
  anyBetter reading own node.place.bytes (List.range (← size))

/-! ## The end of the text -/

/-- The tree of a whole text: the parts of the last tree that is no extra, among all
that stands around it. -/
def wholeTree (trees : List Growth) : Option Growth :=
  let (front, extras) := Growth.splitExtras trees
  front.getLast?.map fun last =>
    .branch last.facts.label last.facts.names false
      (front.dropLast ++ last.children ++ extras)

/-- Note a tree of the whole text if it is better than the one known so far. -/
def noteFinished (tree : Growth) : Work Unit :=
  modify fun readings =>
    let better :=
      match readings.finished with
      | some known => if known.isBetter tree then tree else known
      | none => tree
    { readings with finished := some better, arrivals := readings.arrivals + 1 }

/-- Finish a reading in front of the end of the text. -/
def accept (reading : Nat) (finish : Growth) : Work Unit := do
  push reading (some finish) Automaton.start
  let slices ← popAll reading
  for slice in slices do
    match wholeTree slice.trees with
    | some tree => noteFinished tree
    | none => pure ()
  match slices with
  | slice :: _ => remove slice.reading
  | [] => pure ()
  halt reading

/-! ## Getting past a fault -/

/-- Leave out the trees of each slice that leads back to a state, and go on there.
The result tells whether any of them does. -/
def leaveOutSlices (goal : Nat) : Option Nat -> List Slice -> Work Bool
  | previous, [] => return previous.isSome
  | previous, slice :: slices => do
      let node ← top slice.reading
      if previous = some slice.reading then leaveOutSlices goal previous slices
      else if node.state != goal then
        halt slice.reading
        leaveOutSlices goal previous slices
      else
        let fault ← popFault slice.reading
        let earlier := (fault.map Growth.children).getD []
        let (parts, extras) := Growth.splitExtras (earlier ++ slice.trees)
        if !parts.isEmpty then
          push slice.reading (some (.branch .fault [] true parts)) goal
        pushAll slice.reading goal extras
        leaveOutSlices goal (some slice.reading) slices

/-- Whether a reading other than those added since already stands in a state at a
place. -/
def isTaken (state bytes : Nat) (count : Nat) : Work Bool := do
  let readings ← get
  return (List.range count).any fun reading =>
    let node := readings.top reading
    node.state == state && node.place.bytes == bytes

/-- Go back to the first of some landmarks from which a terminal can be read.  The
result tells whether there is one. -/
def goBack (reading : Nat) (label : Label) (place : Extent) (depthAdded cost count : Nat) :
    List Landmark -> Work Bool
  | [] => return false
  | landmark :: landmarks => do
      let next := goBack reading label place depthAdded cost count landmarks
      if landmark.state = Automaton.lost || landmark.place.bytes = place.bytes then next
      else if ← isTaken landmark.state place.bytes count then next
      else
        let depth := landmark.depth + depthAdded
        let skipped : Extent :=
          ⟨0, place.bytes - landmark.place.bytes, place.rows - landmark.place.rows⟩
        if ← hasBetter reading (cost + omissionCost skipped depth) then return false
        if (← actionsFor landmark.state label).isEmpty then next
        else if ← leaveOutSlices landmark.state none (← pop reading depth) then return true
        else next

/-- Take away the readings from a number on that do not go on. -/
def removeInactive : Nat -> Nat -> Work Unit
  | 0, _ => return
  | bound + 1, reading => do
      if reading < (← size) then
        if (← head reading).status.isActive then removeInactive bound (reading + 1)
        else
          remove reading
          removeInactive bound reading

/-- Take away the readings behind a number. -/
def truncate (count : Nat) : Work Unit :=
  modify fun readings => { readings with heads := readings.heads.take count }

/-- Leave out a terminal on top of a reading that is lost.  The flag tells whether
others have been left out right before. -/
def leaveOut (reading : Nat) (terminal : Growth) (goesOn : Bool) : Work Unit := do
  let isComment := terminal.facts.label == .symbol Terminal.comment.code
  let part := if isComment then terminal.asExtra else terminal
  let single := Growth.branch .leftOut [] false [part]
  if goesOn then
    match ← pop reading 1 with
    | slice :: others =>
        if !others.isEmpty then truncate (slice.reading + 1)
        replace slice.reading reading
        push reading (some (.branch .leftOut [] false (slice.trees ++ [single]))) Automaton.lost
    | [] => push reading (some single) Automaton.lost
  else push reading (some single) Automaton.lost

/-- Get a reading that is lost past a terminal. -/
def recover (reading : Nat) (terminal : Growth) : Work Unit := do
  let count ← size
  let place := (← top reading).place
  let made ← progress reading
  let current ← cost reading
  let landmarks := ((← head reading).landmarks).getD []
  let recovered ←
    if terminal.isFault then pure false
    else
      goBack reading terminal.facts.label place (if made > 0 then 1 else 0) current count landmarks
  removeInactive ((← size) + 1) count
  if terminal.facts.label == .symbol Terminal.finish.code then
    push reading (some (.branch .fault [] false [])) Automaton.start
    accept reading terminal
  else if recovered && (← size) > readingLimit then halt reading
  else if ← hasBetter reading (current + omissionCost terminal.total 1) then halt reading
  else leaveOut reading terminal (made > 0)

/-- Supply the first of some terminals that is missing in front of another one, if
one is.  The result tells whether one is. -/
def supply (reading : Nat) (next : Label) : List Nat -> Work Bool
  | [] => return false
  | candidate :: candidates => do
      let node ← top reading
      let further := supply reading next candidates
      match ← shiftFrom node.state candidate with
      | none => further
      | some target =>
          match next with
          | .symbol code =>
              if target = node.state || !(← table target).reducesAt code then further
              else
                let added ← copy reading
                push added (some (.missing candidate node.place.chars)) target
                let terminal := if code = Terminal.finish.code then none else some code
                if ← reduceAll added terminal then return true
                further
          | .fault | .leftOut => return false

/-- Let some readings get lost, after supplying a missing terminal in the first of
them where that is possible. -/
def loseAll (next : Label) : Bool -> List Nat -> Work Unit
  | _, [] => return
  | supplied, reading :: readings => do
      let supplied ←
        if supplied then pure true
        else supply reading next (List.range Symbol.headOffset).tail
      push reading none Automaton.lost
      loseAll next supplied readings

/-- Begin to get a reading past a terminal that does not fit. -/
def beginRecovery (reading : Nat) (terminal : Growth) : Work Unit := do
  let before ← size
  let _ ← reduceAll reading none
  let after ← size
  let added := (List.range after).drop before
  loseAll terminal.facts.label false (reading :: added)
  for _ in added do
    let _ ← merge reading before
  noteLandmarks reading
  recover reading terminal

/-! ## Reading on -/

/-- What one action makes of a reading: whether it is done with the terminal, and
otherwise the last reading that summing up has added and whether anything has been
summed up. -/
def act (reading : Nat) (state : Nat) (terminal : Growth) :
    Option Nat -> Bool -> List Action -> Work (Option (Option Nat × Bool))
  | last, reduced, [] => return some (last, reduced)
  | last, reduced, action :: actions => do
      match action with
      | .shift target repeats =>
          if repeats then act reading state terminal last reduced actions
          else
            push reading (some terminal) target
            return none
      | .pass =>
          push reading (some terminal.asExtra) state
          return none
      | .reduce number =>
          let added ← reduce reading number
          act reading state terminal (added.or last) true actions
      | .accept =>
          accept reading terminal
          return none
      | .resume =>
          recover reading terminal
          return none

/-- Go on with a reading until it has dealt with a terminal. -/
def advanceOver (reading : Nat) : Nat -> Growth -> List Action -> Work Unit
  | 0, _, _ => halt reading
  | bound + 1, terminal, actions => do
      let state := (← top reading).state
      match ← act reading state terminal none false actions with
      | none => return
      | some (some last, _) =>
          replace last reading
          let state := (← top reading).state
          advanceOver reading bound terminal (← actionsFor state terminal.facts.label)
      | some (none, true) => halt reading
      | some (none, false) =>
          let identifier := Label.symbol Terminal.identifier.code
          let mayBeName := terminal.facts.isWord && terminal.facts.label != identifier &&
            !(← reservesWord state terminal.facts.label)
          let asName ← if mayBeName then actionsFor state identifier else pure []
          if !asName.isEmpty then
            advanceOver reading bound (terminal.relabel identifier) asName
          else if state = Automaton.lost then recover reading terminal
          else
            let count := (← top reading).count
            changeHead reading fun head => { head with
              status := .paused terminal, countAtFault := count }

/-- Let a reading deal with its next terminal. -/
def advance (reading : Nat) : Work Unit := do
  let terminal ← nextTerminal reading
  let state := (← top reading).state
  let bound := 100 + 20 * (← get).nodes.size
  advanceOver reading bound terminal (← actionsFor state terminal.facts.label)

/-- Let a reading go on until it has come further than the readings before it.  The
result is how far the readings have come. -/
def advanceFar (reading : Nat) : Nat -> Nat -> Work Nat
  | 0, farthest => return farthest
  | bound + 1, farthest => do
      if !(← head reading).status.isActive then return farthest
      advance reading
      let bytes := (← top reading).place.bytes
      if bytes > farthest || (reading > 0 && bytes = farthest) then return bytes
      advanceFar reading bound farthest

/-- Let the readings from a number on go on, each until it has come further than
those before. -/
def advanceAll : Nat -> Nat -> Nat -> Work Nat
  | 0, _, farthest => return farthest
  | bound + 1, reading, farthest => do
      if reading ≥ (← size) then return farthest
      let limit := 4 * (← get).source.length + 100
      let reached ← advanceFar reading limit farthest
      advanceAll bound (reading + 1) reached

/-! ## Keeping the best -/

/-- What comparing a reading with the ones before it leads to: the number it has
afterwards, unless it is gone. -/
def settleWith (own : Standing) : Nat -> Nat -> Nat -> Work (Nat × Bool)
  | 0, _, reading => return (reading, true)
  | bound + 1, other, reading => do
      if other ≥ reading then return (reading, true)
      match (← standing other).compare own with
      | .takeFirst =>
          remove reading
          return (reading, false)
      | .preferFirst | .even =>
          if ← merge other reading then return (reading, false)
          settleWith own bound (other + 1) reading
      | .preferSecond =>
          if ← merge other reading then return (reading, false)
          swap reading other
          settleWith own bound (other + 1) reading
      | .takeSecond =>
          remove other
          settleWith own bound other (reading - 1)

/-- Compare all readings with each other from a number on.  The result is the least
cost of a reading that is not lost. -/
def settleAll : Nat -> Nat -> Option Nat -> Work (Option Nat)
  | 0, _, least => return least
  | bound + 1, reading, least => do
      if reading ≥ (← size) then return least
      if (← head reading).status.isHalted then
        remove reading
        settleAll bound reading least
      else
        let own ← standing reading
        let least :=
          if own.isLost then least
          else some (match least with | some known => min known own.cost | none => own.cost)
        let (reading, remains) ← settleWith own (2 * (← size) + 2) 0 reading
        settleAll bound (if remains then reading + 1 else reading) least

/-- Take up the first paused reading again if no reading before it goes on, and take
the other paused ones away. -/
def resumeFirst : Nat -> Nat -> Nat -> Bool -> Option Nat -> Work (Option Nat)
  | 0, _, _, _, least => return least
  | bound + 1, reading, count, goesOn, least => do
      if reading ≥ count then return least
      match (← head reading).status with
      | .paused terminal =>
          if !goesOn && (← get).arrivals < readingLimit then
            let own ← cost reading
            changeHead reading fun head => { head with status := .active }
            beginRecovery reading terminal
            resumeFirst bound (reading + 1) count true (some own)
          else
            remove reading
            resumeFirst bound reading (count - 1) goesOn least
      | _ => resumeFirst bound (reading + 1) count true least

/-- Keep the most promising readings, and get past a fault if none goes on.  The
result is the least cost of a reading that is not lost. -/
def condense : Work (Option Nat) := do
  let count ← size
  let least ← settleAll ((count + 1) * (count + 2)) 0 none
  truncate readingLimit
  let count ← size
  resumeFirst (count + 1) 0 count false least

/-- Read on until the text is finished at the least cost. -/
def run : Nat -> Nat -> Work Unit
  | 0, _ => return
  | bound + 1, farthest => do
      let count ← size
      let farthest ← advanceAll (4 * (count + 16)) 0 farthest
      let remaining ← size
      let least ← condense
      let isBest := (← get).finished.any fun tree =>
        match least with
        | some least => tree.facts.cost < least
        | none => true
      if isBest || remaining = 0 then return
      run bound farthest

/-- The tree of a text. -/
def grow (text : List Char) : Option Growth :=
  let source := SourceText.ofChars text
  let (_, readings) := (run (8 * source.length + 64) 0).run (.initial source)
  readings.finished

end Parser
end Recovery
end Go
end ConfigWiring
