import ConfigWiring.Shell.Builtin
import ConfigWiring.Shell.Reading

/-!
# Running commands

A command may be a function, a command that the shell knows, or a program.  A script is
run line by line.  What a shell of its own does to files and to what is read and
written lasts; everything else ends with it.  A signal has a number and a name, and most
signals kill a process that does nothing about them.
-/

namespace ConfigWiring
namespace Shell

/-! ## The names of signals -/

namespace Signal

/-- The names of the signals, from the one with the number one on. -/
def names : List String :=
  ["HUP", "INT", "QUIT", "ILL", "TRAP", "ABRT", "BUS", "FPE", "KILL", "USR1", "SEGV", "USR2",
    "PIPE", "ALRM", "TERM", "STKFLT", "CHLD", "CONT", "STOP", "TSTP", "TTIN", "TTOU", "URG",
    "XCPU", "XFSZ", "VTALRM", "PROF", "WINCH", "IO", "PWR", "SYS"]

/-- The signals that do nothing by themselves. -/
def harmless : List Nat := [17, 18, 19, 20, 21, 22, 23, 28]

/-- The signal whose number or name a word is; zero stands for the end of a process. -/
def ofWord? (word : String) : Option Nat :=
  match word.toNat? with
  | some number => if number ≤ names.length then some number else none
  | none =>
      let upper := String.ofList (word.toList.map Char.toUpper)
      if upper = "EXIT" then some 0
      else if names.contains upper then some (names.findIdx (· == upper) + 1)
      else none

/-- A signal with its name. -/
def text (signal : Nat) : String :=
  match names[signal - 1]? with
  | some name => toString signal ++ " (SIG" ++ name ++ ")"
  | none => toString signal

end Signal

/-! ## Processes -/

/-- How a process ended. -/
inductive Ending where
  /-- With a number. -/
  | code (number : Nat)
  /-- By a signal. -/
  | signal (number : Nat)
  deriving DecidableEq, Repr

/-- What starts a program, given its path and its arguments: the shell's process waits
for how it ends. -/
abbrev Launcher : Type := String -> List String -> StateM State (Except FileFault Ending)

namespace State

/-- The state of the shell around another one that has ended. -/
def behind (outer inner : State) : State :=
  { outer with
    host := { outer.host with files := inner.host.files }
    sources := inner.sources
    gathered := inner.gathered
    status := inner.status }

end State

namespace Action

/-- Do something as a shell of its own does it. -/
def isolated (action : Action Unit) : Action Unit := do
  let outer ← get
  let killed (departure : Departure) : Action Unit :=
    match departure with
    | .killed signal => throw (.killed signal)
    | _ => return
  modify fun state => { state with traps := [] }
  try action catch departure => killed departure
  modify outer.behind

/-- The text that something writes. -/
def gather (action : Action Unit) : Action String := do
  let outer ← get
  modify fun state => { state with gathered := "" }
  isolated do
    setStream 1 .gathered
    action
  let text := (← get).gathered
  modify fun state => { state with gathered := outer.gathered }
  return text

/-- Exit if a failure has to end the shell. -/
def checkFailure : Action Unit := do
  let state ← get
  if !state.shielded && state.status != 0 && state.options.contains 'e' then throw .exit

/-- Do something whose failure is taken into account, so that it does not end the
shell. -/
def shield (action : Action Unit) : Action Unit := do
  let outer := (← get).shielded
  modify fun state => { state with shielded := true }
  andFinally action (modify fun state => { state with shielded := outer })

/-- Do a round of a loop.  The result tells whether the loop goes on. -/
def onRound (round : Action Unit) : Action Bool := do
  let outer := (← get).loops
  modify fun state => { state with loops := outer + 1 }
  let restore : Action Unit := modify fun state => { state with loops := outer }
  try
    andFinally round restore
    return true
  catch departure =>
    match departure with
    | .out levels => if levels ≤ 1 then return false else throw (.out (levels - 1))
    | .onward levels => if levels ≤ 1 then return true else throw (.onward (levels - 1))
    | other => throw other

/-- Do something with some streams redirected, if all of them can be. -/
def withStreams (redirect : Action Bool) (action : Action Unit) : Action Unit := do
  let streams := (← get).streams
  let redirected : Action Unit := do
    if ← redirect then action
    else
      leave 2
      checkFailure
  andFinally redirected (modify fun state => { state with streams })

/-! ## Programs -/

/-- The first path of a program in some directories.  The flag tells whether there is
one that may not be run. -/
def searchPath (host : Host) (name : String) (denied : Bool) : List String -> Except Nat String
  | [] => .error (if denied then 126 else 127)
  | directory :: directories =>
      let path := (if directory.isEmpty then "." else directory) ++ "/" ++ name
      if (systemProgram? path).isSome then .ok path
      else
        match host.files.resolve host.place ⟨path⟩ with
        | .ok (_, .file mode _) =>
            if mode &&& 0o111 = 0 then searchPath host name true directories else .ok path
        | _ => searchPath host name denied directories

/-- The path of a program. -/
def findProgram (name : String) : Action (Except Nat String) := do
  if name.toList.contains '/' then return .ok name
  let searched := (← valueOf? "PATH").getD ""
  return searchPath (← get).host name false ((Text.splitAll ':' searched.toList).map String.ofList)

/-- The status of a program that cannot be started. -/
def faultStatus : FileFault -> Nat
  | .notFound | .notDirectory | .linkLoop | .nameTooLong => 127
  | _ => 126

/-- Leave the status that tells how a program ended. -/
def leaveEnding : Ending -> Action Unit
  | .code number => leave number
  | .signal number => leave (128 + number)

/-- The words that have a meaning where a command begins. -/
def reservedWords : List String :=
  Reader.closingWords ++ ["if", "while", "until", "for", "case", "!", "\x7b"]

/-- Tell what a name stands for; the result tells whether it stands for anything. -/
def tellName (name : String) : Action Bool := do
  let isKnown := (reservedWords ++ specialNames ++ regularNames).contains name ||
    ((← get).functions.lookup name).isSome
  if isKnown then
    write 1 (name ++ "\n")
    return true
  match ← findProgram name with
  | .error _ => return false
  | .ok path =>
      let isProgram := fileAnswer (← get).host "-x" path
      if isProgram then write 1 (path ++ "\n")
      return isProgram

/-- Tell what some names stand for.  The status is the one of a command that is not
found if any of them stands for nothing. -/
def tellNames (sound : Bool) : List String -> Action Unit
  | [] => leave (if sound then 0 else 127)
  | name :: names => do
      let known ← tellName name
      tellNames (sound && known) names

/-! ## Signals -/

/-- The signal that is sent by words, and the processes to which. -/
def signalOf? : List String -> Option (Nat × List String)
  | "-s" :: name :: targets => (Signal.ofWord? name).map fun signal => (signal, targets)
  | word :: targets =>
      match word.toList with
      | '-' :: '-' :: [] => some (15, targets)
      | '-' :: name => (Signal.ofWord? (String.ofList name)).map fun signal => (signal, targets)
      | _ => some (15, word :: targets)
  | [] => none

/-- Note what to do about signals. -/
def setTraps (words : List String) : Action Unit := do
  let change (action : Option String) (names : List String) : Action Unit := do
    let signals := (names.map Signal.ofWord?).takeWhile Option.isSome |>.filterMap id
    modify fun state =>
      let others := state.traps.filter fun (signal, _) => !signals.contains signal
      { state with
        traps := others ++
          match action with
          | some action => signals.map fun signal => (signal, action)
          | none => []
        status := if signals.length < names.length then 1 else 0 }
  match words.filter (· != "--") with
  | [] => leave 0
  | "-" :: names => change none names
  | [name] => change none [name]
  | action :: names =>
      if (Signal.ofWord? action).isSome && action.toNat?.isSome then change none (action :: names)
      else change (some action) names

/-! ## Commands -/

/-- Whether all lines of a script make sense.  The number bounds how many there are. -/
def isSound : Nat -> List Char -> Bool
  | 0, _ => true
  | bound + 1, script =>
      script.isEmpty ||
        match readLine script with
        | .error _ => false
        | .ok (_, rest) => rest.length ≥ script.length || isSound bound rest

mutual

/-- Run a script line by line. -/
def runScript (launch : Launcher) : Nat -> List Char -> Action Unit
  | 0, _ => throw .exit
  | bound + 1, script =>
      if script.isEmpty then return
      else
        match readLine script with
        | .error _ => abort
        | .ok (command, rest) => do
            if !(← get).options.contains 'n' then run launch bound command
            if rest.length < script.length then runScript launch bound rest

/-- Run the script inside a word and return what it writes. -/
def substitute (launch : Launcher) : Nat -> List Char -> Action String
  | 0, _ => throw .exit
  | bound + 1, script => do
      if !isSound (script.length + 1) script then abort
      let before := (← get).status
      let text ← gather do
        modify fun state => { state with shielded := false }
        runScript launch bound script
      modify fun state => { state with substituted := some state.status, status := before }
      return String.ofList (Text.dropEndWhile (· == '\n') text.toList)

/-- Apply redirections.  The result tells whether all of them are possible. -/
def redirectAll (launch : Launcher) : Nat -> List Redirection -> Action Bool
  | 0, _ => return false
  | _, [] => return true
  | bound + 1, redirection :: redirections => do
      let word ← textOf (substitute launch bound) redirection.word
      if ← redirect redirection.stream redirection.kind word then
        redirectAll launch bound redirections
      else return false

/-- Make assignments. -/
def assignWords (launch : Launcher) : Nat -> List (String × Word) -> Action Unit
  | 0, _ => return
  | _, [] => return
  | bound + 1, (name, word) :: assignments => do
      assign name (← textOf (substitute launch bound) word)
      assignWords launch bound assignments

/-- Run a command. -/
def run (launch : Launcher) : Nat -> Command -> Action Unit
  | 0, _ => throw .exit
  | _ + 1, .nothing => return
  | bound + 1, .simple assignments words redirections => do
      runSimple launch bound assignments words redirections
      checkFailure
  | bound + 1, .redirected command redirections => do
      withStreams (redirectAll launch bound redirections) (run launch bound command)
  | bound + 1, .subshell command => do
      isolated (run launch bound command)
      checkFailure
  | bound + 1, .background command => do
      isolated (run launch bound command)
      leave 0
  | bound + 1, .sequence first second => do
      run launch bound first
      run launch bound second
  | bound + 1, .both first second => do
      shield (run launch bound first)
      if (← get).status = 0 then run launch bound second
  | bound + 1, .either first second => do
      shield (run launch bound first)
      if (← get).status != 0 then run launch bound second
  | bound + 1, .negated command => do
      shield (run launch bound command)
      leave (if (← get).status = 0 then 1 else 0)
  | bound + 1, .pipeline commands => do
      runPiped launch bound commands
      checkFailure
  | bound + 1, .branch condition onSuccess onFailure => do
      shield (run launch bound condition)
      if (← get).status = 0 then run launch bound onSuccess
      else
        leave 0
        run launch bound onFailure
  | bound + 1, .loop goal condition body =>
      runLoop launch bound goal condition body 0
  | bound + 1, .each name words body => do
      let fields ←
        match words with
        | some words => fieldsOfAll (substitute launch bound) words
        | none => pure (← get).arguments
      leave 0
      runEach launch bound name body fields
  | bound + 1, .choice word clauses => do
      let text ← textOf (substitute launch bound) word
      leave 0
      runChoice launch bound text.toList clauses
  | _ + 1, .define name body => do
      modify fun state => { state with functions := (name, body) :: state.functions }
      leave 0

/-- Run commands each of which reads what the one before writes. -/
def runPiped (launch : Launcher) : Nat -> List Command -> Action Unit
  | 0, _ => throw .exit
  | _ + 1, [] => return
  | bound + 1, [command] => isolated (run launch bound command)
  | bound + 1, command :: commands => do
      let text ← gather (run launch bound command)
      let source ← addSource text.toList
      let streams := (← get).streams
      setStream 0 (.source source)
      andFinally (runPiped launch bound commands) (modify fun state => { state with streams })

/-- Run a loop; the status is the one that it ends with. -/
def runLoop (launch : Launcher) : Nat -> Bool -> Command -> Command -> Nat -> Action Unit
  | 0, _, _, _, _ => throw .exit
  | bound + 1, goal, condition, body, status => do
      let goesOn ← onRound do
        shield (run launch bound condition)
        if ((← get).status = 0) != goal then
          leave status
          throw (.out 1)
        run launch bound body
      if goesOn then runLoop launch bound goal condition body (← get).status

/-- Run a command for each of some fields. -/
def runEach (launch : Launcher) : Nat -> String -> Command -> List String -> Action Unit
  | 0, _, _, _ => throw .exit
  | _ + 1, _, _, [] => return
  | bound + 1, name, body, field :: fields => do
      assign name field
      if ← onRound (run launch bound body) then
        runEach launch bound name body fields

/-- Run the first of some commands one of whose patterns fits a text. -/
def runChoice (launch : Launcher) : Nat -> List Char -> List (List Word × Command) ->
    Action Unit
  | 0, _, _ => throw .exit
  | _ + 1, _, [] => return
  | bound + 1, text, (patterns, command) :: clauses => do
      if ← fitsAny launch bound text patterns then run launch bound command
      else runChoice launch bound text clauses

/-- Whether a text fits one of some patterns. -/
def fitsAny (launch : Launcher) : Nat -> List Char -> List Word -> Action Bool
  | 0, _, _ => throw .exit
  | _ + 1, _, [] => return false
  | bound + 1, text, word :: words => do
      if Wildcard.fits (← patternOf (substitute launch bound) word) text then return true
      fitsAny launch bound text words

/-- Run a row of words. -/
def runSimple (launch : Launcher) : Nat -> List (String × Word) -> List Word ->
    List Redirection -> Action Unit
  | 0, _, _, _ => throw .exit
  | bound + 1, assignments, words, redirections => do
      modify fun state => { state with substituted := none }
      let fields ← fieldsOfAll (substitute launch bound) words
      match fields with
      | [] =>
          withStreams (redirectAll launch bound redirections) do
            assignWords launch bound assignments
            leave ((← get).substituted.getD 0)
      | ["exec"] =>
          if !(← redirectAll launch bound redirections) then abort
          assignWords launch bound assignments
          leave 0
      | name :: arguments =>
          let before ← get
          let isFunction := (before.functions.lookup name).isSome
          let isSpecial := specialNames.contains name && !isFunction
          let redirected ← withRedirections launch bound redirections isSpecial do
            assignWords launch bound assignments
            if !isSpecial then
              modify fun state => { state with
                exported := assignments.map (·.1) ++ state.exported }
            runNamed launch bound name arguments
          if redirected && !isSpecial then
            modify fun state => { state with
              values := assignments.foldl
                (fun values (name, _) => values.restore before.values name)
                state.values
              exported := before.exported }

/-- Run something with redirections; where they are not possible that is a mistake,
and the result tells whether they are. -/
def withRedirections (launch : Launcher) : Nat -> List Redirection -> Bool -> Action Unit ->
    Action Bool
  | 0, _, _, _ => throw .exit
  | bound + 1, redirections, isSpecial, action => do
      let streams := (← get).streams
      let restore : Action Unit := modify fun state => { state with streams }
      if ← redirectAll launch bound redirections then
        andFinally action restore
        return true
      restore
      if isSpecial then abort
      leave 2
      return false

/-- Run what has a name. -/
def runNamed (launch : Launcher) : Nat -> String -> List String -> Action Unit
  | 0, _, _ => throw .exit
  | bound + 1, name, arguments => do
      match (← get).functions.lookup name with
      | some body => call launch bound body arguments
      | none =>
          match name with
          | "eval" =>
              leave 0
              runScript launch bound (" ".intercalate arguments).toList
          | "." =>
              match arguments with
              | [] => leave 0
              | path :: _ =>
                  match ← readFile? path with
                  | some script =>
                      if !path.toList.contains '/' then abort
                      leave 0
                      try runScript launch bound script
                      catch departure =>
                        if departure != .back then throw departure
                  | none => abort
          | "exec" =>
              match arguments with
              | [] => return
              | program :: further =>
                  runProgram launch bound true program further
                  throw .exit
          | "command" =>
              match if arguments.head? = some "-p" then arguments.drop 1 else arguments with
              | "-v" :: names | "-V" :: names => tellNames true (names.take 1)
              | program :: further =>
                  if program.toList.head? = some '-' then leave 2
                  else runKnown launch bound program further
              | [] => leave 0
          | "type" => tellNames true arguments
          | "trap" => setTraps arguments
          | "kill" => kill launch bound arguments
          | _ => runKnown launch bound name arguments

/-- Run a command that the shell knows, or a program. -/
def runKnown (launch : Launcher) : Nat -> String -> List String -> Action Unit
  | 0, _, _ => throw .exit
  | bound + 1, name, arguments => do
      if !(← builtin name arguments) then runProgram launch bound false name arguments

/-- Run a program.  The flag tells whether it takes the place of the shell. -/
def runProgram (launch : Launcher) : Nat -> Bool -> String -> List String -> Action Unit
  | 0, _, _, _ => throw .exit
  | bound + 1, inPlace, name, arguments => do
      match ← findProgram name with
      | .error status => leave status
      | .ok path =>
          match ← (launch path arguments : StateM State _) with
          | .ok ending =>
              match ending with
              | .signal number => if inPlace then throw (.killed number) else leaveEnding ending
              | .code _ => leaveEnding ending
          | .error .notExecutable =>
              let script := (← readFile? path).getD []
              isolated do
                modify fun state => { state with
                  name := path, arguments, functions := [], options := [] }
                runScript launch bound script
          | .error fault => leave (faultStatus fault)

/-- Call a function. -/
def call (launch : Launcher) : Nat -> Command -> List String -> Action Unit
  | 0, _, _ => throw .exit
  | bound + 1, body, arguments => do
      let outer ← get
      modify fun state => { state with arguments, loops := 0, saved := some [] }
      let returning : Action Unit := do
        try run launch bound body
        catch departure =>
          if departure != .back then throw departure
      andFinally returning
        (modify fun state => { state with
          arguments := outer.arguments
          loops := outer.loops
          values := (state.saved.getD []).foldl
            (fun values (name, value) => values.putBack name value) state.values
          saved := outer.saved })

/-- Send a signal. -/
def kill (launch : Launcher) : Nat -> List String -> Action Unit
  | 0, _ => throw .exit
  | bound + 1, words => do
      let own := toString (← get).process
      match words, signalOf? words with
      | "-l" :: _, _ => leave 0
      | _, none => leave 2
      | _, some (_, []) => leave 2
      | _, some (signal, targets) =>
          if !targets.all fun target => target.toInt?.isSome then leave 2
          else if !targets.contains own then leave 1
          else if signal = 0 then leave 0
          else
            let traps := (← get).traps
            match if signal = 9 then none else traps.lookup signal with
            | some script =>
                leave 0
                runScript launch bound script.toList
            | none => if Signal.harmless.contains signal then leave 0 else throw (.killed signal)

end

/-! ## A shell from start to end -/

/-- Run the script for the end of a shell, which keeps its status unless that script
exits. -/
def runTrap (launch : Launcher) (bound : Nat) : Action Unit := do
  let state ← get
  match state.traps.lookup 0 with
  | none => return
  | some script =>
      modify fun state => { state with traps := [] }
      runScript launch bound script.toList
      leave state.status

/-- How a shell ends that runs a script. -/
def process (launch : Launcher) (bound : Nat) (script : Action Unit) : StateM State Ending := do
  let ending (departure : Except Departure Unit) : StateM State Ending := do
    match departure with
    | .error (.killed signal) => return .signal signal
    | _ => return .code (← get).status
  match ← ExceptT.run script with
  | .error (.killed signal) => return .signal signal
  | _ => ending (← ExceptT.run (runTrap launch bound))

end Action

end Shell
end ConfigWiring
