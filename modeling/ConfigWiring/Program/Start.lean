import ConfigWiring.Program.Interpreter
import ConfigWiring.Program.Tool

/-!
# Starting programs

A path leads to a program of the system or to a script, which the program runs that its
first line names.  A started program gets its arguments and the variables meant for
programs, and its changes to files stay.
-/

namespace ConfigWiring
namespace Program

open Shell Shell.Action

/-- How many files may name each other as interpreters. -/
def interpreterLimit : Nat := 6

/-- The paths of the system that lead to something else than programs. -/
def unfit : List String :=
  ["/", "/bin", "/dev", "/dev/null", "/etc", "/etc/passwd", "/tmp", "/usr", "/usr/bin"]

/-- The system program that runs what a path leads to: its name, the name it is called
by and its arguments.  The number bounds how many interpreters lie between. -/
def resolve (host : Host) : Nat -> String -> List String ->
    Except FileFault (String × String × List String)
  | 0, _, _ => .error .linkLoop
  | bound + 1, path, arguments =>
      match systemProgram? path with
      | some name => .ok (name, path, arguments)
      | none =>
          if unfit.contains path then .error .permissionDenied
          else
            match host.files.resolve host.place ⟨path⟩ with
            | .error fault => .error fault
            | .ok (_, .file mode bytes) =>
                if mode &&& 0o111 = 0 then .error .permissionDenied
                else
                  match Interpreter.ofFile? bytes with
                  | none => .error .notExecutable
                  | some interpreter =>
                      resolve host bound interpreter.path
                        (interpreter.argument.toList ++ path :: arguments)
            | .ok _ => .error .permissionDenied

/-! ## The shell as a program -/

/-- How many commands a shell runs at most. -/
def commandLimit : Nat := 100000

/-- Switch options as the words in front of others say, and return those others.  The
flag tells whether they begin with a script.  The number bounds how many there are. -/
def shellOptions (scripted : Bool) : Nat -> List String -> Action (Bool × List String)
  | 0, words => return (scripted, words)
  | _, [] => return (scripted, [])
  | bound + 1, word :: words => do
      match word.toList with
      | ['-'] | ['-', '-'] => return (scripted, words)
      | sign :: letters =>
          if (sign = '-' || sign = '+') && !letters.isEmpty then
            let named ← switchAll (sign == '-') (letters.filter (· != 'c'))
            let scripted := scripted || letters.contains 'c'
            if !named then shellOptions scripted bound words
            else
              match words with
              | [] => shellOptions scripted bound []
              | name :: words =>
                  match optionNames.lookup name with
                  | some letter =>
                      switchOption (sign == '-') letter
                      shellOptions scripted bound words
                  | none => abort
          else return (scripted, word :: words)
      | [] => return (scripted, word :: words)

/-- Run the script that words lead to. -/
def runShell (launch : Launcher) (called : String) (words : List String) : Action Unit := do
  assign "PWD" (pathOf (← get).host.place)
  let (scripted, words) ← shellOptions false (words.length + 1) words
  let script ←
    match scripted, words with
    | true, [] => abort
    | true, script :: words =>
        modify fun state => { state with
          name := words.head?.getD called, arguments := words.drop 1 }
        pure script.toList
    | false, [] =>
        modify fun state => { state with name := called }
        rest 0
    | false, path :: arguments =>
        if (← get).options.contains 's' then
          modify fun state => { state with name := called, arguments := path :: arguments }
          rest 0
        else
          modify fun state => { state with name := path, arguments }
          match ← readFile? path with
          | some script => pure script
          | none => abort
  runScript launch commandLimit (script.filter (· != '\x00'))

/-! ## Changing the variables of a program -/

/-- The words with the first one split at blanks if an option asks for that. -/
def splitFirst : List String -> List String
  | [] => []
  | word :: words =>
      let split (text : List Char) : List String :=
        ((Text.splitAll ' ' text).filter (!·.isEmpty)).map String.ofList
      match Text.behind? ['-', 'S'] word.toList, words with
      | none, _ => word :: words
      | some [], text :: words => split text.toList ++ words
      | some text, words => split text ++ words

/-- Run the program that words name behind the changes of variables.  The flag tells
whether options may stand in front. -/
def runChanged (launch : Launcher) (optional : Bool) : List String -> Action Unit
  | [] => do
      let state ← get
      say (String.join (state.values.pairs.map fun (name, value) =>
        name ++ "=" ++ value ++ "\n"))
  | word :: words => do
      if optional && (word = "-i" || word = "-") then
        modify fun state => { state with values := .empty, exported := [] }
        runChanged launch true words
      else if optional && word.toList.head? = some '-' then leave 125
      else
        match splitAssignment word with
        | (name, some value) =>
            assign name value
            modify fun state => { state with exported := name :: state.exported }
            runChanged launch false words
        | (name, none) =>
            match ← findProgram name with
            | .error status => leave status
            | .ok path =>
                match ← (launch path words : StateM State _) with
                | .ok (.code number) => leave number
                | .ok (.signal number) => throw (.killed number)
                | .error fault => leave (if fault = .notFound then 127 else 126)

/-! ## Processes -/

/-- Run a program of the system. -/
def runSystem (launch : Launcher) (name called : String) (words : List String) :
    StateM State Ending :=
  process launch commandLimit
    (if ["bash", "dash", "sh"].contains name then runShell launch called words
    else if name = "env" then runChanged launch true (splitFirst words)
    else runTool name words)

/-- The state in which a program begins that a shell starts. -/
def begun (state : State) : State :=
  let handedOn := state.values.pairs.filter fun (name, _) => state.exported.contains name
  { State.beginning state.host (state.process + 1) ⟨handedOn⟩ with
    streams := state.streams
    sources := state.sources
    gathered := state.gathered }

/-- Start programs.  The number bounds how many may wait for each other. -/
def launch : Nat -> Launcher
  | 0, _, _ => return .error .notFound
  | depth + 1, path, arguments => do
      let state ← get
      match resolve state.host interpreterLimit path arguments with
      | .error fault => return .error fault
      | .ok (name, called, words) =>
          let (ending, inner) := (runSystem (launch depth) name called words).run (begun state)
          set (state.behind inner)
          return .ok ending

/-- How many programs may wait for each other. -/
def processLimit : Nat := 100

/-- The number of the process that a run is. -/
def ownProcess : Nat := 1000

/-- Run the program that a path leads to. -/
def runPath (host : Host) (arguments : List String) (path : Path) :
    Except FileFault (Ending × Host) :=
  match (launch processLimit path.text arguments).run
      (.beginning host ownProcess host.environment) with
  | (.error fault, _) => .error fault
  | (.ok ending, state) => .ok (ending, { host with files := state.host.files })

/-- Run the first program of a name in a list of directories.  The flag tells whether
there is one that may not be run. -/
def search (host : Host) (arguments : List String) (name : String) (denied : Bool) :
    List String -> Except FileFault (Ending × Host)
  | [] => .error (if denied then .permissionDenied else .notFound)
  | directory :: rest =>
      let path := Path.mk (if directory.isEmpty then "." else directory) / name
      match runPath host arguments path with
      | .error .permissionDenied => search host arguments name true rest
      | .error .notFound | .error .notDirectory => search host arguments name denied rest
      | outcome => outcome

/-- The directories that are searched unless the process names others. -/
def defaultSearchPath : String := "/bin:/usr/bin"

/-- Run a program by its name or path. -/
def run (host : Host) (name : String) (arguments : List String) :
    Except FileFault (Ending × Host) :=
  if (name :: arguments).any fun word => word.toList.contains '\x00' then .error .endInWord
  else if name.isEmpty then .error .notFound
  else if name.toList.contains '/' then runPath host arguments ⟨name⟩
  else
    let searched := (host.environment.get? "PATH").getD defaultSearchPath
    search host arguments name false ((Text.splitAll ':' searched.toList).map String.ofList)

end Program
end ConfigWiring
