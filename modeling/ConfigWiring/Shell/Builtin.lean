import ConfigWiring.Shell.Condition
import ConfigWiring.Shell.Expansion
import ConfigWiring.Shell.Output

/-!
# Commands that shells know

A shell knows some commands itself.  Mistakes in the use of the special ones among them
end the shell.
-/

namespace ConfigWiring
namespace Shell

namespace Action

/-- Write a text and leave the status of success. -/
def say (text : String) : Action Unit := do
  write 1 text
  leave 0

/-- The status that a word spells. -/
def statusOf? (word : String) : Option Nat :=
  match Condition.number? word with
  | some number =>
      if 0 ≤ number && number < Int.pow 2 31 then some (number.toNat % 256) else none
  | none => none

/-- Leave the status that some words begin with, or the one of the last command. -/
def leaveGiven : List String -> Action Unit
  | [] => return
  | word :: _ =>
      match statusOf? word with
      | some status => leave status
      | none => abort

/-- The number of loops that some words begin with. -/
def levelsOf : List String -> Action Nat
  | [] => return 1
  | word :: _ =>
      match Condition.number? word with
      | some number => if number ≤ 0 then abort else return number.toNat
      | none => abort

/-! ## Files -/

/-- The programs that every host has, by their directories. -/
def systemDirectories : List String := ["/bin/", "/usr/bin/"]

/-- The names of the programs that every host has. -/
def systemPrograms : List String :=
  ["[", "bash", "cat", "cp", "dash", "echo", "env", "false", "mkdir", "mv", "printf", "pwd", "rm",
    "sh", "sleep", "test", "touch", "true"]

/-- The program of the system that a path leads to. -/
def systemProgram? (path : String) : Option String :=
  systemDirectories.findSome? fun directory =>
    match Text.behind? directory.toList path.toList with
    | some name =>
        let name := String.ofList name
        if systemPrograms.contains name then some name else none
    | none => none

/-- The answer to a question about a file. -/
def fileAnswer (host : Host) (question path : String) : Bool :=
  if path = nowhere then ["-c", "-e", "-r", "-w"].contains question
  else if (systemProgram? path).isSome then ["-e", "-f", "-r", "-s", "-w", "-x"].contains question
  else if question = "-h" || question = "-L" then
    match host.files.locateName host.place ⟨path⟩ with
    | .ok (place, some name) =>
        match host.files.at? (place ++ [name]) with
        | some (.link _) => true
        | _ => false
    | _ => false
  else
    match host.files.resolve host.place ⟨path⟩ with
    | .error _ => false
    | .ok (_, .file mode bytes) =>
        match question with
        | "-e" | "-f" | "-r" | "-w" | "-O" | "-G" => true
        | "-s" => bytes.size > 0
        | "-x" => mode &&& 0o111 != 0
        | _ => false
    | .ok (_, _) => ["-d", "-e", "-r", "-s", "-w", "-x", "-O", "-G"].contains question

/-- Judge a condition. -/
def judge (words : List String) : Action Unit := do
  match Condition.holds? (fileAnswer (← get).host) words with
  | some true => leave 0
  | some false => leave 1
  | none => leave 2

/-- The path of the directory at a place. -/
def pathOf (place : Place) : String := "/" ++ "/".intercalate place

/-- Go to a directory. -/
def enter (path : String) : Action Unit := do
  let state ← get
  match state.host.files.openDirectory state.host.place ⟨path⟩ with
  | .error _ => leave 2
  | .ok place =>
      assign "OLDPWD" (pathOf state.host.place)
      modify fun state => { state with host := { state.host with place } }
      assign "PWD" (pathOf place)
      leave 0

/-! ## Variables and options -/

/-- Split a word at its first sign of equality. -/
def splitAssignment (word : String) : String × Option String :=
  let name := word.toList.takeWhile (· != '=')
  match word.toList.drop name.length with
  | _ :: value => (String.ofList name, some (String.ofList value))
  | [] => (String.ofList name, none)

/-- Let programs get some variables, which may be given values. -/
def exportAll : List String -> Action Unit
  | [] => leave 0
  | word :: words => do
      let (name, value) := splitAssignment word
      if !isName name.toList then abort
      match value with
      | some value => assign name value
      | none => pure ()
      modify fun state => { state with exported := name :: state.exported }
      exportAll words

/-- Give some variables values. -/
def assignAll : List String -> Action Unit
  | [] => leave 0
  | word :: words => do
      match splitAssignment word with
      | (name, some value) =>
          if !isName name.toList then abort
          assign name value
      | (_, none) => pure ()
      assignAll words

/-- Let some variables belong to a function, and give them values. -/
def keepAll : List String -> Action Unit
  | [] => do if (← get).saved.isNone then abort else leave 0
  | word :: words => do
      let state ← get
      match state.saved, splitAssignment word with
      | none, _ => abort
      | some saved, (name, value) =>
          set { state with saved := some ((name, state.values.get? name) :: saved) }
          match value with
          | some value => assign name value
          | none => pure ()
          keepAll words

/-- Take some variables or functions away. -/
def unsetAll (functions : Bool) : List String -> Action Unit
  | [] => leave 0
  | "-f" :: names => unsetAll true names
  | "-v" :: names => unsetAll false names
  | name :: names => do
      if !functions && !isName name.toList then abort
      modify fun state =>
        if functions then
          { state with functions := state.functions.filter fun known => known.1 != name }
        else
          { state with
            values := state.values.erase name
            exported := state.exported.filter (· != name) }
      unsetAll functions names

/-- The options by their letters. -/
def optionNames : List (String × Char) :=
  [("errexit", 'e'), ("noglob", 'f'), ("ignoreeof", 'I'), ("interactive", 'i'), ("monitor", 'm'),
    ("noexec", 'n'), ("stdin", 's'), ("xtrace", 'x'), ("verbose", 'v'), ("vi", 'V'), ("emacs", 'E'),
    ("noclobber", 'C'), ("allexport", 'a'), ("notify", 'b'), ("nounset", 'u'), ("privileged", 'p'),
    ("nolog", 'l'), ("debug", 'd')]

/-- Switch an option on or off. -/
def switchOption (on : Bool) (letter : Char) : Action Unit :=
  modify fun state =>
    let others := state.options.filter (· != letter)
    { state with options := if on then letter :: others else others }

/-- Switch the options on or off whose letters a word consists of.  The result tells
whether the next word names one more. -/
def switchAll (on : Bool) : List Char -> Action Bool
  | [] => return false
  | 'o' :: letters => do
      let _ ← switchAll on letters
      return true
  | letter :: letters => do
      if !(optionNames.any fun (_, known) => known == letter && letter.isAlpha) ||
          "ld".toList.contains letter then abort
      switchOption on letter
      switchAll on letters

/-- Switch options as words say, and return the words behind them, if they tell new
arguments.  The number bounds how many there are. -/
def switchOptions : Nat -> List String -> Action (Option (List String))
  | 0, _ => return none
  | _, [] => return none
  | bound + 1, word :: words => do
      match word.toList with
      | ['-', '-'] => return some words
      | ['-'] => return if words.isEmpty then none else some words
      | sign :: letters =>
          if (sign = '-' || sign = '+') && !letters.isEmpty then
            let named ← switchAll (sign == '-') letters
            if named then
              match words with
              | name :: words =>
                  match optionNames.lookup name with
                  | some letter =>
                      switchOption (sign == '-') letter
                      switchOptions bound words
                  | none => abort
              | [] => return none
            else switchOptions bound words
          else return some (word :: words)
      | [] => return some (word :: words)

/-- Switch options or set the arguments. -/
def setUp (words : List String) : Action Unit := do
  match ← switchOptions (words.length + 1) words with
  | some arguments => modify fun state => { state with arguments }
  | none => pure ()
  leave 0

/-- Drop some arguments. -/
def shift (words : List String) : Action Unit := do
  let count ← match words with
    | [] => pure 1
    | word :: _ =>
        match Condition.number? word with
        | some count => if count < 0 then abort else pure count.toNat
        | none => abort
  if count > (← get).arguments.length then abort
  modify fun state => { state with arguments := state.arguments.drop count }
  leave 0

/-! ## Reading -/

/-- A line without its escapes; what an escape quotes does not separate fields. -/
def unescapedLine (raw : Bool) : List Char -> List MarkedChar
  | [] => []
  | '\\' :: char :: rest =>
      if raw then ('\\', false) :: unescapedLine raw (char :: rest)
      else (char, true) :: unescapedLine raw rest
  | char :: rest => (char, false) :: unescapedLine raw rest

/-- Give variables the fields of a line; the last one gets all that is left. -/
def assignFields (isSeparator : MarkedChar -> Bool) : List String -> List MarkedChar -> Action Unit
  | [], _ => return
  | [name], line =>
      let line := (line.dropWhile isSeparator).reverse.dropWhile isSeparator
      assign name (String.ofList (line.reverse.map (·.1)))
  | name :: names, line => do
      let line := line.dropWhile isSeparator
      let field := line.takeWhile fun char => !isSeparator char
      assign name (String.ofList (field.map (·.1)))
      assignFields isSeparator names (line.drop field.length)

/-- Read a line into variables. -/
def readInto (words : List String) : Action Unit := do
  let raw := words.head? == some "-r"
  let names := if raw then words.drop 1 else words
  let areNames := names.all fun name => isName name.toList
  let text ← rest 0
  let line := text.takeWhile (· != '\n')
  setRest 0 (text.drop (line.length + 1))
  let separators ← separators
  let isSeparator (char : MarkedChar) : Bool := !char.2 && separators.contains char.1
  if areNames then assignFields isSeparator names (unescapedLine raw line)
  leave (if names.isEmpty || !areNames then 2 else if line.length < text.length then 0 else 1)

/-! ## All together -/

/-- The commands that a shell knows and whose mistakes end it. -/
def specialNames : List String :=
  [".", ":", "break", "continue", "eval", "exec", "exit", "export", "readonly", "return", "set",
    "shift", "times", "trap", "unset"]

/-- The other commands that a shell knows. -/
def regularNames : List String :=
  ["[", "cd", "chdir", "command", "echo", "false", "kill", "local", "printf", "pwd", "read", "test",
    "true", "type", "umask", "wait"]

/-- Run a command that runs no others.  The result tells whether there is such a
one. -/
def builtin (name : String) (words : List String) : Action Bool := do
  match name with
  | ":" | "true" | "wait" | "times" => leave 0
  | "false" => leave 1
  | "exit" =>
      leaveGiven words
      throw .exit
  | "return" =>
      leaveGiven words
      throw .back
  | "break" => departFrom (← levelsOf words) .out
  | "continue" => departFrom (← levelsOf words) .onward
  | "echo" => say (Output.words words)
  | "printf" =>
      let isOption := words.head?.any fun word =>
        word.length > 1 && word.toList.head? == some '-' && word != "--"
      match if words.head? = some "--" then words.drop 1 else words with
      | format :: words =>
          if isOption then leave 2
          else
            let (text, status) := Output.formatted format words
            write 1 (String.ofList text)
            leave status
      | [] => leave 2
  | "test" => judge words
  | "[" =>
      if (words.getLast?.bind fun word => word.toList.head?) = some ']' then judge words.dropLast
      else leave 2
  | "pwd" => say (pathOf (← get).host.place ++ "\n")
  | "cd" | "chdir" =>
      match words.filter fun word => word != "-P" && word != "-L" && word != "--" with
      | "-" :: _ => enter ((← valueOf? "OLDPWD").getD "")
      | path :: _ => enter path
      | [] => enter ((← valueOf? "HOME").getD ".")
  | "export" => exportAll (words.filter (· != "-p"))
  | "readonly" => assignAll (words.filter (· != "-p"))
  | "local" => keepAll words
  | "unset" => unsetAll false words
  | "set" => setUp words
  | "shift" => shift words
  | "read" => readInto words
  | "umask" =>
      match words with
      | [] =>
          let digits := Nat.toDigits 8 (← get).host.umask
          say (String.ofList (List.replicate (4 - digits.length) '0' ++ digits) ++ "\n")
      | word :: _ =>
          match Calculation.ofDigits? 8 word.toList with
          | some mask =>
              modify fun state => { state with host := { state.host with umask := mask.toNat } }
              leave 0
          | none => leave 2
  | _ => return false
  return true

end Action
end Shell
end ConfigWiring
