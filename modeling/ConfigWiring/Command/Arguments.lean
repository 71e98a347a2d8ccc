import ConfigWiring.Command.Settings

/-!
# Command lines

A command line has options, the name of a command, and the options of the command.  The
options of the first kind may stand behind the command as well, where they weigh more.  An
option that takes a value has it behind an equals sign or as the next word; such a word is
taken up when the next option, or the end, is reached.
-/

namespace ConfigWiring
namespace CommandLine

/-- Why a command line is not carried out. -/
inductive UsageFault where
  /-- The command line is empty. -/
  | nothingGiven
  /-- The command line asks for help. -/
  | helpAsked
  /-- The command line asks for the version. -/
  | versionAsked
  /-- No command is named. -/
  | missingCommand
  /-- A word that is no command stands where one should. -/
  | unknownCommand
  /-- A word that is neither an option nor expected. -/
  | unknownArgument
  /-- An option has no value, or one that it does not allow. -/
  | invalidValue
  /-- An option has a value but takes none. -/
  | excessValue
  /-- An option is given twice. -/
  | repeatedOption
  deriving DecidableEq, Repr

/-- The options. -/
inductive OptionName where
  | root | name | verbose
  | destination | target | tag | template | envFile | noDotenv | noFormat | ctorPolicy
  | help | version
  deriving DecidableEq, Repr

namespace OptionName

/-- The long spelling of an option. -/
def long : OptionName -> String
  | root => "root"
  | name => "name"
  | verbose => "verbose"
  | destination => "destination"
  | target => "target"
  | tag => "tag"
  | template => "template"
  | envFile => "env-file"
  | noDotenv => "no-dotenv"
  | noFormat => "no-format"
  | ctorPolicy => "ctor-policy"
  | help => "help"
  | version => "version"

/-- The letter of an option. -/
def short? : OptionName -> Option Char
  | verbose => some 'v'
  | help => some 'h'
  | version => some 'V'
  | _ => none

/-- Whether an option takes a value. -/
def takesValue : OptionName -> Bool
  | verbose | noDotenv | noFormat | help | version => false
  | _ => true

end OptionName

/-- The commands. -/
inductive CommandName where
  | generate | scan | env
  deriving DecidableEq, Repr

namespace CommandName

/-- Every command. -/
def all : List CommandName := [generate, scan, env]

/-- The word for a command. -/
def word : CommandName -> String
  | generate => "generate"
  | scan => "scan"
  | env => "env"

/-- The command that a word names. -/
def ofWord? (word : String) : Option CommandName := all.find? (·.word == word)

end CommandName

/-- The options that may stand in front of a command and behind it. -/
def sharedOptions : List OptionName := [.root, .name, .verbose, .help]

/-- The options in front of a command, or those behind it. -/
def optionsOf : Option CommandName -> List OptionName
  | none => sharedOptions ++ [.version]
  | some .generate =>
      sharedOptions ++
        [.destination, .target, .tag, .template, .envFile, .noDotenv, .noFormat, .ctorPolicy]
  | some .scan => sharedOptions
  | some .env => sharedOptions ++ [.envFile]

/-- Options with their values. -/
abbrev Given := List (OptionName × String)

/-- What is known in the middle of a command line. -/
structure State where
  /-- The options that are taken up. -/
  given : Given
  /-- The option that is not taken up yet, with its value if that is there. -/
  waiting? : Option (OptionName × Option String)
  deriving DecidableEq, Repr

namespace State

/-- Nothing is known. -/
def start : State := ⟨[], none⟩

/-- Take up an option. -/
def give (state : State) (option : OptionName) (value : String) : Except UsageFault State :=
  if option = .help then .error .helpAsked
  else if option = .version then .error .versionAsked
  else if state.given.any (·.1 == option) then .error .repeatedOption
  else if option = .ctorPolicy && (CtorNamePolicy.ofWord? value).isNone then
    .error .invalidValue
  else .ok { state with given := state.given ++ [(option, value)] }

/-- Take up the option that waits. -/
def settle (state : State) : Except UsageFault State :=
  match state.waiting? with
  | none => .ok state
  | some (_, none) => .error .invalidValue
  | some (option, some value) => { state with waiting? := none }.give option value

/-- Whether the next word is the value of the option that waits. -/
def wantsValue (state : State) : Bool :=
  match state.waiting? with
  | some (_, none) => true
  | _ => false

/-- Let a word be the value of the option that waits. -/
def fill (state : State) (value : String) : State :=
  { state with waiting? := state.waiting?.map fun (option, _) => (option, some value) }

end State

/-- What a word looks like. -/
inductive Shape where
  /-- Two dashes, behind which no option stands. -/
  | divider
  /-- A long option, perhaps with a value. -/
  | long (spelling : String) (value? : Option String)
  /-- A dash and the letters of options. -/
  | letters (letters : List Char)
  /-- Anything else. -/
  | plain
  deriving DecidableEq, Repr

/-- What a word looks like. -/
def shapeOf (word : String) : Shape :=
  match word.toList with
  | ['-', '-'] => .divider
  | '-' :: '-' :: rest =>
      let value? := match rest.dropWhile (· != '=') with
        | _ :: value => some (String.ofList value)
        | [] => none
      .long (String.ofList (rest.takeWhile (· != '='))) value?
  | '-' :: letter :: letters => .letters (letter :: letters)
  | _ => .plain

/-- Take a long option. -/
def takeLong (options : List OptionName) (spelling : String) (value? : Option String)
    (state : State) : Except UsageFault State :=
  match options.find? (·.long == spelling) with
  | none => .error .unknownArgument
  | some option =>
      if option.takesValue then do
        let state ← state.settle
        match value? with
        | some value => state.give option value
        | none => return { state with waiting? := some (option, none) }
      else if value?.isSome then .error .excessValue
      else do (← state.settle).give option ""

/-- Take the letters of options. -/
def takeLetters (options : List OptionName) : List Char -> State -> Except UsageFault State
  | [], state => .ok state
  | letter :: letters, state =>
      match options.find? (·.short? == some letter) with
      | none => .error .unknownArgument
      | some option => do
          takeLetters options letters (← (← state.settle).give option "")

/-- The options that words give; a word that is no option ends them unless it is the value
of one.  The result tells the words from the first that is neither, and whether they stand
behind two dashes. -/
def takeOptions (isEnd : String -> Bool) (options : List OptionName) :
    (divided : Bool) -> State -> List String -> Except UsageFault (State × Bool × List String)
  | divided, state, [] => .ok (state, divided, [])
  | true, state, word :: words => .ok (state, true, word :: words)
  | false, state, word :: words =>
      if !state.wantsValue && isEnd word then .ok (state, false, word :: words)
      else
        match shapeOf word with
        | .divider => takeOptions isEnd options true state words
        | .long spelling value? => do
            takeOptions isEnd options false (← takeLong options spelling value? state) words
        | .letters letters => do
            takeOptions isEnd options false (← takeLetters options letters state) words
        | .plain =>
            if state.wantsValue then takeOptions isEnd options false (state.fill word) words
            else .ok (state, false, word :: words)

/-- The word that asks for help. -/
def helpWord : String := "help"

/-- Whether a word stands for a command, or for help. -/
def isCommandWord (word : String) : Bool :=
  word == helpWord || (CommandName.ofWord? word).isSome

/-- The outcome of asking for the help of commands: only one command can be named. -/
def helpOn (words : List String) : UsageFault :=
  match words with
  | [] => .helpAsked
  | [word] => if isCommandWord word then .helpAsked else .unknownCommand
  | _ => .unknownCommand

/-- The options behind a command. -/
def behindCommand (command : CommandName) (words : List String) : Except UsageFault Given := do
  match ← takeOptions (fun _ => false) (optionsOf (some command)) false .start words with
  | (state, _, []) => return (← state.settle).given
  | _ => .error .unknownArgument

/-- A command line with a command. -/
structure Line where
  /-- The options in front of the command. -/
  shared : Given
  /-- The command. -/
  command : CommandName
  /-- The options behind the command. -/
  own : Given
  deriving DecidableEq, Repr

/-- Read the words of a command line. -/
def read (words : List String) : Except UsageFault Line := do
  match ← takeOptions isCommandWord (optionsOf none) false .start words with
  | (state, _, []) =>
      let state ← state.settle
      .error (if state.given.isEmpty then .nothingGiven else .missingCommand)
  | (_, true, word :: _) =>
      .error (if isCommandWord word then .unknownArgument else .unknownCommand)
  | (state, false, word :: rest) =>
      if word = helpWord then .error (helpOn rest)
      else
        match CommandName.ofWord? word with
        | none => .error .unknownCommand
        | some command =>
            let own ← behindCommand command rest
            return ⟨(← state.settle).given, command, own⟩

namespace Line

/-- The value of an option: the one behind the command if there is one. -/
def value? (line : Line) (option : OptionName) : Option String :=
  (line.own.lookup option).or (line.shared.lookup option)

/-- The directory of the project. -/
def root (line : Line) : Path := ⟨(line.value? .root).getD "."⟩

/-- The name of the project, if it is given. -/
def name? (line : Line) : Option String := line.value? .name

/-- Whether more is to be told. -/
def isVerbose (line : Line) : Bool := (line.value? .verbose).isSome

/-- The settings that the options give. -/
def overrides (line : Line) : Overrides where
  tag? := line.own.lookup .tag
  template? := (line.own.lookup .template).map Path.mk
  destination? := (line.own.lookup .destination).map Path.mk
  target? := (line.own.lookup .target).map Path.mk
  envFile? := (line.own.lookup .envFile).map Path.mk
  dotenv? := (line.own.lookup .noDotenv).map fun _ => false
  format? := (line.own.lookup .noFormat).map fun _ => false
  ctorPolicy? := (line.own.lookup .ctorPolicy).bind CtorNamePolicy.ofWord?

end Line
end CommandLine
end ConfigWiring
