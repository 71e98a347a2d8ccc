import ConfigWiring.Build.Lifecycle

/-!
# Build contexts

A context is a project with the components of its build.  A run of a command checks the
context, lets the components prepare themselves, and runs the first command of the name in a
new scope; it stops at the first of these that fails.
-/

namespace ConfigWiring

/-- A project with the components of its build. -/
structure Context (value : Type) where
  /-- The name of the project. -/
  name : String
  /-- The directory of the project. -/
  root : Path
  /-- What the build is for. -/
  description : String
  /-- The version of the build. -/
  version : String
  /-- The components. -/
  modules : List (Component value)

namespace Context

variable {value : Type}

/-- How a context is shown. -/
def text (context : Context value) : String :=
  "Context \x7b name: " ++ Text.quoted context.name ++
    ", root: " ++ Text.quoted context.root.text ++
    ", description: " ++ Text.quoted context.description ++
    ", version: " ++ Text.quoted context.version ++
    ", modules: " ++ toString context.modules.length ++ " \x7d"

/-- What is wrong with a context, if anything is. -/
def fault? (context : Context value) : Option Failure :=
  if context.name.isEmpty then some (.invalidContext "Name")
  else if context.root.text.isEmpty then some (.invalidContext "Root")
  else none

/-- What the components are configured by, in their order. -/
def descriptors (context : Context value) : List Descriptor :=
  (context.modules.filterMap Component.configurer?).flatten

/-- The commands of the components, in their order. -/
def commands (context : Context value) : List (BuildCommand value) :=
  (context.modules.filterMap Component.commander?).flatten

/-- The names and usage lines of the commands. -/
def usage (context : Context value) : List (String × String) :=
  context.commands.map fun command => (command.name, command.usage)

/-- What a command is told of the build. -/
def briefing (context : Context value) : Briefing where
  name := context.name
  root := context.root
  description := context.description
  version := context.version
  descriptors := context.descriptors
  moduleCount := context.modules.length

/-- Do the work before any command, up to the first that fails. -/
def prepareAll (limit : Nat) : List (Work value) -> Host -> Outcome Failure Unit × Host
  | [], host => (.done (), host)
  | work :: rest, host =>
      match work.run limit ⟨.empty, host⟩ with
      | (.done _, session) => prepareAll limit rest session.host
      | (.failed error, session) => (.failed (.ofAction error), session.host)
      | (.brokenDown message, session) => (.brokenDown message, session.host)
      | (.tooDeep, session) => (.tooDeep, session.host)

/-- Check a context and let its components prepare themselves. -/
def prepare (limit : Nat) (context : Context value) (host : Host) :
    Outcome Failure Unit × Host :=
  match context.fault? with
  | some failure => (.failed failure, host)
  | none => prepareAll limit (context.modules.filterMap Component.preparer?) host

/-- Run an action in a new scope of the components. -/
def runAction (limit : Nat) (context : Context value) (action : Work value) (host : Host) :
    Outcome Failure value × Host :=
  Lifecycle.runAction limit context.modules action host

/-- The first command of a name. -/
def command? (context : Context value) (name : String) : Option (BuildCommand value) :=
  context.commands.find? fun command => command.name == name

/-- Run the command of a name. -/
def run (limit : Nat) (context : Context value) (name : String) (host : Host) :
    Outcome Failure value × Host :=
  match context.prepare limit host with
  | (.done (), host) =>
      match context.command? name with
      | none => (.failed (.unknownCommand name), host)
      | some command => context.runAction limit (command.action context.briefing) host
  | (.failed failure, host) => (.failed failure, host)
  | (.brokenDown message, host) => (.brokenDown message, host)
  | (.tooDeep, host) => (.tooDeep, host)

end Context
end ConfigWiring
