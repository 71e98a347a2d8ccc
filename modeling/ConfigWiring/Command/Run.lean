import ConfigWiring.Build.Context
import ConfigWiring.Command.Arguments
import ConfigWiring.Formatter.Program
import ConfigWiring.Generator.Generation
import ConfigWiring.Project.Loading

/-!
# Running a command line

The program is a build with one component, which offers three commands: generate the wiring
of a project, tell its marked declarations, and bring its env file up to date.
-/

namespace ConfigWiring
namespace Generator

/-- Generate the wiring of the project in a directory. -/
def generateCommand (generator : Generator) (briefing : Briefing) : Procedure Unit := do
  let project ← .of fun host => (Project.load host briefing.root, host)
  let report ← generator.generate project briefing.descriptors
  if let some sync := report.sync? then
    Procedure.tell [.variablesExported sync.added.length sync.exported.length]
  if !report.written && !report.removed then
    Procedure.tell [.nothingMarked briefing.name]

/-- The notice of a marked declaration. -/
def noticeOf (marked : MarkedType) : Notice :=
  .declarationFound marked.tagName marked.package marked.typeName marked.fields.length

/-- Tell the marked declarations of the project in a directory. -/
def scanCommand (generator : Generator) (briefing : Briefing) : Procedure Unit := do
  let project ← .of fun host => (Project.load host briefing.root, host)
  let marked ← .ofExcept (generator.marked project)
  Procedure.tell (marked.map noticeOf ++ [.scanComplete marked.length])

/-- Bring the env file of the project in a directory up to date. -/
def envCommand (generator : Generator) (briefing : Briefing) : Procedure Unit := do
  let project ← .of fun host => (Project.load host briefing.root, host)
  let descriptors ← .ofExcept (generator.descriptors project)
  let report ← generator.synchronize project (descriptors ++ briefing.descriptors)
  Procedure.tell [.variablesSynchronised report.added.length report.persisted]

/-- A command that does a step on the host. -/
def commandOf (name usage : String) (procedure : Briefing -> Procedure Unit) :
    BuildCommand Unit where
  name := name
  usage := usage
  action := fun briefing => .perform (procedure briefing) fun
    | .ok () => .done ()
    | .error failure => .fail (.failure failure)

/-- The commands that come with a generator. -/
def commands (generator : Generator) : List (BuildCommand Unit) := [
  commandOf "generate" "generate @app-cfg wiring and seed the env file" generator.generateCommand,
  commandOf "scan" "list @app-cfg declarations" generator.scanCommand,
  commandOf "env" "synchronise the env file" generator.envCommand]

/-- The component that comes with a generator. -/
def component (generator : Generator) : Component Unit :=
  { Component.idle with commander? := some generator.commands }

end Generator

namespace CommandLine

/-- Why a command line fails. -/
inductive RunFault where
  /-- A setting cannot be read. -/
  | settings (error : Config.Error)
  /-- A file that the settings name cannot be read. -/
  | file (path : Path) (fault : FileFault)
  /-- The command failed. -/
  | command (failure : Failure)
  deriving DecidableEq, Repr

namespace RunFault

/-- The wording of a fault. -/
def message : RunFault -> String
  | settings error => "invalid configuration: " ++ error.message
  | file path fault => (Failure.io path fault).message
  | command failure => failure.message

end RunFault

/-- The text of the module file in a directory, if it can be read. -/
def moduleText? (host : Host) (root : Path) : Option String :=
  match host.files.openDirectory host.place root with
  | .ok place => (host.files.readNamed place Project.moduleFileName).toOption
  | .error _ => none

/-- The last name of the place where a path leads. -/
def placeName? (host : Host) (root : Path) : Option String :=
  match host.files.resolve host.place root with
  | .ok (place, _) => place.getLast?
  | .error _ => none

/-- The name of a project that is given none: the name of its module, or else of its
directory. -/
def defaultProjectName (host : Host) (root : Path) : String :=
  match (moduleText? host root).bind Go.Module.parse? with
  | some mod => mod.name
  | none => (placeName? host root).getD ""

/-- The generator that settings ask for. -/
def generatorOf (settings : Settings) (host : Host) (root : Path) :
    Except RunFault Generator := do
  let formatter :=
    if settings.format then ImportFormatter.program ImportFormatter.standardProgram
    else .idle
  match settings.generatorConfig host root with
  | .error (path, fault) => .error (.file path fault)
  | .ok config =>
      match Generator.make config formatter with
      | .error failure => .error (.command failure)
      | .ok generator => .ok generator

namespace Line

/-- The settings of a command line. -/
def settings (line : Line) (host : Host) : Except RunFault Settings :=
  (Settings.load host line.root line.overrides).mapError .settings

/-- The name of the project of a command line. -/
def projectName (line : Line) (host : Host) : String :=
  line.name?.getD (defaultProjectName host line.root)

/-- The build of a command line. -/
def context (line : Line) (host : Host) (generator : Generator) : Context Unit where
  name := line.projectName host
  root := line.root
  description := "generates wiring from marked declarations"
  version := "0.3.0"
  modules := [generator.component]

/-- Run a command line; its component has no constructors, so nothing nests. -/
def run (line : Line) (host : Host) : Outcome RunFault Unit × Host :=
  match line.settings host with
  | .error fault => (.failed fault, host)
  | .ok settings =>
      match generatorOf settings host line.root with
      | .error fault => (.failed fault, host)
      | .ok generator =>
          let (outcome, host) := (line.context host generator).run 0 line.command.word host
          (outcome.mapError .command, host)

end Line
end CommandLine
end ConfigWiring
