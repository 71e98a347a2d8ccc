import ConfigWiring.EnvFile.Sync
import ConfigWiring.Generator.Basic

/-!
# Generation

A run of the generator writes the file of a project's marked structs and brings the env
file up to date afterwards.  Without marked structs it removes what an earlier run wrote
and leaves the env file alone.
-/

namespace ConfigWiring

/-- What a run of the generator did. -/
structure GenerationReport where
  /-- The generated file. -/
  target : Path
  /-- Whether the file was written. -/
  written : Bool
  /-- Whether a file was removed. -/
  removed : Bool
  /-- The descriptors of the run. -/
  descriptors : List Descriptor
  /-- What became of the env file, if it was brought up to date. -/
  sync? : Option SyncReport
  deriving DecidableEq, Repr

namespace Generator

/-- Bring the env file of a project up to date. -/
def synchronize (generator : Generator) (project : Project) (descriptors : List Descriptor) :
    Procedure SyncReport :=
  EnvFile.synchronize (project.resolve generator.config.envFile) descriptors

/-- Format a generated file; a formatter that fails costs a warning. -/
def formatTarget (generator : Generator) (target : Path) : Procedure Unit :=
  .of fun host =>
    match generator.formatter.format target host with
    | (none, host) => (.ok (), host)
    | (some _, host) =>
        (.ok (), { host with notices := host.notices ++ [.formattingFailed target] })

/-- Remove the file that an earlier run wrote. -/
def clear (target : Path) : Procedure GenerationReport := do
  let removed ← .of (Host.removeFile target)
  if removed then Procedure.tell [.wiringRemoved target]
  return ⟨target, false, removed, [], none⟩

/-- Write and format the generated file. -/
def write (generator : Generator) (target : Path) (text : String) (count : Nat) :
    Procedure Unit := do
  Procedure.of (Host.replaceFile target text)
  Procedure.tell [.wiringGenerated target count]
  generator.formatTarget target

/-- Generate the file of a project, and bring the env file up to date with the descriptors
of the file and those of further modules. -/
def generate (generator : Generator) (project : Project) (further : List Descriptor) :
    Procedure GenerationReport := do
  let marked ← .ofExcept (generator.marked project)
  let descriptors ← .ofExcept (generator.describe marked)
  let target := project.resolve generator.config.targetPath
  Procedure.tell (generator.importNotices project marked)
  let environment := (← get).environment
  let file := generator.wiringFile project marked descriptors
  match ← .ofExcept (generator.template.render environment file) with
  | .empty => clear target
  | .source text =>
      generator.write target text descriptors.length
      let sync? ←
        if generator.config.dotenv then
          some <$> generator.synchronize project (descriptors ++ further)
        else pure none
      return ⟨target, true, false, descriptors, sync?⟩

end Generator
end ConfigWiring
