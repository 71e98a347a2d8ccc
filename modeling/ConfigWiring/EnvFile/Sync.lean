import ConfigWiring.Descriptor.Basic
import ConfigWiring.EnvFile.Basic
import ConfigWiring.Host.Files

/-!
# Bringing env files up to date

Synchronising adds to an env file the variables of all descriptors that it lacks, and
gives the process every entry of the file that the process does not have a variable for.
What the file says already stays as it is, and the file is written only if something was
added.
-/

namespace ConfigWiring

/-- What synchronising did. -/
structure SyncReport where
  /-- The names that were added to the file. -/
  added : List String
  /-- The names that became variables of the process. -/
  exported : List String
  /-- Whether the file was written. -/
  persisted : Bool
  deriving DecidableEq, Repr

namespace EnvFile

/-- Read an env file; an absent or unreadable one is empty. -/
def load (host : Host) (path : Path) : EnvFile × List Notice :=
  match host.readOptional path with
  | (none, notices) => (empty, notices)
  | (some text, notices) =>
      (parse host.environment text, notices ++ List.replicate (malformedCount text) .malformedLine)

/-- The outcome of adding variables to an env file. -/
structure Merge where
  /-- The file with the variables. -/
  file : EnvFile
  /-- The names that were added, in order. -/
  added : List String
  /-- The warnings about names that no variable can have. -/
  notices : List Notice
  deriving DecidableEq, Repr

/-- Add one more variable. -/
def Merge.step (merge : Merge) (field : FieldDescriptor) : Merge :=
  if !Environment.isName field.key then
    { merge with notices := merge.notices ++ [.invalidKey field.key] }
  else if merge.file.contains field.key then merge
  else { merge with
    file := merge.file.add field.key field.fallback
    added := merge.added ++ [field.key] }

/-- Add the variables that a file lacks. -/
def merge (file : EnvFile) (fields : List FieldDescriptor) : Merge :=
  fields.foldl Merge.step ⟨file, [], []⟩

/-- The outcome of giving entries to a process. -/
structure Exports where
  /-- The variables of the process. -/
  environment : Environment
  /-- The names of the new ones, in order. -/
  exported : List String
  /-- The warnings about entries that cannot be variables. -/
  notices : List Notice
  deriving DecidableEq, Repr

/-- Give one more entry to the process. -/
def Exports.step (exports : Exports) (entry : String × String) : Exports :=
  if exports.environment.contains entry.1 then exports
  else if !Environment.isName entry.1 || !Environment.isValue entry.2 then
    { exports with notices := exports.notices ++ [.notExported entry.1] }
  else { exports with
    environment := exports.environment.put entry.1 entry.2
    exported := exports.exported ++ [entry.1] }

/-- Give the entries of a file to a process that lacks them. -/
def exportTo (file : EnvFile) (environment : Environment) : Exports :=
  file.entries.pairs.foldl Exports.step ⟨environment, [], []⟩

/-- Give the entries of a file to the process of a host. -/
def exportAll (file : EnvFile) : Procedure (List String) :=
  .of fun host =>
    let exports := file.exportTo host.environment
    (.ok exports.exported,
      { host with
        environment := exports.environment
        notices := host.notices ++ exports.notices })

/-- Write an env file. -/
def save (file : EnvFile) (path : Path) : Procedure Unit := .of (Host.replaceFile path file.render)

/-- Add the variables of descriptors to the env file of a path, and give its entries to
the process. -/
def synchronize (path : Path) (descriptors : List Descriptor) : Procedure SyncReport := do
  let (file, notices) := load (← get) path
  Procedure.tell notices
  let merge := file.merge (Descriptor.allFields descriptors)
  Procedure.tell merge.notices
  let persisted := !merge.added.isEmpty
  if persisted then
    merge.file.save path
    Procedure.tell [.envFileUpdated path merge.added]
  let exported ← merge.file.exportAll
  return ⟨merge.added, exported, persisted⟩

end EnvFile
end ConfigWiring
