import ConfigWiring.Command.Run
import ConfigWiring.FileTree.Listing

/-!
# The program

The program reads its command line, looks at the directory of the project and at the
variables of its process, runs the command on what it saw, and writes what the run changed.
Notices and errors go to the standard error stream.
-/

namespace ConfigWiring
namespace Shell

/-- The variables that a run looks at. -/
def variableNames : List String :=
  "PATH" :: ["TAG", "TEMPLATE", "DESTINATION", "TARGET", "ENV_FILE", "DOTENV", "FORMAT",
    "CTOR_POLICY", "SIDE_EFFECTS"].map (Settings.variablePrefix ++ ·)

/-- The variables of the process that a run looks at. -/
def readVariables : IO Environment :=
  variableNames.foldlM (fun environment name => do
      match ← IO.getEnv name with
      | some value => return environment.put name value
      | none => return environment)
    Entries.empty

/-- The names that lead to a path from the root. -/
def placeOf (path : String) : Place :=
  (path.splitOn "/").filter fun name => !name.isEmpty

/-- The path that names lead to from the root. -/
def pathTo (place : Place) : String := "/" ++ FileTree.pathOf place

/-- What a listed entry is, if it is a directory or a readable file. -/
partial def readEntry (entry : IO.FS.DirEntry) : IO (Option FileNode) := do
  match (← entry.path.metadata).type with
  | .file => return some (.file 0o644 (← IO.FS.readBinFile entry.path))
  | .dir =>
      let mut entries := FileNodes.nil
      for inner in ← entry.path.readDir do
        if let some node ← readEntry inner then
          entries := entries.put inner.fileName node
      return some (.directory 0o755 entries)
  | _ => return none

/-- The files below a path, as far as they can be read. -/
def readFiles (path : String) : IO FileTree := do
  let root ← IO.FS.realPath path
  let place := placeOf root.toString
  let tree := (FileTree.empty.makeDirectories 0 [] ⟨pathTo place⟩).1
  if !(← root.isDir) then return tree
  let mut files := tree
  for entry in ← root.readDir do
    if let some node ← (try readEntry entry catch _ => pure none) then
      files := files.put place entry.fileName node
  return files

/-- The host of a run for the project in a directory. -/
def readHost (root : String) : IO Host := do
  let place := placeOf (← IO.currentDir).toString
  let files ← try readFiles root catch _ => pure FileTree.empty
  let files := (files.makeDirectories 0 [] ⟨pathTo place⟩).1
  return ⟨files, place, 0o022, ← readVariables, [], []⟩

/-- The contents of the files of a tree, by path. -/
def contents (files : FileTree) : List (String × ByteArray) :=
  (files.listing []).filterMap fun (path, node) =>
    match node with
    | .file _ bytes => some ("/" ++ path, bytes)
    | _ => none

/-- Write the files that a run changed and remove those that it removed. -/
def writeChanges (before behind : FileTree) : IO Unit := do
  let (old, new) := (contents before, contents behind)
  for (path, bytes) in new do
    if (old.lookup path).map ByteArray.data != some bytes.data then
      IO.FS.createDirAll (pathTo (placeOf path).dropLast)
      IO.FS.writeBinFile path bytes
  for (path, _) in old do
    if (new.lookup path).isNone then IO.FS.removeFile path

/-- What the user is told of a command line that is not carried out. -/
def usageText : CommandLine.UsageFault → String
  | .nothingGiven | .helpAsked | .missingCommand =>
      "usage: [--root DIR] [--name NAME] [-v] generate|scan|env [OPTIONS]"
  | .versionAsked => "0.3.0"
  | .unknownCommand => "error: unrecognized subcommand"
  | .unknownArgument => "error: unexpected argument"
  | .invalidValue => "error: invalid value"
  | .excessValue => "error: unexpected value"
  | .repeatedOption => "error: an option cannot be used multiple times"

/-- The exit status of a command line that is not carried out. -/
def usageStatus : CommandLine.UsageFault → UInt32
  | .helpAsked | .versionAsked => 0
  | _ => 2

/-- Carry out a command line. -/
def carryOut (line : CommandLine.Line) : IO UInt32 := do
  let host ← readHost line.root.text
  let (outcome, behind) := line.run host
  writeChanges host.files behind.files
  for notice in behind.notices do
    IO.eprintln notice.text
  match outcome with
  | .done () => return 0
  | .failed fault =>
      IO.eprintln ("error: " ++ fault.message)
      return 1
  | .brokenDown message =>
      IO.eprintln message
      return 101
  | .tooDeep => return 101

end Shell
end ConfigWiring

open ConfigWiring in
/-- Run the program with the words of its command line. -/
def main (words : List String) : IO UInt32 := do
  match CommandLine.read words with
  | .ok line => Shell.carryOut line
  | .error fault =>
      IO.eprintln (Shell.usageText fault)
      return Shell.usageStatus fault
