import ConfigWiring.FileTree.Access
import ConfigWiring.Go.Source
import ConfigWiring.Host.Basic
import ConfigWiring.Project.Basic
import ConfigWiring.Text.Split

/-!
# Loading projects

A project is loaded from its directory: the module file is read first, then every source
file in order.

## Source files

The Go sources of a directory are its files whose names end in `.go`, tests left out,
and those of the directories below it that are not hidden and do not hold foreign or
fixed code.  Links are neither followed nor taken.  The order is that of the paths,
compared name by name, whatever the order of the entries.
-/

namespace ConfigWiring

open Text

/-- The directories that are never searched. -/
def foreignDirectories : List String := ["vendor", "testdata", "node_modules"]

/-- Whether a directory of the given name is left out of the search. -/
def isSkippedDirectory (name : String) : Bool :=
  name.toList.head? == some '.' || foreignDirectories.contains name

/-- Whether a file of the given name is a source that counts. -/
def isSourceName (name : String) : Bool :=
  endsWith ".go".toList name.toList && !endsWith "_test.go".toList name.toList

/-- Whether the name of one entry comes before that of another. -/
def nameLE {content : Type} (left right : String × content) : Bool := decide (left.1 ≤ right.1)

mutual

/-- The sources below an entry of the given name, each with the names that lead to it from
the entry's directory and with its bytes. -/
def FileNode.sources (name : String) : FileNode -> List (Place × ByteArray)
  | .file _ bytes => if isSourceName name then [([name], bytes)] else []
  | .link _ => []
  | .directory _ entries =>
      if isSkippedDirectory name then []
      else
        ((entries.sourcesByName.mergeSort nameLE).flatMap Prod.snd).map
          fun (names, bytes) => (name :: names, bytes)

/-- The entries of a directory, each with the sources below it. -/
def FileNodes.sourcesByName : FileNodes -> List (String × List (Place × ByteArray))
  | .nil => []
  | .cons name node rest => (name, node.sources name) :: rest.sourcesByName

end

/-- The sources below a directory, in order. -/
def FileNodes.sources (entries : FileNodes) : List (Place × ByteArray) :=
  (entries.sourcesByName.mergeSort nameLE).flatMap Prod.snd

/-!
## Projects

The first file that cannot be read or is no well-formed source ends the
loading.
-/

namespace Project

/-- The name of the file that declares a module. -/
def moduleFileName : String := "go.mod"

/-- The module that the directory at a place declares. -/
def moduleOf (tree : FileTree) (root : Path) (place : Place) :
    Except Failure (Option Go.Module) :=
  match tree.readNamed place moduleFileName with
  | .ok text => .ok (Go.Module.parse? text)
  | .error .notFound => .ok none
  | .error fault => .error (.io (root / moduleFileName) fault)

/-- The path of the names that lead to a source. -/
def sourcePath (names : Place) : Path := ⟨"/".intercalate names⟩

/-- Read one source file. -/
def readSource (root : Path) (names : Place) (bytes : ByteArray) :
    Except Failure Go.SourceFile :=
  match String.fromUTF8? bytes with
  | none => .error (.io (root.join (sourcePath names)) .notText)
  | some text => Go.parseSource (sourcePath names) text

/-- The entries of the directory at a place. -/
def entriesAt (tree : FileTree) (place : Place) : FileNodes :=
  match tree.at? place with
  | some node => node.entries
  | none => .nil

/-- Load the project of a directory. -/
def load (host : Host) (root : Path) : Except Failure Project :=
  match host.files.openDirectory host.place root with
  | .error fault => .error (.io root fault)
  | .ok place => do
      let mod? ← moduleOf host.files root place
      let files ← (entriesAt host.files place).sources.mapM fun (names, bytes) =>
        readSource root names bytes
      return ⟨root, mod?, files⟩

end Project
end ConfigWiring
