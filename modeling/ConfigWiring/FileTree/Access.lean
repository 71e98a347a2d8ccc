import ConfigWiring.FileTree.Resolution

/-!
# Reading and changing a file tree

Files are read as text, replaced as a whole and removed; directories are made.  Each
operation either gives the changed tree or a fault, and a fault leaves nothing behind
but the directories that a chain of new directories had made before it.
-/

namespace ConfigWiring
namespace FileTree

/-- The text of a file. -/
def textOf : FileNode -> Except FileFault String
  | .file _ bytes =>
      match String.fromUTF8? bytes with
      | some text => .ok text
      | none => .error .notText
  | .directory _ _ => .error .isDirectory
  | .link _ => .error .notFound

/-- The text of the file under a name of the directory at a place; a link is followed
only within that directory. -/
def readNamed (tree : FileTree) (place : Place) (name : String) : Except FileFault String :=
  if name.toList.contains '\x00' then .error .invalidArgument
  else
    match tree.follow (some place) maxLinks place [.into name] with
    | .error fault => .error fault
    | .ok found =>
        match tree.at? found with
        | some node => textOf node
        | none => .error .notFound

/-- The text of the file that a path leads to. -/
def readText (tree : FileTree) (base : Place) (path : Path) : Except FileFault String :=
  match tree.resolve base path with
  | .ok (_, node) => textOf node
  | .error fault => .error fault

/-- Whether a path leads to a directory. -/
def isDirectory (tree : FileTree) (base : Place) (path : Path) : Bool :=
  match tree.resolve base path with
  | .ok (_, node) => node.isDirectory
  | .error _ => false

/-- Whether a path leads to a file. -/
def isFile (tree : FileTree) (base : Place) (path : Path) : Bool :=
  match tree.resolve base path with
  | .ok (_, node) => node.isFile
  | .error _ => false

/-- Permission bits without those that a umask takes away. -/
def masked (umask mode : Nat) : Nat := mode &&& (0o7777 ^^^ (umask &&& 0o7777))

/-- Make one directory. -/
def makeDirectory (tree : FileTree) (umask : Nat) (base : Place) (path : Path) :
    Except FileFault FileTree :=
  match tree.locateName base path with
  | .error fault => .error fault
  | .ok (_, none) => .error .alreadyExists
  | .ok (place, some name) =>
      match tree.at? (place ++ [name]) with
      | some _ => .error .alreadyExists
      | none => .ok (tree.put place name (.directory (masked umask newDirectoryMode) .nil))

/-- Make a directory unless there is one. -/
def makeMissing (tree : FileTree) (umask : Nat) (base : Place) (path : Path) :
    Except FileFault FileTree :=
  match tree.makeDirectory umask base path with
  | .ok tree => .ok tree
  | .error fault => if tree.isDirectory base path then .ok tree else .error fault

/-- Make the directory of a path and those above it, from the last one upwards until
one can be made; `depth` bounds how far up. -/
def makeAbove (umask : Nat) (base : Place) :
    (depth : Nat) -> FileTree -> Path -> FileTree × Option FileFault
  | 0, tree, _ => (tree, some .notFound)
  | depth + 1, tree, path =>
      if path.text.isEmpty then (tree, none)
      else
        match tree.makeDirectory umask base path with
        | .ok tree => (tree, none)
        | .error fault =>
            if fault = .notFound then
              match path.parent? with
              | none => (tree, some .notFound)
              | some parent =>
                  match makeAbove umask base depth tree parent with
                  | (tree, some fault) => (tree, some fault)
                  | (tree, none) =>
                      match tree.makeMissing umask base path with
                      | .ok tree => (tree, none)
                      | .error fault => (tree, some fault)
            else if tree.isDirectory base path then (tree, none)
            else (tree, some fault)

/-- Make the directory of a path and all directories above it. -/
def makeDirectories (tree : FileTree) (umask : Nat) (base : Place) (path : Path) :
    FileTree × Option FileFault :=
  makeAbove umask base (path.text.length + 1) tree path

/-- Put a file where a path leads, in one step, in place of any file or link there. -/
def moveInto (tree : FileTree) (base : Place) (path : Path) (mode : Nat) (bytes : ByteArray) :
    Except FileFault FileTree :=
  match tree.locateName base path with
  | .error fault => .error (if fault = .endInside then .invalidArgument else fault)
  | .ok (_, none) => .error .busy
  | .ok (place, some name) =>
      if path.endsInSlash then .error .notDirectory
      else
        match tree.at? (place ++ [name]) with
        | some (.directory _ _) => .error .isDirectory
        | _ => .ok (tree.put place name (.file mode bytes))

/-- Take away the file or link under a name of the directory at a place. -/
def removeNamed (tree : FileTree) (place : Place) (name : String) :
    Except FileFault FileTree :=
  if name.toList.contains '\x00' then .error .invalidArgument
  else if name.utf8ByteSize > maxNameSize then .error .nameTooLong
  else
    match tree.at? (place ++ [name]) with
    | none => .error .notFound
    | some (.directory _ _) => .error .isDirectory
    | some _ => .ok (tree.erase place name)

/-- Write a file through a path: a file that is there keeps its permission bits. -/
def writeFile (tree : FileTree) (umask : Nat) (base : Place) (path : Path)
    (bytes : ByteArray) : Except FileFault FileTree :=
  match tree.locate base path with
  | .error fault => .error fault
  | .ok place =>
      let write (mode : Nat) : Except FileFault FileTree :=
        match place.getLast? with
        | some name => .ok (tree.put place.dropLast name (.file mode bytes))
        | none => .error .isDirectory
      match tree.at? place with
      | some (.file mode _) => write mode
      | some _ => .error .isDirectory
      | none => write (masked umask 0o666)

/-- The permission bits of what a path leads to. -/
def modeOf? (tree : FileTree) (base : Place) (path : Path) : Option Nat :=
  match tree.resolve base path with
  | .ok (_, .file mode _) => some mode
  | .ok (_, .directory mode _) => some mode
  | _ => none

end FileTree
end ConfigWiring
