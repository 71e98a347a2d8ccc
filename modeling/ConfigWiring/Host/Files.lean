import ConfigWiring.FileTree.Access
import ConfigWiring.Host.Basic

/-!
# Files of a host

A file that may be absent is read as nothing.  A file is replaced as a whole: its
directory is made first, the new file takes the permission bits of the old one less the
umask, and a reader sees the old or the new file but never a part of one.
-/

namespace ConfigWiring

namespace Path

/-- The directory of the last name of a path; the working directory if the path has no
other. -/
def directory (path : Path) : Path :=
  match path.parent? with
  | some parent => if parent.text.isEmpty then ⟨"."⟩ else parent
  | none => ⟨"."⟩

end Path

namespace FileTree

/-- The permission bits of a new file, before the umask, where no file is replaced. -/
def newFileMode : Nat := 0o644

/-- The permission bits, before the umask, of a file that replaces what a path leads
to. -/
def modeToKeep (tree : FileTree) (base : Place) (path : Path) : Nat :=
  match tree.resolve base path with
  | .ok (_, .file mode _) => mode
  | _ => newFileMode

/-- Make sure that there is a directory where a path leads. -/
def ensureDirectory (tree : FileTree) (umask : Nat) (base : Place) (path : Path) :
    FileTree × Option FileFault :=
  match tree.openDirectory base path with
  | .ok _ => (tree, none)
  | .error .notFound =>
      match tree.makeDirectories umask base path with
      | (tree, some fault) => (tree, some fault)
      | (tree, none) =>
          match tree.openDirectory base path with
          | .ok _ => (tree, none)
          | .error fault => (tree, some fault)
  | .error fault => (tree, some fault)

end FileTree

namespace Host

/-- Read a file that may be absent; one that is there but is no text counts as absent,
with a notice. -/
def readOptional (host : Host) (path : Path) : Option String × List Notice :=
  match path.fileName? with
  | none => (none, [])
  | some name =>
      match host.files.openDirectory host.place path.directory with
      | .error _ => (none, [])
      | .ok place =>
          match host.files.readNamed place name with
          | .ok text => (some text, [])
          | .error .notFound => (none, [])
          | .error _ => (none, [.unreadableFile path])

/-- Replace the file that a path leads to. -/
def replaceFile (path : Path) (text : String) (host : Host) : Except Failure Unit × Host :=
  match host.files.ensureDirectory host.umask host.place path.directory with
  | (files, some fault) => (.error (.io path.directory fault), { host with files })
  | (files, none) =>
      let mode := FileTree.masked host.umask (files.modeToKeep host.place path)
      match files.moveInto host.place path mode text.toUTF8 with
      | .ok files => (.ok (), { host with files })
      | .error fault => (.error (.io path fault), { host with files })

/-- Remove the file that a path leads to, and tell whether there was one. -/
def removeFile (path : Path) (host : Host) : Except Failure Bool × Host :=
  match path.fileName? with
  | none => (.ok false, host)
  | some name =>
      match host.files.openDirectory host.place path.directory with
      | .error .notFound => (.ok false, host)
      | .error fault => (.error (.io path fault), host)
      | .ok place =>
          match host.files.removeNamed place name with
          | .ok files => (.ok true, { host with files })
          | .error .notFound => (.ok false, host)
          | .error fault => (.error (.io path fault), host)

end Host
end ConfigWiring
