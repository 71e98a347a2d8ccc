import ConfigWiring.FileTree.Access
import ConfigWiring.Host.Basic

/-!
# Fixture directories

A fixture is a directory for a while: it is made empty, files are written to it and read
from it by paths seen from it, and it is taken away with all that is in it.
-/

namespace ConfigWiring

/-- A directory for a while. -/
structure Fixture where
  /-- The path of the directory. -/
  root : Path
  deriving DecidableEq, Repr

/-- What could not be done with a file of a fixture. -/
inductive FixtureFault where
  /-- The directories above it could not be made. -/
  | create (path : Path)
  /-- It could not be written. -/
  | write (path : Path)
  /-- It could not be read as text. -/
  | read (path : Path)
  deriving DecidableEq, Repr

namespace FixtureFault

/-- The wording of a fault. -/
def message : FixtureFault -> String
  | create path => "create " ++ path.text
  | write path => "write " ++ path.text
  | read path => "read " ++ path.text

end FixtureFault

namespace Fixture

/-- Make the directory of a fixture. -/
def make (fixture : Fixture) (host : Host) : Host :=
  { host with files := (host.files.makeDirectories host.umask host.place fixture.root).1 }

/-- Make the directories above a path. -/
def makeParent (path : Path) (host : Host) : Host × Option FileFault :=
  match path.parent? with
  | none => (host, none)
  | some parent =>
      let (files, fault?) := host.files.makeDirectories host.umask host.place parent
      ({ host with files }, fault?)

/-- Write a file of a fixture, below directories that are made for it. -/
def write (fixture : Fixture) (path : Path) (text : String) (host : Host) :
    Except FixtureFault Path × Host :=
  let full := fixture.root.join path
  match makeParent full host with
  | (host, some _) => (.error (.create (full.parent?.getD full)), host)
  | (host, none) =>
      match host.files.writeFile host.umask host.place full text.toUTF8 with
      | .ok files => (.ok full, { host with files })
      | .error _ => (.error (.write full), host)

/-- Read a file of a fixture. -/
def read (fixture : Fixture) (path : Path) (host : Host) : Except FixtureFault String :=
  let full := fixture.root.join path
  match host.files.readText host.place full with
  | .ok text => .ok text
  | .error _ => .error (.read full)

/-- Take the directory of a fixture away. -/
def remove (fixture : Fixture) (host : Host) : Host :=
  match host.files.locateName host.place fixture.root with
  | .ok (place, some name) => { host with files := host.files.erase place name }
  | _ => host

/-- Whether the directory of a fixture is there. -/
def isThere (fixture : Fixture) (host : Host) : Bool :=
  host.files.isDirectory host.place fixture.root

end Fixture
end ConfigWiring
