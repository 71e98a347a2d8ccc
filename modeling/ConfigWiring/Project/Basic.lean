import ConfigWiring.Go.Module
import ConfigWiring.Go.Declaration

/-!
# Projects

A project is a directory with the source files below it and the module that its
packages belong to.
-/

namespace ConfigWiring

/-- The sources of a project. -/
structure Project where
  /-- The directory of the project. -/
  root : Path
  /-- The module, if the directory declares one. -/
  mod? : Option Go.Module
  /-- The source files, in the order of their paths. -/
  files : List Go.SourceFile
  deriving DecidableEq, Repr

namespace Project

instance : Inhabited Project := ⟨⟨⟨""⟩, none, []⟩⟩

/-- A path of the project: an absolute path stands for itself, any other is seen from the
project's directory. -/
def resolve (project : Project) (path : Path) : Path :=
  if path.isAbsolute then path else project.root.join path

end Project
end ConfigWiring
