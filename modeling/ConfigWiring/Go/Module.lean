import ConfigWiring.Path

/-!
# Go modules

The module directive of a `go.mod` file gives the path under which every package
of the project is imported.
-/

namespace ConfigWiring
namespace Go

open Text

/-- A module, known by its path. -/
structure Module where
  /-- The path that the module directive declares. -/
  path : String
  deriving DecidableEq, Repr

namespace Module

/-- The module path of one line, if the line is a module directive. -/
def ofLine? (line : List Char) : Option Module :=
  match behind? "module".toList (trim line) with
  | some (char :: rest) =>
      if isBlank char then
        let path := trimWhile (· == '"') (trim (char :: rest))
        if path.isEmpty then none else some ⟨String.ofList path⟩
      else none
  | _ => none

/-- The module that the text of a `go.mod` file declares: the first directive
counts. -/
def parse? (contents : String) : Option Module :=
  (lines contents.toList).findSome? ofLine?

/-- The import path of the package in a directory. -/
def importPath (mod : Module) (dir : Path) : String :=
  let relative := trimWhile (· == '/') dir.text.toList
  if relative = [] ∨ relative = ['.'] then mod.path
  else mod.path ++ "/" ++ String.ofList relative

/-- The last segment of the module path. -/
def name (mod : Module) : String :=
  String.ofList (((splitAll '/' mod.path.toList).getLast?).getD [])

end Module
end Go
end ConfigWiring
