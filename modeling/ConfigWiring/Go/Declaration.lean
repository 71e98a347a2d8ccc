import ConfigWiring.Path

/-!
# Declarations of Go types

What the generator keeps of a source file: its package and the types it declares,
with their documentation and the tags of their fields.
-/

namespace ConfigWiring
namespace Go

/-- A struct field with the text of its tag. -/
structure Field where
  /-- The field's name; an embedded field bears the last name of its type. -/
  name : String
  /-- The tag without its quotes. -/
  tag : String
  deriving DecidableEq, Repr, Inhabited

/-- The shape of a declared type. -/
inductive Shape where
  /-- A struct type. -/
  | struct
  /-- Any other type, aliases included. -/
  | other
  deriving DecidableEq, Repr, Inhabited

/-- A type declared at the top level of a file. -/
structure TypeDecl where
  /-- The package of the declaring file. -/
  package : String
  /-- The directory of the declaring file, seen from the project's root. -/
  dir : Path
  /-- The name of the type. -/
  name : String
  /-- The documentation above the declaration, without comment marks. -/
  doc : String
  /-- Whether the type is a struct. -/
  shape : Shape
  /-- The fields of a struct in order; empty for other types. -/
  fields : List Field
  deriving DecidableEq, Repr, Inhabited

namespace TypeDecl

/-- The type's name with its package in front. -/
def qualifiedName (decl : TypeDecl) : String := decl.package ++ "." ++ decl.name

end TypeDecl

/-- The declarations of one file. -/
structure SourceFile where
  /-- The path of the file, seen from the project's root. -/
  path : Path
  /-- The name in the package clause; empty without one. -/
  package : String
  /-- The declarations in source order. -/
  decls : List TypeDecl
  deriving DecidableEq, Repr, Inhabited

end Go
end ConfigWiring
