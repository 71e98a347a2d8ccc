import ConfigWiring.Failure
import ConfigWiring.Go.Declaration
import ConfigWiring.Tag.Marker
import ConfigWiring.Tag.Params

/-!
# Marked types

A marked type is a declaration whose documentation selects it for configuration,
with the parameters of the marker and of every field's tag.
-/

namespace ConfigWiring

/-- The marker that selects declarations unless another is configured. -/
def defaultMarker : String := "@app-cfg"

/-- A field of a marked type. -/
structure MarkedField where
  /-- The field's name. -/
  name : String
  /-- The parameters in the field's tag. -/
  params : Tag.Params
  deriving DecidableEq, Repr

/-- A declaration marked for configuration. -/
structure MarkedType where
  /-- The marker that selected the declaration. -/
  tagName : String
  /-- The package of the type. -/
  package : String
  /-- The name of the type. -/
  typeName : String
  /-- The directory of the declaring file, seen from the project's root. -/
  dir : Path
  /-- The parameters behind the marker. -/
  params : Tag.Params
  /-- Whether the type is a struct. -/
  shape : Go.Shape
  /-- The fields in order. -/
  fields : List MarkedField
  deriving DecidableEq, Repr

namespace MarkedType

/-- The type's name with its package in front. -/
def qualifiedName (marked : MarkedType) : String :=
  marked.package ++ "." ++ marked.typeName

/-- Whether the marked type is a struct. -/
def isStruct (marked : MarkedType) : Bool := marked.shape == .struct

end MarkedType

/-!
## Scanning declarations for marked types

A scanner keeps the declarations whose documentation holds its marker and reads
the parameters of the marker and of the field tags.  The first malformed tag of
a marked declaration ends the scan; tags of other declarations are not read.
-/

/-- A scanner, known by the marker that it looks for. -/
structure Scanner where
  marker : String
  deriving DecidableEq, Repr

namespace Scanner

instance : Inhabited Scanner := ⟨⟨defaultMarker⟩⟩

/-- A malformed tag as a failure that names the tagged declaration or field. -/
def tagFailure (tagged : String) (error : Tag.SyntaxError) : Failure :=
  .parse tagged error.message

/-- The fields of a declaration with their tags read. -/
def markedFields (qualified : String) :
    List Go.Field -> Except Failure (List MarkedField)
  | [] => .ok []
  | field :: rest =>
      match Tag.Params.parse field.tag with
      | .error error => .error (tagFailure (qualified ++ "." ++ field.name) error)
      | .ok params => (markedFields qualified rest).map (⟨field.name, params⟩ :: ·)

/-- The marked type of one declaration, if it bears the marker. -/
def mark? (scanner : Scanner) (decl : Go.TypeDecl) : Except Failure (Option MarkedType) :=
  match Tag.Marker.find decl.doc scanner.marker with
  | .error error => .error (tagFailure decl.qualifiedName error)
  | .ok .absent => .ok none
  | .ok (.present text) =>
      match Tag.Params.parse text with
      | .error error => .error (tagFailure decl.qualifiedName error)
      | .ok params =>
          (markedFields decl.qualifiedName decl.fields).map fun fields =>
            some {
              tagName := scanner.marker
              package := decl.package
              typeName := decl.name
              dir := decl.dir
              params
              shape := decl.shape
              fields }

/-- The marked types among a list of declarations, in their order. -/
def scan (scanner : Scanner) : List Go.TypeDecl -> Except Failure (List MarkedType)
  | [] => .ok []
  | decl :: rest =>
      match scanner.mark? decl with
      | .error failure => .error failure
      | .ok none => scanner.scan rest
      | .ok (some marked) => (scanner.scan rest).map (marked :: ·)

/-- The marked types among every declaration of every file. -/
def scanFiles (scanner : Scanner) (files : List Go.SourceFile) :
    Except Failure (List MarkedType) :=
  scanner.scan (files.flatMap Go.SourceFile.decls)

end Scanner
end ConfigWiring
