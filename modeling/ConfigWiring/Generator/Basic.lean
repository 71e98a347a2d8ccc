import ConfigWiring.Formatter.Basic
import ConfigWiring.Generator.Config
import ConfigWiring.MarkedType.Basic
import ConfigWiring.Project.Basic
import ConfigWiring.Text.SortedSet
import ConfigWiring.WiringFile.Basic

/-!
# Generators

A generator finds the marked types of a project and describes the structs among them.  A
struct of the destination package is referred to by its bare name and needs no import;
every other one is referred to through its package, which is imported.
-/

namespace ConfigWiring

open Text

/-- A generator with its template read. -/
structure Generator where
  /-- What to look for and where to write. -/
  config : GeneratorConfig
  /-- The template of the generated file. -/
  template : WiringTemplate
  /-- What puts the imports of the generated file into order. -/
  formatter : ImportFormatter

namespace Generator

/-- A generator of a configuration. -/
def make (config : GeneratorConfig) (formatter : ImportFormatter) :
    Except Failure Generator :=
  match WiringTemplate.parse (config.template?.getD WiringTemplate.standardText) with
  | .ok template => .ok ⟨config, template, formatter⟩
  | .error failure => .error failure

/-- The marked types of a project. -/
def marked (generator : Generator) (project : Project) : Except Failure (List MarkedType) :=
  (Scanner.mk generator.config.tagName).scanFiles project.files

/-- Whether a type belongs to the destination package. -/
def isLocal (generator : Generator) (marked : MarkedType) : Bool :=
  marked.dir.agrees generator.config.destination

/-- The descriptor of one struct, as the destination package refers to it. -/
def describeOne (generator : Generator) (marked : MarkedType) : Except Failure Descriptor :=
  match Descriptor.ofMarkedType generator.config.ctorPolicy marked with
  | .error failure => .error failure
  | .ok descriptor =>
      .ok (if generator.isLocal marked then { descriptor with specType := marked.typeName }
        else descriptor)

/-- The descriptors of the structs among marked types. -/
def describe (generator : Generator) (marked : List MarkedType) :
    Except Failure (List Descriptor) :=
  (marked.filter MarkedType.isStruct).mapM generator.describeOne

/-- The descriptors of a project. -/
def descriptors (generator : Generator) (project : Project) :
    Except Failure (List Descriptor) := do
  generator.describe (← generator.marked project)

/-- The packages that every generated file imports. -/
def supportImports : List String :=
  ["github.com/kelseyhightower/envconfig", "github.com/typical-go/typical-go/pkg/typapp"]

/-- The structs among marked types that are referred to through their package. -/
def foreignStructs (generator : Generator) (marked : List MarkedType) : List MarkedType :=
  marked.filter fun marked => marked.isStruct && !generator.isLocal marked

/-- The imports of the generated file, in ascending order and each once. -/
def imports (generator : Generator) (project : Project) (marked : List MarkedType) :
    List String :=
  let declared := match project.mod? with
    | some mod => (generator.foreignStructs marked).map fun marked => mod.importPath marked.dir
    | none => []
  sortedSet (supportImports ++ declared)

/-- The warnings about packages that cannot be imported. -/
def importNotices (generator : Generator) (project : Project) (marked : List MarkedType) :
    List Notice :=
  match project.mod? with
  | some _ => []
  | none =>
      (generator.foreignStructs marked).map fun marked => .notImportable marked.qualifiedName

/-- The imports for side effects that are no imports anyway, in ascending order and each
once. -/
def sideEffects (generator : Generator) (imports : List String) : List String :=
  sortedSet ((generator.config.sideEffects.map trimString).filter fun path =>
    !path.isEmpty && !imports.contains path)

/-- The generated file for marked types with their descriptors. -/
def wiringFile (generator : Generator) (project : Project) (marked : List MarkedType)
    (descriptors : List Descriptor) : WiringFile :=
  let imports := generator.imports project marked
  {
    package := generator.config.packageName
    imports
    sideEffects := generator.sideEffects imports
    descriptors }

end Generator
end ConfigWiring
