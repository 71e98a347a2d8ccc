import ConfigWiring.Descriptor.Basic
import ConfigWiring.MarkedType.Basic

/-!
# Configuration of the generator

What a generator looks for, what it makes of it and where it writes the outcome.  Paths
are seen from the directory of the project.
-/

namespace ConfigWiring

/-- The configuration of a generator. -/
structure GeneratorConfig where
  /-- The marker of the declarations to take up. -/
  tagName : String
  /-- The text of the template, if not the standard one. -/
  template? : Option String
  /-- The directory of the generated package. -/
  destination : Path
  /-- The generated file, if not the standard one in the destination. -/
  target? : Option Path
  /-- The env file. -/
  envFile : Path
  /-- Whether the env file is brought up to date. -/
  dotenv : Bool
  /-- What becomes of declarations that name no constructor. -/
  ctorPolicy : CtorNamePolicy
  /-- The packages that are imported for their side effects. -/
  sideEffects : List String
  deriving DecidableEq, Repr

namespace GeneratorConfig

/-- The name of the generated file. -/
def standardTargetName : String := "app_cfg_annotated.go"

/-- The directory of the generated package. -/
def standardDestination : Path := ⟨"internal/generated"⟩

/-- The name of the env file. -/
def standardEnvFile : Path := ⟨".env"⟩

/-- The name of the generated package where the destination gives none. -/
def standardPackage : String := "generated"

instance : Inhabited GeneratorConfig :=
  ⟨{
    tagName := defaultMarker
    template? := none
    destination := standardDestination
    target? := none
    envFile := standardEnvFile
    dotenv := true
    ctorPolicy := .verbatim
    sideEffects := [] }⟩

/-- The generated file. -/
def targetPath (config : GeneratorConfig) : Path :=
  config.target?.getD (config.destination / standardTargetName)

/-- The package of the generated file: the last name of the destination. -/
def packageName (config : GeneratorConfig) : String :=
  config.destination.fileName?.getD standardPackage

end GeneratorConfig
end ConfigWiring
