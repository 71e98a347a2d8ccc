import ConfigWiring.Config.Literal
import ConfigWiring.Config.Reading
import ConfigWiring.Config.Toml
import ConfigWiring.Generator.Config
import ConfigWiring.Host.Files
import ConfigWiring.Text.CaseMap
import ConfigWiring.Text.Split

/-!
# Layered settings

The settings of a run come in layers: built-in values, a settings file in the directory of
the project, variables of the process, and the options of the command line.  For each
setting the highest layer that mentions it counts, and only its value has to be of the
right type.
-/

namespace ConfigWiring

open Config Text

/-- The settings of a run. -/
structure Settings where
  /-- The marker of the declarations to take up. -/
  tag : String
  /-- The file with the template, if not the standard one. -/
  template? : Option Path
  /-- The directory of the generated package. -/
  destination : Path
  /-- The generated file, if not the standard one. -/
  target? : Option Path
  /-- The env file. -/
  envFile : Path
  /-- Whether the env file is brought up to date. -/
  dotenv : Bool
  /-- Whether the generated file is formatted. -/
  format : Bool
  /-- What becomes of declarations that name no constructor. -/
  ctorPolicy : CtorNamePolicy
  /-- The packages that are imported for their side effects. -/
  sideEffects : List String
  deriving DecidableEq, Repr

/-- The settings that the options of a command line give. -/
structure Overrides where
  tag? : Option String
  template? : Option Path
  destination? : Option Path
  target? : Option Path
  envFile? : Option Path
  dotenv? : Option Bool
  format? : Option Bool
  ctorPolicy? : Option CtorNamePolicy
  deriving DecidableEq, Repr

namespace Overrides

/-- No settings. -/
def none : Overrides := ⟨.none, .none, .none, .none, .none, .none, .none, .none⟩

instance : Inhabited Overrides := ⟨none⟩

/-- The settings that are given, with their keys. -/
def toTable (overrides : Overrides) : Table :=
  let path (path : Path) : Value := .text path.text
  let given : List (String × Option Value) := [
    ("ctor_policy", overrides.ctorPolicy?.map fun policy => .text policy.word),
    ("destination", overrides.destination?.map path),
    ("dotenv", overrides.dotenv?.map .bool),
    ("env_file", overrides.envFile?.map path),
    ("format", overrides.format?.map .bool),
    ("tag", overrides.tag?.map .text),
    ("target", overrides.target?.map path),
    ("template", overrides.template?.map path)]
  given.filterMap fun (key, value?) => value?.map (key, ·)

end Overrides

namespace Settings

/-- The built-in settings. -/
def standard : Settings where
  tag := defaultMarker
  template? := none
  destination := GeneratorConfig.standardDestination
  target? := none
  envFile := GeneratorConfig.standardEnvFile
  dotenv := true
  format := true
  ctorPolicy := .verbatim
  sideEffects := []

instance : Inhabited Settings := ⟨standard⟩

/-- The name of the settings file. -/
def fileName : String := "wiregen.toml"

/-- What the names of variables with settings begin with. -/
def variablePrefix : String := "WIREGEN_"

/-- Read a path. -/
def readPath : Reader Path := fun value =>
  (Reader.text "a UTF-8 path string" value).map Path.mk

/-- Read a policy. -/
def readPolicy : Reader CtorNamePolicy :=
  Reader.word "enum CtorNamePolicy" (CtorNamePolicy.all.map fun policy => (policy.word, policy))

/-- Read settings from a table; the first mistyped one in the order of the keys is the
error, and other keys say nothing. -/
def ofTable (table : Table) : Except Config.Error Settings := do
  let ctorPolicy ← Reader.field table "ctor_policy" readPolicy standard.ctorPolicy
  let destination ← Reader.field table "destination" readPath standard.destination
  let dotenv ← Reader.field table "dotenv" Reader.flag standard.dotenv
  let envFile ← Reader.field table "env_file" readPath standard.envFile
  let format ← Reader.field table "format" Reader.flag standard.format
  let sideEffects ← Reader.field table "side_effects" (Reader.list (Reader.text "a string"))
    standard.sideEffects
  let tag ← Reader.field table "tag" (Reader.text "a string") standard.tag
  let target? ← Reader.field table "target" (fun value => some <$> readPath value)
    standard.target?
  let template? ← Reader.field table "template" (fun value => some <$> readPath value)
    standard.template?
  return {
    tag, template?, destination, target?, envFile, dotenv, format, ctorPolicy, sideEffects }

/-- The value under a chain of keys as a table. -/
def nest : List String -> Value -> Table
  | [], _ => []
  | [key], value => [(key, value)]
  | key :: keys, value => [(key, .table (nest keys value))]

/-- The keys that the name of a variable stands for, if it is one of a setting: the part
behind the common beginning in lower case, with a point between two keys. -/
def keysOf? (name : String) : Option (List String) :=
  let spelling := trim name.toList
  let leading := spelling.take variablePrefix.length
  if leading.map Char.toUpper = variablePrefix.toList then
    let rest := trim (spelling.drop variablePrefix.length)
    let keys := splitAll '.' rest
    if keys.any List.isEmpty then none
    else some (keys.map fun key => String.ofList (key.map Char.toLower))
  else none

/-- The settings in the variables of a process; the last variable of a key counts. -/
def ofVariables (environment : Environment) : Table :=
  environment.pairs.foldl (fun table (name, value) =>
      match keysOf? name with
      | some keys => layFields (nest keys (Literal.parse value)) table
      | none => table)
    []

/-- The settings in the file of a project's directory, if there is one. -/
def ofFile (host : Host) (root : Path) : Except Config.Error Table :=
  let path := root / fileName
  if host.files.isFile host.place path then
    match (host.files.readText host.place path).toOption.bind Toml.parse? with
    | some table => .ok table
    | none => .error ⟨[], .malformed⟩
  else .ok []

/-- The layers of settings, laid over one another. -/
def layers (file : Table) (environment : Environment) (overrides : Overrides) : Table :=
  layFields overrides.toTable (layFields (ofVariables environment) file)

/-- The settings of a run for the project in a directory. -/
def load (host : Host) (root : Path) (overrides : Overrides) : Except Config.Error Settings := do
  ofTable (layers (← ofFile host root) host.environment overrides)

/-- The text of the file at a path. -/
def readTextFile (host : Host) (path : Path) : Except FileFault String :=
  match path.fileName? with
  | none => .error .invalidPath
  | some name =>
      match host.files.openDirectory host.place path.directory with
      | .ok place => host.files.readNamed place name
      | .error fault => .error fault

/-- The text of the file that settings name; a fault comes with the path it arose at. -/
def readNamedFile (host : Host) (root path : Path) : Except (Path × FileFault) String :=
  (readTextFile host (root.join path)).mapError (root.join path, ·)

/-- The configuration of the generator under settings; the template is read from its
file. -/
def generatorConfig (settings : Settings) (host : Host) (root : Path) :
    Except (Path × FileFault) GeneratorConfig := do
  let template? ← match settings.template? with
    | some path => some <$> readNamedFile host root path
    | none => pure none
  return {
    tagName := settings.tag
    template?
    destination := settings.destination
    target? := settings.target?
    envFile := settings.envFile
    dotenv := settings.dotenv
    ctorPolicy := settings.ctorPolicy
    sideEffects := settings.sideEffects }

end Settings
end ConfigWiring
