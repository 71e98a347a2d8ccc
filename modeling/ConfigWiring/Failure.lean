import ConfigWiring.Config.Error
import ConfigWiring.FileTree.Fault
import ConfigWiring.Path
import ConfigWiring.Template.Fault

/-!
# Failures

Three kinds of failure nest in one another.  A wiring error arises while the
container registers or resolves constructors; a failure ends a run of the
generator or of a command; a component error is whatever a factory, an action or
a destroyer gives back, which may again be one of the first two.
-/

namespace ConfigWiring

mutual

/-- Why a constructor cannot be registered or resolved. -/
inductive WiringError where
  /-- The type already has a constructor of that name. -/
  | duplicate (typeName name : String)
  /-- Nothing produces the type. -/
  | missing (typeName : String)
  /-- No constructor of that name produces the type. -/
  | missingNamed (typeName name : String)
  /-- Construction came back to a constructor that is still running. -/
  | cycle (typeName : String)
  /-- Several constructors produce the type. -/
  | ambiguous (typeName : String) (count : Nat)
  /-- The factory of a constructor failed. -/
  | construct (typeName name : String) (source : ComponentError)
  /-- A kept value is not of the promised type. -/
  | typeMismatch (typeName name : String)

/-- Why a run fails. -/
inductive Failure where
  /-- A declaration, a tag or a file does not parse. -/
  | parse (declaration message : String)
  /-- The template gives no text. -/
  | template (fault : Template.Fault)
  /-- A file cannot be read or written. -/
  | io (path : Path) (fault : FileFault)
  /-- Wiring failed. -/
  | wiring (error : WiringError)
  /-- A field of the context that must be given is empty. -/
  | invalidContext (field : String)
  /-- No command bears the name. -/
  | unknownCommand (name : String)
  /-- A marked type lacks the name of its constructor. -/
  | unnamedConstructor (specType : String)
  /-- An action failed. -/
  | action (source : ComponentError)
  /-- A destroyer failed. -/
  | teardown (source : ComponentError)

/-- What a component of a program gives back on failure. -/
inductive ComponentError where
  /-- A message of the component's own. -/
  | message (text : String)
  /-- An error of the container. -/
  | wiring (error : WiringError)
  /-- A failure of a whole run. -/
  | failure (failure : Failure)
  /-- Configuration that cannot be read into a typed value. -/
  | config (error : Config.Error)

end

deriving instance Repr for WiringError, Failure, ComponentError
deriving instance DecidableEq for WiringError, Failure, ComponentError

mutual

/-- The wording of a wiring error. -/
def WiringError.message : WiringError -> String
  | .duplicate typeName name =>
      "constructor '" ++ name ++ "' for " ++ typeName ++ " is already provided"
  | .missing typeName => "no constructor provides " ++ typeName
  | .missingNamed typeName name =>
      "no constructor named '" ++ name ++ "' provides " ++ typeName
  | .cycle typeName => "dependency cycle while constructing " ++ typeName
  | .ambiguous typeName count =>
      toString count ++ " constructors provide " ++ typeName ++ "; resolve by name"
  | .construct typeName name source =>
      "constructor '" ++ name ++ "' for " ++ typeName ++ " failed: " ++ source.text
  | .typeMismatch typeName name =>
      "cached value for '" ++ name ++ "' is not a " ++ typeName

/-- The wording of a failure. -/
def Failure.message : Failure -> String
  | .parse declaration message => "failed to parse '" ++ declaration ++ "': " ++ message
  | .template fault => "failed to render template: " ++ fault.message
  | .io path fault => "I/O error at " ++ path.text ++ ": " ++ fault.message
  | .wiring error => error.message
  | .invalidContext field => "Invalid Context: " ++ field ++ " can't be empty"
  | .unknownCommand name => "unknown command '" ++ name ++ "'"
  | .unnamedConstructor specType =>
      "constructor name missing for '" ++ specType ++ "'; set ctor_name on the annotation"
  | .action source => "action failed: " ++ source.text
  | .teardown source => "teardown failed: " ++ source.text

/-- The wording of a component error. -/
def ComponentError.text : ComponentError -> String
  | .message text => text
  | .wiring error => error.message
  | .failure failure => failure.message
  | .config error => error.message

end

namespace Failure

/-- The failure of a run whose action gave back an error: a container error stays
a wiring failure, a failure stays itself, and anything else failed in the action. -/
def ofAction : ComponentError -> Failure
  | .wiring error => .wiring error
  | .failure failure => failure
  | other => .action other

end Failure
end ConfigWiring
