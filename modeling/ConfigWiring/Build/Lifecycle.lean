import ConfigWiring.Container.Basic
import ConfigWiring.Container.Running
import ConfigWiring.Descriptor.Basic

/-!
# Components and the life of a scope

A component may offer constructors, release what it acquired, prepare itself before any
command, describe what it is configured by, and offer commands.  Each of these is optional,
and a component that does none of them takes no part.

An action runs in a new scope.  The components give the scope their constructors first, in
their order; the action runs next; and at last the components release what they acquired, in
reverse order.  They do so however the action ended, and also where two constructors have one
key and the action never ran.  The first error of a release is the error of the whole only
where nothing else failed.
-/

namespace ConfigWiring

/-! ## Components -/

/-- What a command is told of the build. -/
structure Briefing where
  /-- The name of the project. -/
  name : String
  /-- The directory of the project. -/
  root : Path
  /-- What the build is for. -/
  description : String
  /-- The version of the build. -/
  version : String
  /-- What the components are configured by. -/
  descriptors : List Descriptor
  /-- How many components there are. -/
  moduleCount : Nat
  deriving DecidableEq, Repr

/-- A command that a component offers. -/
structure BuildCommand (value : Type) where
  /-- What the command is called by. -/
  name : String
  /-- What the command does, on one line. -/
  usage : String
  /-- The work of the command. -/
  action : Briefing -> Work value

namespace BuildCommand

/-- How a command is shown. -/
def text {value : Type} (command : BuildCommand value) : String :=
  "BuildCommand \x7b name: " ++ Text.quoted command.name ++ ", usage: " ++
    Text.quoted command.usage ++ ", .. \x7d"

end BuildCommand

/-- A part of a build. -/
structure Component (value : Type) where
  /-- The constructors that it offers; offering them may change the host. -/
  provider? : Option (Host -> List (Constructor value) × Host)
  /-- The work that releases what it acquired. -/
  destroyer? : Option (Work value)
  /-- The work to do before any command, in a scope of its own. -/
  preparer? : Option (Work value)
  /-- What it is configured by. -/
  configurer? : Option (List Descriptor)
  /-- The commands that it offers. -/
  commander? : Option (List (BuildCommand value))

namespace Component

variable {value : Type}

/-- A component that does nothing. -/
def idle : Component value := ⟨none, none, none, none, none⟩

instance : Inhabited (Component value) := ⟨idle⟩

/-- Whether a component offers constructors. -/
def isProvider (component : Component value) : Bool := component.provider?.isSome

/-- Whether a component releases anything. -/
def isDestroyer (component : Component value) : Bool := component.destroyer?.isSome

/-- Whether a component prepares itself. -/
def isPreparer (component : Component value) : Bool := component.preparer?.isSome

/-- Whether a component is configured by anything. -/
def isConfigurer (component : Component value) : Bool := component.configurer?.isSome

/-- Whether a component offers commands. -/
def isCommander (component : Component value) : Bool := component.commander?.isSome

end Component

/-! ## The life of a scope -/

namespace Lifecycle

variable {value : Type}

/-- Give the scope constructors, up to the first whose key is taken. -/
def provideAll : List (Constructor value) -> Session value -> Except WiringError Unit × Session value
  | [], session => (.ok (), session)
  | constructor :: rest, session =>
      match session.provide constructor with
      | (.ok (), session) => provideAll rest session
      | (.error error, session) => (.error error, session)

/-- Give the scope the constructors of components, up to the first whose key is taken. -/
def register : List (Component value) -> Session value -> Except WiringError Unit × Session value
  | [], session => (.ok (), session)
  | component :: rest, session =>
      match component.provider? with
      | none => register rest session
      | some offer =>
          let (constructors, host) := offer session.host
          match provideAll constructors { session with host } with
          | (.ok (), session) => register rest session
          | (.error error, session) => (.error error, session)

/-- The work that releases what components acquired, in the order in which it is done. -/
def destroyers (components : List (Component value)) : List (Work value) :=
  components.reverse.filterMap Component.destroyer?

/-- Release everything; an error comes with a notice and does not keep the rest from being
released, and the first one is the error of all. -/
def tearDown (limit : Nat) :
    List (Work value) -> Session value -> Outcome ComponentError Unit × Session value
  | [], session => (.done (), session)
  | work :: rest, session =>
      match work.run limit session with
      | (.done _, session) => tearDown limit rest session
      | (.failed error, session) =>
          match tearDown limit rest (session.tell [.destroyerFailed]) with
          | (.done (), session) | (.failed _, session) => (.failed error, session)
          | (.brokenDown message, session) => (.brokenDown message, session)
          | (.tooDeep, session) => (.tooDeep, session)
      | (.brokenDown message, session) => (.brokenDown message, session)
      | (.tooDeep, session) => (.tooDeep, session)

/-- The outcome of an action and of the release behind it. -/
def settle (action : Outcome ComponentError value) (release : Outcome ComponentError Unit) :
    Outcome Failure value :=
  match action, release with
  | .brokenDown message, _ => .brokenDown message
  | .tooDeep, _ => .tooDeep
  | _, .brokenDown message => .brokenDown message
  | _, .tooDeep => .tooDeep
  | .failed error, _ => .failed (.ofAction error)
  | .done _, .failed error => .failed (.teardown error)
  | .done result, .done () => .done result

/-- Give a new scope the constructors of components and run an action in it. -/
def enact (limit : Nat) (components : List (Component value)) (action : Work value)
    (host : Host) : Outcome ComponentError value × Session value :=
  match register components ⟨.empty, host⟩ with
  | (.ok (), session) => action.run limit session
  | (.error error, session) => (.failed (.wiring error), session)

/-- Run an action in a new scope of components. -/
def runAction (limit : Nat) (components : List (Component value)) (action : Work value)
    (host : Host) : Outcome Failure value × Host :=
  let (outcome, session) := enact limit components action host
  let (release, session) := tearDown limit (destroyers components) session
  (settle outcome release, session.host)

end Lifecycle

end ConfigWiring
