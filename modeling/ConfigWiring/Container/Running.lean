import ConfigWiring.Container.Basic

/-!
# Running work in a scope

A request for a key is answered with the instance that the scope keeps.  Otherwise the
constructor of the key is put to work, and its value is kept if it is of the type that the key
promises; a constructor that is asked for while it is at work is a cycle.  Constructors at work
nest in one another, and a limit on the nesting makes every run end.  A breakdown ends all work
at once and leaves the constructors that were at work marked so.
-/

namespace ConfigWiring

/-- How work ends. -/
inductive Outcome (error result : Type) where
  /-- With a result. -/
  | done (value : result)
  /-- With an error. -/
  | failed (error : error)
  /-- By breaking down. -/
  | brokenDown (message : String)
  /-- At the limit on nesting. -/
  | tooDeep
  deriving DecidableEq, Repr

namespace Outcome

variable {error result : Type}

/-- The outcome under another view of errors. -/
def mapError {other : Type} (view : error -> other) : Outcome error result -> Outcome other result
  | done value => .done value
  | failed error => .failed (view error)
  | brokenDown message => .brokenDown message
  | tooDeep => .tooDeep

/-- Whether work was cut short, by a breakdown or the limit. -/
def isCutShort : Outcome error result -> Bool
  | done _ | failed _ => false
  | brokenDown _ | tooDeep => true

end Outcome

/-- A scope with the host that its work sees. -/
structure Session (value : Type) where
  /-- The scope. -/
  scope : Scope value
  /-- The host. -/
  host : Host

/-- How work is run in a session. -/
abbrev Runner (value : Type) :=
  Work value -> Session value -> Outcome ComponentError value × Session value

/-- The error of a constructor whose factory ended with an error: an error of the container
stays as it is. -/
def WiringError.ofFactory (key : Key) : ComponentError -> WiringError
  | .wiring error => error
  | error => .construct key.typeName key.name error

namespace Session

variable {value : Type}

/-- The session with the constructor of a key at work. -/
def enter (session : Session value) (key : Key) : Session value :=
  { session with scope := session.scope.enter key }

/-- The session with the constructor of a key no longer at work. -/
def leave (session : Session value) (key : Key) : Session value :=
  { session with scope := session.scope.leave key }

/-- The session with an instance kept under a key. -/
def keep (session : Session value) (key : Key) (made : Instance value) : Session value :=
  { session with scope := session.scope.keep key made }

/-- The session with further notices given. -/
def tell (session : Session value) (notices : List Notice) : Session value :=
  { session with host := session.host.tell notices }

/-- Keep an instance under a key that promises its type. -/
def accept (key : Key) (made : Instance value) (session : Session value) :
    Outcome WiringError (Instance value) × Session value :=
  if made.fits key then (.done made, session.keep key made)
  else (.failed (.typeMismatch key.typeName key.name), session)

/-- Put the constructor of a key to work and keep what it makes. -/
def construct (runner : Runner value) (key : Key) (constructor : Constructor value)
    (session : Session value) : Outcome WiringError (Instance value) × Session value :=
  match runner constructor.factory (session.enter key) with
  | (.done result, session) =>
      let session := session.leave key
      session.accept key (session.scope.newInstance constructor result)
  | (.failed error, session) => (.failed (.ofFactory key error), session.leave key)
  | (.brokenDown message, session) => (.brokenDown message, session)
  | (.tooDeep, session) => (.tooDeep, session)

/-- Answer a request for a key. -/
def resolveNamed (runner : Runner value) (key : Key) (session : Session value) :
    Outcome WiringError (Instance value) × Session value :=
  match session.scope.constructed? key, session.scope.find? key with
  | some made, _ => (.done made, session)
  | none, none => (.failed (.missingNamed key.typeName key.name), session)
  | none, some constructor =>
      if key ∈ session.scope.inProgress then (.failed (.cycle key.typeName), session)
      else session.construct runner key constructor

/-- Answer a request for a type. -/
def resolve (runner : Runner value) (typeName : String) (session : Session value) :
    Outcome WiringError (Instance value) × Session value :=
  match session.scope.onlyKey typeName with
  | .ok key => session.resolveNamed runner key
  | .error error => (.failed error, session)

/-- Give the scope a further constructor. -/
def provide (session : Session value) (constructor : Constructor value) :
    Except WiringError Unit × Session value :=
  match session.scope.provide constructor with
  | .ok scope => (.ok (), { session with scope })
  | .error error => (.error error, session)

end Session

namespace Work

variable {value : Type}

/-- Go on with the answer to a request, unless the answer was cut short. -/
def resume (rest : Except WiringError (Instance value) -> Session value ->
      Outcome ComponentError value × Session value) :
    Outcome WiringError (Instance value) × Session value ->
      Outcome ComponentError value × Session value
  | (.done made, session) => rest (.ok made) session
  | (.failed error, session) => rest (.error error) session
  | (.brokenDown message, session) => (.brokenDown message, session)
  | (.tooDeep, session) => (.tooDeep, session)

/-- Run work, with a runner for the factories that it sets to work. -/
def runWith (runner : Runner value) : Runner value
  | .done result, session => (.done result, session)
  | .fail error, session => (.failed error, session)
  | .breakDown message, session => (.brokenDown message, session)
  | .resolve typeName next, session =>
      resume (fun answer => runWith runner (next answer)) (session.resolve runner typeName)
  | .resolveNamed key next, session =>
      resume (fun answer => runWith runner (next answer)) (session.resolveNamed runner key)
  | .constructed key next, session =>
      runWith runner (next (session.scope.constructed? key)) session
  | .provide key factory next, session =>
      let (answer, session) := session.provide ⟨key, factory⟩
      runWith runner (next answer) session
  | .measure next, session => runWith runner (next session.scope.size) session
  | .look next, session => runWith runner (next session.host) session
  | .change host next, session => runWith runner next { session with host }

/-- Run work whose factories nest no deeper than a limit. -/
def run : (limit : Nat) -> Runner value
  | 0 => runWith fun _ session => (.tooDeep, session)
  | limit + 1 => runWith (run limit)

/-- Work that does a step on the host and goes on with its outcome. -/
def perform {result : Type} (procedure : Procedure result)
    (next : Except Failure result -> Work value) : Work value :=
  .look fun host =>
    let (outcome, host) := procedure.on host
    .change host (next outcome)

/-- Work that writes a line and goes on. -/
def write (line : String) (next : Work value) : Work value :=
  .look fun host => .change (host.write line) next

/-- Work that asks for the value of a type and goes on with it. -/
def invoke (typeName : String) (action : value -> Work value) : Work value :=
  .resolve typeName fun
    | .ok made => action made.value
    | .error error => .fail (.wiring error)

end Work
end ConfigWiring
