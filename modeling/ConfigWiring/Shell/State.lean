import ConfigWiring.FileTree.Access
import ConfigWiring.Host.Basic
import ConfigWiring.Shell.Command

/-!
# The state of a shell

A shell works on a host.  It keeps variables, arguments and functions of its own, and
it reads from and writes to numbered streams.  A command either comes to its end, and
then leaves a status, or it makes the shell depart from its way.
-/

namespace ConfigWiring

namespace Entries

/-- Give a name a value back, or none. -/
def putBack (entries : Entries) (name : String) : Option String -> Entries
  | some value => entries.put name value
  | none => entries.erase name

/-- Give a name the value that it has in an earlier table. -/
def restore (entries before : Entries) (name : String) : Entries :=
  entries.putBack name (before.get? name)

end Entries

namespace Shell

/-- Where a stream leads. -/
inductive Stream where
  | closed
  /-- To a place that swallows everything and holds nothing. -/
  | nothing
  /-- To a text that is gathered. -/
  | gathered
  /-- To the end of a file. -/
  | file (place : Place)
  /-- From a text that is given. -/
  | source (number : Nat)
  deriving DecidableEq, Repr

/-- The state of a shell. -/
structure State where
  host : Host
  /-- The number of the process. -/
  process : Nat
  /-- The name under which the shell was called. -/
  name : String
  arguments : List String
  values : Entries
  /-- The names of the variables that programs get. -/
  exported : List String
  functions : List (String × Command)
  /-- How the last command ended. -/
  status : Nat
  /-- How the last script inside a word ended. -/
  substituted : Option Nat
  options : List Char
  streams : List (Nat × Stream)
  /-- What is still to be read from the texts that are given. -/
  sources : Array (List Char)
  /-- What has been gathered. -/
  gathered : String
  /-- What to do about signals; zero stands for the end of the shell. -/
  traps : List (Nat × String)
  /-- Whether a failure is taken into account, so that it does not end the shell. -/
  shielded : Bool
  /-- How many loops are around. -/
  loops : Nat
  /-- The values outside of the variables that belong to a function, inside one. -/
  saved : Option (List (String × Option String))

namespace State

/-- The state of a shell that begins, given the number of its process and the variables
that it gets. -/
def beginning (host : Host) (process : Nat) (values : Entries) : State where
  host
  process
  name := ""
  arguments := []
  values
  exported := values.names
  functions := []
  status := 0
  substituted := none
  options := []
  streams := []
  sources := #[]
  gathered := ""
  traps := []
  shielded := false
  loops := 0
  saved := none

end State

/-- Why a shell departs from its way. -/
inductive Departure where
  | exit
  /-- Back from a function. -/
  | back
  /-- Out of a number of loops. -/
  | out (levels : Nat)
  /-- To the next round of the loop a number of loops out. -/
  | onward (levels : Nat)
  /-- The shell has been killed. -/
  | killed (signal : Nat)
  deriving DecidableEq, Repr

/-- What a shell does. -/
abbrev Action : Type -> Type := ExceptT Departure (StateM State)

namespace Action

/-- Leave a status. -/
def leave (status : Nat) : Action Unit := modify fun state => { state with status }

/-- Exit with the status of a mistake. -/
def abort {result : Type} : Action result := do
  leave 2
  throw .exit

/-- Do something and then something else, even if the first thing departs. -/
def andFinally (action restore : Action Unit) : Action Unit := do
  try action
  catch departure =>
    restore
    throw departure
  restore

/-- Change the files of the host. -/
def changeFiles (change : FileTree -> FileTree) : Action Unit :=
  modify fun state => { state with host := { state.host with files := change state.host.files } }

/-- Go out of some loops, or on to the next round of one, if there are any around. -/
def departFrom (levels : Nat) (departure : Nat -> Departure) : Action Unit := do
  let loops := (← get).loops
  leave 0
  if loops > 0 then throw (departure (min levels loops))

/-! ## Variables -/

/-- Give a variable a value. -/
def assign (name value : String) : Action Unit :=
  modify fun state =>
    let kept := state.options.contains 'a' && !state.exported.contains name
    { state with
      values := state.values.put name value
      exported := if kept then name :: state.exported else state.exported }

/-- The value of a variable. -/
def valueOf? (name : String) : Action (Option String) := return (← get).values.get? name

/-! ## Streams -/

/-- How many streams every process has. -/
def standardStreams : Nat := 3

/-- Where a stream leads. -/
def stream (number : Nat) : Action Stream :=
  return ((← get).streams.lookup number).getD
    (if number < standardStreams then .nothing else .closed)

/-- Let a stream lead somewhere. -/
def setStream (number : Nat) (stream : Stream) : Action Unit :=
  modify fun state => { state with streams := (number, stream) :: state.streams }

/-- The number of a new text that is given. -/
def addSource (text : List Char) : Action Nat :=
  modifyGet fun state => (state.sources.size, { state with sources := state.sources.push text })

/-- Put a text at the end of a file. -/
def appendAt (place : Place) (text : String) (files : FileTree) : FileTree :=
  match files.at? place, place.getLast? with
  | some (.file mode bytes), some name =>
      files.put place.dropLast name (.file mode (bytes ++ text.toUTF8))
  | _, _ => files

/-- Write a text to a stream. -/
def write (number : Nat) (text : String) : Action Unit := do
  match ← stream number with
  | .closed | .nothing | .source _ => return
  | .gathered => modify fun state => { state with gathered := state.gathered ++ text }
  | .file place => changeFiles (appendAt place text)

/-- What is still to be read from a stream. -/
def rest (number : Nat) : Action (List Char) := do
  match ← stream number with
  | .source source => return (← get).sources.getD source []
  | _ => return []

/-- Leave only a text to be read from a stream. -/
def setRest (number : Nat) (text : List Char) : Action Unit := do
  match ← stream number with
  | .source source =>
      modify fun state => { state with sources := state.sources.setIfInBounds source text }
  | _ => return

/-! ## Files -/

/-- The file that swallows everything and holds nothing. -/
def nowhere : String := "/dev/null"

/-- The bytes of a text file as text. -/
def decode (bytes : ByteArray) : List Char :=
  match String.fromUTF8? bytes with
  | some text => text.toList
  | none => bytes.toList.map fun byte => Char.ofNat byte.toNat

/-- The text of a file. -/
def readFile? (path : String) : Action (Option (List Char)) := do
  if path = nowhere then return some []
  let host := (← get).host
  match host.files.resolve host.place ⟨path⟩ with
  | .ok (_, .file _ bytes) => return some (decode bytes)
  | _ => return none

/-- Make sure that there is a file, which is emptied or not, and open it. -/
def openFile? (emptied : Bool) (path : String) : Action (Option Stream) := do
  if path = nowhere then return some .nothing
  let host := (← get).host
  let kept :=
    match host.files.resolve host.place ⟨path⟩ with
    | .ok (_, .file _ bytes) => if emptied then .empty else bytes
    | _ => .empty
  match host.files.writeFile host.umask host.place ⟨path⟩ kept,
      host.files.locate host.place ⟨path⟩ with
  | .ok files, .ok place =>
      changeFiles fun _ => files
      return some (.file place)
  | _, _ => return none

/-- Redirect a stream, given the text of the redirection's word.  The result tells
whether that is possible. -/
def redirect (number : Nat) (kind : RedirectionKind) (word : String) : Action Bool := do
  match kind with
  | .document =>
      setStream number (.source (← addSource word.toList))
      return true
  | .duplicate =>
      if word = "-" then
        setStream number .closed
        return true
      match word.toNat? with
      | some other =>
          let opened ← stream other
          setStream number opened
          return opened != .closed
      | none => return false
  | .input =>
      match ← readFile? word with
      | some text =>
          setStream number (.source (← addSource text))
          return true
      | none => return false
  | .output | .append =>
      match ← openFile? (kind == .output) word with
      | some opened =>
          setStream number opened
          return true
      | none => return false

end Action
end Shell
end ConfigWiring
