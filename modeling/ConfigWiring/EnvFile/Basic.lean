import ConfigWiring.EnvFile.Line
import ConfigWiring.Environment.Basic

/-!
# Env files

An env file keeps the text it was read from, the entries that the text gives, and the
names that were added since.  Writing it gives the text back and one line for each
added name, so what the text says in ways of its own is never lost.
-/

namespace ConfigWiring

/-- An env file with the names that were added to it. -/
structure EnvFile where
  /-- The text that the file was read from. -/
  source : String
  /-- All names with their values, in the order in which they came. -/
  entries : Entries
  /-- The names that the text does not give, in the order in which they came. -/
  appended : List String
  deriving DecidableEq, Repr

namespace EnvFile

/-- A file without text. -/
def empty : EnvFile := ⟨"", .empty, []⟩

instance : Inhabited EnvFile := ⟨empty⟩

/-- What a name stands for in a value: the variable of the process if there is one,
else the entry so far, else nothing. -/
def valueOf (environment : Environment) (entries : Entries) (name : String) : String :=
  ((environment.get? name).or (entries.get? name)).getD ""

/-- The entries after one more line; a malformed line changes nothing. -/
def addLine (environment : Environment) (entries : Entries) : Option Line -> Entries
  | some (.assignment name pieces) =>
      entries.put name (expandAll (valueOf environment entries) pieces)
  | _ => entries

/-- The entries that a text gives in an environment. -/
def entriesOf (environment : Environment) (text : String) : Entries :=
  (readLines text).foldl (addLine environment) .empty

/-- Read the text of an env file. -/
def parse (environment : Environment) (text : String) : EnvFile :=
  ⟨text, entriesOf environment text, []⟩

/-- How many logical lines of a text are malformed. -/
def malformedCount (text : String) : Nat := (readLines text).countP Option.isNone

/-- The file without text to which pairs were added; the last value of a name counts. -/
def ofPairs (pairs : List (String × String)) : EnvFile :=
  pairs.foldl (fun file (name, value) => {
      file with
      entries := file.entries.put name value
      appended := if file.entries.contains name then file.appended else file.appended ++ [name] })
    empty

/-- The value of a name. -/
def get? (file : EnvFile) (name : String) : Option String := file.entries.get? name

/-- Whether a name has a value. -/
def contains (file : EnvFile) (name : String) : Bool := file.entries.contains name

/-- Add a name that has no value yet. -/
def add (file : EnvFile) (name value : String) : EnvFile := {
  file with
  entries := file.entries.put name value
  appended := file.appended ++ [name] }

/-- Add a name unless it has a value, and tell whether it was added. -/
def insertMissing (file : EnvFile) (name value : String) : EnvFile × Bool :=
  if file.contains name then (file, false) else (file.add name value, true)

/-- A text with a line feed at its end, unless it is empty. -/
def closedText (text : String) : String :=
  if text.isEmpty || text.toList.getLast? == some '\n' then text else text ++ "\n"

/-- The line of an added name. -/
def lineOf (file : EnvFile) (name : String) : String :=
  match file.get? name with
  | some value => Line.write name value
  | none => ""

/-- The text of a file: the text it was read from and a line for each added name. -/
def render (file : EnvFile) : String :=
  closedText file.source ++ String.join (file.appended.map file.lineOf)

/-- Whether two files have the same text, the same added names and the same values. -/
def agrees (left right : EnvFile) : Bool :=
  left.source == right.source && left.entries.agrees right.entries &&
    left.appended == right.appended

@[simp] theorem render_parse (environment : Environment) (text : String) :
    (parse environment text).render = closedText text := by
  simp [render, parse]

theorem insertMissing_of_contains {file : EnvFile} {name : String}
    (present : file.contains name = true) (value : String) :
    file.insertMissing name value = (file, false) := by
  simp [insertMissing, present]

end EnvFile
end ConfigWiring
