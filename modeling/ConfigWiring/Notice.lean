import ConfigWiring.Path

/-!
# Notices

What a run tells its user beside its result: information on what was done, and
warnings on what was left out.  A notice is a sentence with named values.
-/

namespace ConfigWiring

/-- How much a notice matters. -/
inductive NoticeLevel where
  | info
  | warning
  deriving DecidableEq, Repr

/-- What a run tells its user. -/
inductive Notice where
  /-- A line of an env file is malformed and says nothing. -/
  | malformedLine
  /-- A file cannot be read and counts as absent. -/
  | unreadableFile (path : Path)
  /-- A field's variable has a name that no variable can have. -/
  | invalidKey (key : String)
  /-- An entry of an env file is no variable of the process. -/
  | notExported (key : String)
  /-- Names were added to an env file. -/
  | envFileUpdated (path : Path) (added : List String)
  /-- The package of a declaration cannot be imported without a module path. -/
  | notImportable (declaration : String)
  /-- A generated file was removed. -/
  | wiringRemoved (path : Path)
  /-- A file was generated. -/
  | wiringGenerated (path : Path) (count : Nat)
  /-- The imports of a generated file could not be formatted. -/
  | formattingFailed (path : Path)
  /-- A destroyer failed. -/
  | destroyerFailed
  /-- The variables of a generated file were added and exported. -/
  | variablesExported (added exported : Nat)
  /-- The variables of the env file were brought up to date. -/
  | variablesSynchronised (added : Nat) (persisted : Bool)
  /-- A project has no marked declaration. -/
  | nothingMarked (project : String)
  /-- A marked declaration. -/
  | declarationFound (tag package typeName : String) (fields : Nat)
  /-- How many declarations are marked. -/
  | scanComplete (count : Nat)
  deriving DecidableEq, Repr

namespace Notice

/-- How much a notice matters. -/
def level : Notice -> NoticeLevel
  | malformedLine | unreadableFile _ | invalidKey _ | notExported _ | notImportable _
  | formattingFailed _ | destroyerFailed => .warning
  | _ => .info

/-- The sentence of a notice. -/
def sentence : Notice -> String
  | malformedLine => "skipping malformed env line"
  | unreadableFile _ => "ignoring unreadable file"
  | invalidKey _ => "skipping invalid environment key"
  | notExported _ => "cannot export environment entry"
  | envFileUpdated _ _ => "updated env file"
  | notImportable _ => "no go.mod module path; cannot import declaring package"
  | wiringRemoved _ => "removed generated file"
  | wiringGenerated _ _ => "generated @app-cfg wiring"
  | formattingFailed _ => "import formatting failed"
  | destroyerFailed => "destroyer failed"
  | variablesExported _ _ | variablesSynchronised _ _ => "env file synchronised"
  | nothingMarked _ => "no @app-cfg declarations"
  | declarationFound _ _ _ _ => "found declaration"
  | scanComplete _ => "scan complete"

/-- The named values of a notice. -/
def values : Notice -> List (String × String)
  | malformedLine | destroyerFailed => []
  | unreadableFile path | wiringRemoved path | formattingFailed path => [("path", path.text)]
  | invalidKey key | notExported key => [("key", key)]
  | envFileUpdated path added => [("path", path.text), ("added", " ".intercalate added)]
  | notImportable declaration => [("declaration", declaration)]
  | wiringGenerated path count => [("path", path.text), ("configs", toString count)]
  | variablesExported added exported =>
      [("added", toString added), ("exported", toString exported)]
  | variablesSynchronised added persisted =>
      [("added", toString added), ("persisted", if persisted then "true" else "false")]
  | nothingMarked project => [("project", project)]
  | declarationFound tag package typeName fields =>
      [("tag", tag), ("package", package), ("type_name", typeName), ("fields", toString fields)]
  | scanComplete count => [("count", toString count)]

/-- A notice on one line. -/
def text (notice : Notice) : String :=
  (match notice.level with
    | .info => "INFO "
    | .warning => "WARN ") ++
    notice.sentence ++
    String.join (notice.values.map fun (name, value) => " " ++ name ++ "=" ++ value)

end Notice
end ConfigWiring
