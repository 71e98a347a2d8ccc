import ConfigWiring.Shell.Running

/-!
# Programs of the system

Every host has some small programs.  They tell by their status whether they could do
what they were called for.
-/

namespace ConfigWiring
namespace Program

open Shell Shell.Action

/-- The options and the other words among some words. -/
def splitOptions (words : List String) : List Char × List String :=
  let (options, others) := words.partition fun word =>
    word.length > 1 && word.toList.head? == some '-'
  (options.flatMap fun option => option.toList.drop 1, others)

/-- Whether only certain options are given. -/
def onlyOptions (allowed : String) (given : List Char) : Bool :=
  given.all fun option => allowed.toList.contains option

/-- Write the texts of some files; the flag tells whether all could be read so far. -/
def writeFiles (sound : Bool) : List String -> Action Unit
  | [] => leave (if sound then 0 else 1)
  | path :: paths => do
      if path = "-" then
        write 1 (String.ofList (← rest 0))
        setRest 0 []
        writeFiles sound paths
      else
        match ← readFile? path with
        | some text =>
            write 1 (String.ofList text)
            writeFiles sound paths
        | none => writeFiles false paths

/-- Take some files away; the flags tell whether absent ones and directories are
accepted, and whether all could be taken away so far. -/
def removeFiles (absent whole sound : Bool) : List String -> Action Unit
  | [] => leave (if sound then 0 else 1)
  | path :: paths => do
      let host := (← get).host
      match host.files.locateName host.place ⟨path⟩ with
      | .ok (place, some name) =>
          match host.files.at? (place ++ [name]) with
          | some node =>
              if node.isDirectory && !whole then removeFiles absent whole false paths
              else
                changeFiles fun files => files.erase place name
                removeFiles absent whole sound paths
          | none => removeFiles absent whole (sound && absent) paths
      | _ => removeFiles absent whole (sound && absent) paths

/-- Make sure that there are some files. -/
def touchFiles (sound : Bool) : List String -> Action Unit
  | [] => leave (if sound then 0 else 1)
  | path :: paths => do
      let host := (← get).host
      let isDirectory := host.files.isDirectory host.place ⟨path⟩
      let opened ← if isDirectory then pure (some .nothing) else openFile? false path
      touchFiles (sound && opened.isSome) paths

/-- Make some directories, with those above them or without. -/
def makeDirectories (above sound : Bool) : List String -> Action Unit
  | [] => leave (if sound then 0 else 1)
  | path :: paths => do
      let host := (← get).host
      if above then
        let (files, fault) := host.files.makeDirectories host.umask host.place ⟨path⟩
        changeFiles fun _ => files
        makeDirectories above (sound && fault.isNone) paths
      else
        match host.files.makeDirectory host.umask host.place ⟨path⟩ with
        | .ok files =>
            changeFiles fun _ => files
            makeDirectories above sound paths
        | .error _ => makeDirectories above false paths

/-- The path to which a file goes: into a directory it goes under its own name. -/
def goal (host : Host) (source target : String) : Path :=
  if host.files.isDirectory host.place ⟨target⟩ then
    Path.mk target / ((Path.mk source).fileName?.getD "")
  else ⟨target⟩

/-- Copy or move a file. -/
def transfer (moved : Bool) (source target : String) : Action Unit := do
  let host := (← get).host
  match host.files.resolve host.place ⟨source⟩ with
  | .ok (_, .file mode bytes) =>
      let path := goal host source target
      let written :=
        if moved then host.files.moveInto host.place path mode bytes
        else
          (host.files.writeFile host.umask host.place path bytes)
      match written, host.files.locateName host.place ⟨source⟩,
          host.files.locate host.place ⟨source⟩, host.files.locate host.place path with
      | .ok files, .ok (place, some name), .ok origin, .ok reached =>
          if origin = reached then leave 1
          else
            changeFiles fun _ => if moved then files.erase place name else files
            leave 0
      | _, _, _, _ => leave 1
  | _ => leave 1

/-- The text of some words as the program for it writes them, which leaves escapes as
they are unless it is asked to replace them. -/
def echoed (words : List String) : String :=
  let isOption (word : String) : Bool :=
    match word.toList with
    | '-' :: letters => !letters.isEmpty && letters.all "neE".toList.contains
    | _ => false
  let options := (words.takeWhile isOption).flatMap fun word => word.toList.drop 1
  let text := " ".intercalate (words.dropWhile isOption)
  let replaces := (options.filter (· != 'n')).getLast? == some 'e'
  let (text, ended) :=
    if replaces then Output.unescape true text.length text.toList else (text.toList, false)
  String.ofList text ++ if ended || options.contains 'n' then "" else "\n"

/-- Run a program of the system that runs no others. -/
def runTool (name : String) (words : List String) : Action Unit := do
  let (options, others) := splitOptions words
  match name with
  | "true" => leave 0
  | "false" => leave 1
  | "echo" => say (echoed words)
  | "cat" =>
      if !onlyOptions "AbeEnstTuv" options then leave 1
      else writeFiles true (if others.isEmpty then ["-"] else others)
  | "rm" =>
      if !onlyOptions "fiIrRdv" options then leave 1
      else if others.isEmpty then leave (if options.contains 'f' then 0 else 1)
      else
        removeFiles (options.contains 'f') (options.contains 'r' || options.contains 'R') true
          others
  | "touch" => if others.isEmpty then leave 1 else touchFiles (onlyOptions "acm" options) others
  | "mkdir" =>
      if others.isEmpty || !onlyOptions "pv" options then leave 1
      else makeDirectories (options.contains 'p') true others
  | "cp" | "mv" =>
      match others with
      | [source, target] =>
          if onlyOptions "afpTuv" options then transfer (name == "mv") source target else leave 1
      | _ => leave 1
  | "pwd" => if onlyOptions "LP" options then say (pathOf (← get).host.place ++ "\n") else leave 1
  | "sleep" => leave (if others.isEmpty || !options.isEmpty then 1 else 0)
  | _ =>
      let _ ← builtin name words
      return

end Program
end ConfigWiring
