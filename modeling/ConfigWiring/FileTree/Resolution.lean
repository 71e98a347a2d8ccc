import ConfigWiring.FileTree.Basic
import ConfigWiring.FileTree.Fault
import ConfigWiring.Path

/-!
# Finding the entry of a path

A path is followed step by step from a directory.  Links are followed where they are
met, up to a fixed number, and every step but the last has to end at a directory.  A
confined path may not leave the directory that it starts from, not even for a moment.
-/

namespace ConfigWiring

open Text

/-- One step of a path. -/
inductive PathStep where
  /-- Stay in the directory. -/
  | stay
  /-- Go to the directory above. -/
  | up
  /-- Go to the entry of a name. -/
  | into (name : String)
  deriving DecidableEq, Repr

namespace PathStep

/-- The step that a piece between slashes asks for. -/
def ofPiece (piece : List Char) : PathStep :=
  if piece = ['.'] then stay
  else if piece = ['.', '.'] then up
  else into (String.ofList piece)

end PathStep

namespace Path

/-- Whether the spelling ends in a slash. -/
def endsInSlash (path : Path) : Bool := path.text.toList.getLast? == some '/'

/-- The steps that the names of a path ask for. -/
def nameSteps (path : Path) : List PathStep :=
  ((splitAll '/' path.text.toList).filter (!·.isEmpty)).map PathStep.ofPiece

/-- The steps of a path; a slash at its end asks for a directory. -/
def steps (path : Path) : List PathStep :=
  path.nameSteps ++ if path.endsInSlash then [.stay] else []

end Path

namespace FileTree

/-- How many links one path may lead through. -/
def maxLinks : Nat := 40

/-- How long a name may be, in bytes. -/
def maxNameSize : Nat := 255

/-- How long the spelling of a path may be, in bytes. -/
def maxPathSize : Nat := 4095

/-- Follow steps from the directory at a place, through a limited number of links and
within the given place if the path is confined.  Only the last name may be absent. -/
def follow (tree : FileTree) (confined : Option Place) :
    (links : Nat) -> Place -> List PathStep -> Except FileFault Place
  | _, place, [] => .ok place
  | links, place, .stay :: steps => tree.follow confined links place steps
  | links, place, .up :: steps =>
      if confined = some place then .error .outside
      else tree.follow confined links place.dropLast steps
  | links, place, .into name :: steps =>
      if name.utf8ByteSize > maxNameSize then .error .nameTooLong
      else
        match tree.at? (place ++ [name]) with
        | none => if steps.isEmpty then .ok (place ++ [name]) else .error .notFound
        | some (.file _ _) =>
            if steps.isEmpty then .ok (place ++ [name]) else .error .notDirectory
        | some (.directory _ _) => tree.follow confined links (place ++ [name]) steps
        | some (.link target) =>
            match links with
            | 0 => .error .linkLoop
            | links + 1 =>
                let path : Path := ⟨target⟩
                if !path.isAbsolute then
                  tree.follow confined links place (path.steps ++ steps)
                else if confined.isSome then .error .outside
                else tree.follow confined links [] (path.steps ++ steps)
termination_by links _ steps => (links, steps.length)

/-- The place that steps lead to from a directory; only the last name may be absent. -/
def locateSteps (tree : FileTree) (base : Place) (path : Path) (steps : List PathStep) :
    Except FileFault Place :=
  if path.text.isEmpty then .error .notFound
  else if path.text.toList.contains '\x00' then .error .endInside
  else if path.text.utf8ByteSize > maxPathSize then .error .nameTooLong
  else tree.follow none maxLinks (if path.isAbsolute then [] else base) steps

/-- The place that a path leads to from a directory; only the last name may be
absent. -/
def locate (tree : FileTree) (base : Place) (path : Path) : Except FileFault Place :=
  tree.locateSteps base path path.steps

/-- The place and the entry of a path. -/
def resolve (tree : FileTree) (base : Place) (path : Path) :
    Except FileFault (Place × FileNode) :=
  match tree.locate base path with
  | .error fault => .error fault
  | .ok place =>
      match tree.at? place with
      | some node => .ok (place, node)
      | none => .error .notFound

/-- The place of the directory that a path leads to. -/
def openDirectory (tree : FileTree) (base : Place) (path : Path) : Except FileFault Place :=
  match tree.resolve base path with
  | .ok (place, .directory _ _) => .ok place
  | .ok _ => .error .notDirectory
  | .error fault => .error fault

/-- The directory that holds the last name of a path, with that name; a path whose last
step is no name has none. -/
def locateName (tree : FileTree) (base : Place) (path : Path) :
    Except FileFault (Place × Option String) :=
  let steps := path.nameSteps
  match tree.locateSteps base path (steps.dropLast ++ [.stay]) with
  | .error fault => .error fault
  | .ok place =>
      match steps.getLast? with
      | some (.into name) =>
          if name.utf8ByteSize > maxNameSize then .error .nameTooLong
          else .ok (place, some name)
      | _ => .ok (place, none)

end FileTree
end ConfigWiring
