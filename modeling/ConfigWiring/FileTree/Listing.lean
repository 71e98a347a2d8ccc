import ConfigWiring.FileTree.Access

/-!
# Listing and filling a file tree

A listing names what stands below a directory: the files, the links and the directories
without entries.  Filling puts entries where paths lead and makes the directories above
them.
-/

namespace ConfigWiring

mutual

/-- The files, links and empty directories below an entry, with the names that lead to
them. -/
def FileNode.leaves : FileNode -> List (Place × FileNode)
  | .directory mode .nil => [([], .directory mode .nil)]
  | .directory _ entries => entries.leaves
  | node => [([], node)]

/-- The files, links and empty directories among entries and below them. -/
def FileNodes.leaves : FileNodes -> List (Place × FileNode)
  | .nil => []
  | .cons name node rest =>
      (node.leaves.map fun (names, leaf) => (name :: names, leaf)) ++ rest.leaves

end

namespace FileTree

/-- The path of names below a directory. -/
def pathOf (names : Place) : String := "/".intercalate names

/-- What stands below the directory at a place, sorted by path. -/
def listing (tree : FileTree) (place : Place) : List (String × FileNode) :=
  match tree.at? place with
  | some (.directory _ entries) =>
      (entries.leaves.map fun (names, leaf) => (pathOf names, leaf)).mergeSort
        fun left right => decide (left.1 ≤ right.1)
  | _ => []

/-- Put an entry where a path leads, below directories that are made for it. -/
def install (tree : FileTree) (umask : Nat) (base : Place) (path : Path) (node : FileNode) :
    FileTree :=
  let above := match path.parent? with
    | some parent => (tree.makeDirectories umask base parent).1
    | none => tree
  match node with
  | .file mode bytes =>
      match above.writeFile umask base path bytes with
      | .ok written =>
          match written.resolve base path with
          | .ok (place, _) => written.put place.dropLast (place.getLast?.getD "") (.file mode bytes)
          | .error _ => written
      | .error _ => above
  | .link _ =>
      match above.locateName base path with
      | .ok (place, some name) => above.put place name node
      | _ => above
  | .directory mode entries =>
      let made := (above.makeDirectories umask base path).1
      match made.resolve base path with
      | .ok (place, .directory _ present) =>
          match place.getLast? with
          | some name => made.put place.dropLast name
              (.directory mode (entries.toList.foldl (fun all (name, node) => all.put name node) present))
          | none => made
      | _ => made

/-- Remove the file or link that a path leads to, if there is one. -/
def remove? (tree : FileTree) (base : Place) (path : Path) : Option FileTree :=
  match tree.locateName base path with
  | .ok (place, some name) =>
      if path.endsInSlash then none else (tree.removeNamed place name).toOption
  | _ => none

end FileTree
end ConfigWiring
