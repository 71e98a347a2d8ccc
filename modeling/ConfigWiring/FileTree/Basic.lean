/-!
# File trees

A file tree holds files, symbolic links and directories under names.  A place is the
chain of names that leads to an entry from the root, without following any link.
Changing the entries of one directory leaves every place outside of it as it was.
-/

namespace ConfigWiring

mutual

/-- What stands under a name. -/
inductive FileNode where
  /-- A file with its permission bits and its bytes. -/
  | file (mode : Nat) (bytes : ByteArray)
  /-- A symbolic link with the spelling of the path that it stands for. -/
  | link (target : String)
  /-- A directory with its permission bits. -/
  | directory (mode : Nat) (entries : FileNodes)

/-- The entries of a directory. -/
inductive FileNodes where
  | nil
  | cons (name : String) (node : FileNode) (rest : FileNodes)

end

/-- The names that lead from the root to an entry. -/
abbrev Place := List String

namespace FileNodes

instance : Inhabited FileNodes := ⟨nil⟩

/-- The entry of a name. -/
def get? (name : String) : FileNodes -> Option FileNode
  | nil => none
  | cons first node rest => if first = name then some node else rest.get? name

/-- Let a name stand for an entry, in its place or behind the others. -/
def put (name : String) (node : FileNode) : FileNodes -> FileNodes
  | nil => cons name node nil
  | cons first old rest =>
      if first = name then cons name node rest else cons first old (rest.put name node)

/-- Take a name away. -/
def erase (name : String) : FileNodes -> FileNodes
  | nil => nil
  | cons first node rest =>
      if first = name then rest.erase name else cons first node (rest.erase name)

/-- The entries with their names. -/
def toList : FileNodes -> List (String × FileNode)
  | nil => []
  | cons name node rest => (name, node) :: rest.toList

@[simp] theorem get?_nil (name : String) : nil.get? name = none := rfl

@[simp] theorem get?_put (name : String) (node : FileNode) (nodes : FileNodes)
    (other : String) :
    (nodes.put name node).get? other =
      if other = name then some node else nodes.get? other := by
  match nodes with
  | nil =>
      by_cases same : name = other
      · simp [put, get?, same]
      · simp [put, get?, same, Ne.symm same]
  | cons first old rest =>
      rw [put]
      split
      · next here =>
          by_cases same : name = other
          · simp [get?, same]
          · simp [get?, same, Ne.symm same, here]
      · next here =>
          by_cases same : first = other
          · have apart : other ≠ name := fun equal => here (same.trans equal)
            simp [get?, same, apart]
          · simp [get?, same, get?_put name node rest other]

@[simp] theorem get?_erase (name : String) (nodes : FileNodes) (other : String) :
    (nodes.erase name).get? other = if other = name then none else nodes.get? other := by
  match nodes with
  | nil => simp [erase]
  | cons first old rest =>
      rw [erase]
      split
      · next here =>
          by_cases same : other = name
          · simp [same, get?_erase name rest name]
          · have apart : first ≠ other := fun equal => same (equal.symm.trans here)
            simp [get?, same, apart, get?_erase name rest other]
      · next here =>
          by_cases same : first = other
          · have apart : other ≠ name := fun equal => here (same.trans equal)
            simp [get?, same, apart]
          · simp [get?, same, get?_erase name rest other]

end FileNodes

namespace FileNode

/-- The entries of a directory; other entries have none. -/
def entries : FileNode -> FileNodes
  | directory _ entries => entries
  | _ => .nil

/-- Whether an entry is a directory. -/
def isDirectory : FileNode -> Bool
  | directory _ _ => true
  | _ => false

/-- Whether an entry is a file. -/
def isFile : FileNode -> Bool
  | file _ _ => true
  | _ => false

/-- The entry at the end of a chain of names inside of an entry. -/
def at? : FileNode -> Place -> Option FileNode
  | node, [] => some node
  | node, name :: names => (node.entries.get? name).bind fun inner => inner.at? names

/-- The entry with the entries of one directory inside of it changed; nothing changes
if there is no directory at the place. -/
def modifyAt (change : FileNodes -> FileNodes) : FileNode -> Place -> FileNode
  | directory mode entries, [] => directory mode (change entries)
  | directory mode entries, name :: names =>
      match entries.get? name with
      | some inner => directory mode (entries.put name (inner.modifyAt change names))
      | none => directory mode entries
  | node, _ => node

@[simp] theorem at?_nil (node : FileNode) : node.at? [] = some node := rfl

theorem at?_append (node : FileNode) (place rest : Place) :
    node.at? (place ++ rest) = (node.at? place).bind fun inner => inner.at? rest := by
  induction place generalizing node with
  | nil => rfl
  | cons name names ih =>
      simp only [List.cons_append, at?]
      cases node.entries.get? name with
      | none => rfl
      | some inner => simpa using ih inner

end FileNode

/-- A whole tree: the entries of its root. -/
structure FileTree where
  /-- The directory at the root. -/
  root : FileNode

namespace FileTree

/-- The permission bits of a new directory before the umask. -/
def newDirectoryMode : Nat := 0o777

/-- A tree without entries. -/
def empty : FileTree := ⟨.directory 0o755 .nil⟩

instance : Inhabited FileTree := ⟨empty⟩

/-- The entry at a place. -/
def at? (tree : FileTree) (place : Place) : Option FileNode := tree.root.at? place

/-- The tree with the entries of the directory at a place changed. -/
def modifyAt (tree : FileTree) (place : Place) (change : FileNodes -> FileNodes) : FileTree :=
  ⟨tree.root.modifyAt change place⟩

/-- The tree with an entry under a name of the directory at a place. -/
def put (tree : FileTree) (place : Place) (name : String) (node : FileNode) : FileTree :=
  tree.modifyAt place (·.put name node)

/-- The tree without a name of the directory at a place. -/
def erase (tree : FileTree) (place : Place) (name : String) : FileTree :=
  tree.modifyAt place (·.erase name)

end FileTree
end ConfigWiring
