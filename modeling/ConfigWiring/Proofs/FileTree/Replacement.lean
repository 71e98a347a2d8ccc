import ConfigWiring.Proofs.FileTree.DirectoryPath

/-!
# Replacing a file

Putting a file under a name of a directory changes nothing that a path can tell from outside
of that name: every other place keeps its kind of entry, and a link its target.  A path that
leads to a directory afterwards led to the same directory before.
-/

namespace ConfigWiring

/-- What a path can tell of an entry on its way. -/
inductive Shape where
  /-- It is a file. -/
  | file
  /-- It is a link with a target. -/
  | link (target : String)
  /-- It is a directory. -/
  | directory
  deriving DecidableEq, Repr

/-- Giving a name the entry that it has changes nothing. -/
theorem FileNodes.put_of_get?
    {nodes : FileNodes}
    {name : String}
    {node : FileNode}
    (present : nodes.get? name = some node) :
    nodes.put name node = nodes := by
  match nodes with
  | .nil => cases present
  | .cons first old rest =>
      rw [get?] at present
      rw [put]
      split at present
      · next here =>
          cases present
          rw [if_pos here, here]
      · next apart => rw [if_neg apart, put_of_get? present]

/-- Of two entries under one name the later one counts. -/
@[simp] theorem FileNodes.put_put (name : String) (old new : FileNode) (nodes : FileNodes) :
    (nodes.put name old).put name new = nodes.put name new := by
  match nodes with
  | .nil => simp [put]
  | .cons first node rest =>
      rw [put, put]
      split
      · simp [put]
      · next apart => rw [put, if_neg apart, put_put name old new rest]

namespace FileNode

/-- What a path can tell of an entry. -/
def shape : FileNode -> Shape
  | file _ _ => .file
  | link target => .link target
  | directory _ _ => .directory

/-- The directory at the place of a change has its entries changed. -/
theorem at?_modifyAt
    {node : FileNode}
    {place : Place}
    {mode : Nat}
    {entries : FileNodes}
    (there : node.at? place = some (directory mode entries))
    (change : FileNodes -> FileNodes) :
    (node.modifyAt change place).at? place = some (directory mode (change entries)) := by
  induction place generalizing node with
  | nil =>
      obtain rfl : node = directory mode entries := by simpa using there
      rfl
  | cons name names inductionHypothesis =>
      cases node with
      | file | link => simp [at?, FileNode.entries] at there
      | directory outer nodes =>
          simp only [at?, FileNode.entries] at there
          cases found : nodes.get? name with
          | none => simp [found] at there
          | some inner =>
              rw [found, Option.bind_some] at there
              simp [modifyAt, found, at?, FileNode.entries, inductionHypothesis there]

/-- Two changes of one directory are one change. -/
theorem modifyAt_modifyAt
    (node : FileNode)
    (place : Place)
    (first second : FileNodes -> FileNodes) :
    (node.modifyAt first place).modifyAt second place =
      node.modifyAt (fun entries => second (first entries)) place := by
  induction place generalizing node with
  | nil => cases node <;> rfl
  | cons key keys inductionHypothesis =>
      cases node with
      | file | link => rfl
      | directory mode nodes =>
          rw [modifyAt, modifyAt]
          cases found : nodes.get? key with
          | none => simp [modifyAt, found]
          | some inner => simp [modifyAt, inductionHypothesis]

theorem shape_modifyAt (node : FileNode) (place : Place) (change : FileNodes -> FileNodes) :
    (node.modifyAt change place).shape = node.shape := by
  cases node with
  | file | link => simp [modifyAt]
  | directory mode nodes =>
      cases place with
      | nil => rfl
      | cons name names =>
          rw [modifyAt]
          cases nodes.get? name <;> rfl

/-- A change under one name of a directory leaves the shapes at all places that do not lead
through that name. -/
theorem map_shape_at?_modifyAt
    {name : String}
    {change : FileNodes -> FileNodes}
    (elsewhere : ∀ nodes other, other ≠ name -> (change nodes).get? other = nodes.get? other)
    (node : FileNode)
    {place other : Place}
    (outside : ¬ place ++ [name] <+: other) :
    ((node.modifyAt change place).at? other).map shape = (node.at? other).map shape := by
  induction other generalizing node place with
  | nil => simp [shape_modifyAt]
  | cons first rest inductionHypothesis =>
      cases node with
      | file | link => simp [modifyAt]
      | directory mode nodes =>
          cases place with
          | nil =>
              have apart : first ≠ name := by
                rintro rfl
                exact outside (by simp)
              simp [modifyAt, at?, FileNode.entries, elsewhere nodes first apart]
          | cons key keys =>
              rw [modifyAt]
              cases found : nodes.get? key with
              | none => rfl
              | some inner =>
                  by_cases same : first = key
                  · subst same
                    have inside : ¬ keys ++ [name] <+: rest := by simpa using outside
                    simp [at?, FileNode.entries, found, inductionHypothesis inner inside]
                  · simp [at?, FileNode.entries, same]

/-- A change under one name of a directory changes nothing at places that neither hold the
directory nor lead through the name. -/
theorem at?_modifyAt_of_apart
    {name : String}
    {change : FileNodes -> FileNodes}
    (elsewhere : ∀ nodes other, other ≠ name -> (change nodes).get? other = nodes.get? other)
    (node : FileNode)
    {place other : Place}
    (outside : ¬place ++ [name] <+: other)
    (beside : ¬other <+: place) :
    (node.modifyAt change place).at? other = node.at? other := by
  induction other generalizing node place with
  | nil => exact absurd (List.nil_prefix) beside
  | cons first rest inductionHypothesis =>
      cases node with
      | file | link => cases place <;> rfl
      | directory mode entries =>
          cases place with
          | nil =>
              have apart : first ≠ name := by
                rintro rfl
                exact outside (by simp)
              simp [modifyAt, at?, FileNode.entries, elsewhere entries first apart]
          | cons key keys =>
              rw [modifyAt]
              cases found : entries.get? key with
              | none => rfl
              | some inner =>
                  by_cases same : first = key
                  · subst same
                    have kept : (inner.modifyAt change keys).at? rest = inner.at? rest :=
                      inductionHypothesis inner (by simpa using outside) (by simpa using beside)
                    simp [at?, FileNode.entries, found, kept]
                  · simp [at?, FileNode.entries, same]

/-- A change at a place that is no directory changes nothing. -/
theorem modifyAt_of_not_directory
    {node : FileNode}
    {place : Place}
    (elsewhere : (node.at? place).map shape ≠ some .directory)
    (change : FileNodes -> FileNodes) :
    node.modifyAt change place = node := by
  induction place generalizing node with
  | nil =>
      cases node with
      | file | link => rfl
      | directory mode nodes => exact absurd rfl elsewhere
  | cons key keys inductionHypothesis =>
      cases node with
      | file | link => rfl
      | directory mode nodes =>
          rw [modifyAt]
          cases found : nodes.get? key with
          | none => rfl
          | some inner =>
              have same : inner.modifyAt change keys = inner := by
                apply inductionHypothesis
                simpa [at?, FileNode.entries, found] using elsewhere
              simp [same, FileNodes.put_of_get? found]

/-- Putting the entry that stands under a name of a directory changes nothing. -/
theorem modifyAt_put_of_at?
    {node entry : FileNode}
    {place : Place}
    {name : String}
    (there : node.at? (place ++ [name]) = some entry) :
    node.modifyAt (·.put name entry) place = node := by
  induction place generalizing node with
  | nil =>
      cases node with
      | file | link => simp [at?, FileNode.entries] at there
      | directory mode nodes =>
          have found : nodes.get? name = some entry := by
            simpa [at?, FileNode.entries] using there
          rw [modifyAt, FileNodes.put_of_get? found]
  | cons key keys inductionHypothesis =>
      cases node with
      | file | link => rfl
      | directory mode nodes =>
          rw [modifyAt]
          cases found : nodes.get? key with
          | none => rfl
          | some inner =>
              have below : inner.at? (keys ++ [name]) = some entry := by
                simpa [at?, FileNode.entries, found] using there
              simp [inductionHypothesis below, FileNodes.put_of_get? found]

end FileNode

namespace FileTree

variable {tree : FileTree} {place : Place} {name : String} {node : FileNode}

/-- What stands under a name of a directory that was changed, and inside of what stands there. -/
theorem at?_modifyAt
    {mode : Nat}
    {entries : FileNodes}
    (there : tree.at? place = some (.directory mode entries))
    (change : FileNodes -> FileNodes)
    (name : String)
    (rest : Place) :
    (tree.modifyAt place change).at? (place ++ [name] ++ rest) =
      ((change entries).get? name).bind fun inner => inner.at? rest := by
  show (tree.root.modifyAt change place).at? (place ++ [name] ++ rest) = _
  rw [List.append_assoc, FileNode.at?_append, FileNode.at?_modifyAt there, Option.bind_some]
  rfl

/-- What is put under a name of a directory is there. -/
theorem at?_put
    {mode : Nat}
    {entries : FileNodes}
    (there : tree.at? place = some (.directory mode entries))
    (name : String)
    (node : FileNode) :
    (tree.put place name node).at? (place ++ [name]) = some node := by
  simpa [put] using at?_modifyAt there (·.put name node) name []

/-- What is erased from a directory is gone, with all that is inside of it. -/
theorem at?_erase
    {mode : Nat}
    {entries : FileNodes}
    (there : tree.at? place = some (.directory mode entries))
    (name : String)
    (rest : Place) :
    (tree.erase place name).at? (place ++ [name] ++ rest) = none := by
  simpa [erase] using at?_modifyAt there (·.erase name) name rest

/-- Putting the entry that stands under a name changes nothing. -/
theorem put_of_at?
    (there : tree.at? (place ++ [name]) = some node) :
    tree.put place name node = tree := by
  cases tree with
  | mk root => exact congrArg FileTree.mk (FileNode.modifyAt_put_of_at? there)

/-- Of two entries under one name the later one counts. -/
theorem put_put (tree : FileTree) (place : Place) (name : String) (old new : FileNode) :
    (tree.put place name old).put place name new = tree.put place name new := by
  rw [put, put, put, modifyAt, modifyAt, modifyAt, FileNode.modifyAt_modifyAt]
  simp

/-- Putting an entry under a name leaves the shapes at all places outside of that name. -/
theorem map_shape_at?_put
    {other : Place}
    (outside : ¬ place ++ [name] <+: other) :
    ((tree.put place name node).at? other).map FileNode.shape =
      (tree.at? other).map FileNode.shape := by
  apply FileNode.map_shape_at?_modifyAt _ _ outside
  intro nodes key apart
  simp [apart]

/-- Putting an entry under a name changes nothing at places that neither hold the directory nor
lead through the name. -/
theorem at?_put_of_apart
    {other : Place}
    (outside : ¬place ++ [name] <+: other)
    (beside : ¬other <+: place) :
    (tree.put place name node).at? other = tree.at? other := by
  apply FileNode.at?_modifyAt_of_apart _ _ outside beside
  intro nodes key apart
  simp [apart]

/-- The shape of what stands at a place, if anything does. -/
def shapeAt? (tree : FileTree) (place : Place) : Option Shape :=
  (tree.at? place).map FileNode.shape

theorem shapeAt?_eq_directory
    {place : Place} :
    tree.shapeAt? place = some .directory ↔
      ∃ mode entries, tree.at? place = some (.directory mode entries) := by
  unfold shapeAt?
  cases tree.at? place with
  | none => simp
  | some node => cases node <;> simp [FileNode.shape]

/-- A change at a place that is no directory changes nothing. -/
theorem modifyAt_of_not_directory
    (elsewhere : tree.shapeAt? place ≠ some .directory)
    (change : FileNodes -> FileNodes) :
    tree.modifyAt place change = tree := by
  cases tree with
  | mk root => exact congrArg FileTree.mk (FileNode.modifyAt_of_not_directory elsewhere change)

/-- Putting an entry into what is no directory changes nothing. -/
theorem put_of_not_directory
    (elsewhere : tree.shapeAt? place ≠ some .directory) :
    tree.put place name node = tree :=
  modifyAt_of_not_directory elsewhere _

/-- A step to a name goes by the shape of what the name stands for. -/
theorem follow_into
    (tree : FileTree)
    (confined : Option Place)
    (links : Nat)
    (place : Place)
    (name : String)
    (steps : List PathStep) :
    tree.follow confined links place (.into name :: steps) =
      if name.utf8ByteSize > maxNameSize then .error .nameTooLong
      else
        match tree.shapeAt? (place ++ [name]), links with
        | none, _ => if steps.isEmpty then .ok (place ++ [name]) else .error .notFound
        | some .file, _ => if steps.isEmpty then .ok (place ++ [name]) else .error .notDirectory
        | some .directory, links => tree.follow confined links (place ++ [name]) steps
        | some (.link _), 0 => .error .linkLoop
        | some (.link target), links + 1 =>
            if !(Path.mk target).isAbsolute then
              tree.follow confined links place ((Path.mk target).steps ++ steps)
            else if confined.isSome then .error .outside
            else tree.follow confined links [] ((Path.mk target).steps ++ steps) := by
  rw [follow]
  unfold shapeAt?
  split
  · rfl
  · cases tree.at? (place ++ [name]) with
    | none => rfl
    | some node => cases node <;> cases links <;> rfl

/-- Under the name of a file there is the file, and nothing inside of it. -/
theorem shapeAt?_put_file
    {other : Place}
    (there : tree.shapeAt? place = some .directory)
    (inside : place ++ [name] <+: other)
    (mode : Nat)
    (bytes : ByteArray) :
    (tree.put place name (.file mode bytes)).shapeAt? other = some .file ∨
      (tree.put place name (.file mode bytes)).shapeAt? other = none := by
  obtain ⟨outer, entries, thereNode⟩ := shapeAt?_eq_directory.1 there
  obtain ⟨rest, rfl⟩ := inside
  have split : (tree.put place name (.file mode bytes)).at? (place ++ [name] ++ rest) =
      (FileNode.file mode bytes).at? rest := by
    have put := at?_put thereNode name (.file mode bytes)
    unfold at? at put ⊢
    rw [FileNode.at?_append, put, Option.bind_some]
  rw [shapeAt?, split]
  cases rest with
  | nil => exact .inl rfl
  | cons first rest => exact .inr rfl

/-- A tree has every directory and every link of another one in the same place. -/
def Covers (tree other : FileTree) : Prop :=
  ∀ place shape, shape ≠ .file -> other.shapeAt? place = some shape ->
    tree.shapeAt? place = some shape

/-- Putting a file somewhere makes no directory and no link. -/
theorem covers_put
    (tree : FileTree)
    (place : Place)
    (name : String)
    (mode : Nat)
    (bytes : ByteArray) :
    tree.Covers (tree.put place name (.file mode bytes)) := by
  intro other shape unlikeFile shown
  by_cases there : tree.shapeAt? place = some .directory
  · by_cases inside : place ++ [name] <+: other
    · rcases shapeAt?_put_file there inside mode bytes with file | nothing
      · rw [file] at shown
        cases shown
        exact absurd rfl unlikeFile
      · rw [nothing] at shown
        cases shown
    · rw [← shown]
      exact (map_shape_at?_put inside).symm
  · rwa [put_of_not_directory there] at shown

/-- Erasing a name makes no directory and no link. -/
theorem covers_erase (tree : FileTree) (place : Place) (name : String) :
    tree.Covers (tree.erase place name) := by
  intro other shape _ shown
  by_cases there : tree.shapeAt? place = some .directory
  · obtain ⟨mode, entries, thereNode⟩ := shapeAt?_eq_directory.1 there
    by_cases inside : place ++ [name] <+: other
    · obtain ⟨rest, rfl⟩ := inside
      rw [shapeAt?, at?_erase thereNode] at shown
      cases shown
    · rw [← shown]
      refine (FileNode.map_shape_at?_modifyAt ?_ _ inside).symm
      intro nodes key apart
      simp [apart]
  · rwa [erase, modifyAt_of_not_directory there] at shown

end FileTree
end ConfigWiring
