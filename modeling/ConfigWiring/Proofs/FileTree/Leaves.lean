import ConfigWiring.Proofs.FileTree.Growth

/-!
# Files and links that stay

A leaf of a tree is a file or a link.  To put a file under a name or to erase one changes the leaf
of that one place, and to make directories changes no leaf at all, so that an operation that does
both spares everything that stood elsewhere.
-/

namespace ConfigWiring

/-- An entry, unless it is a directory. -/
def FileNode.leaf? : FileNode -> Option FileNode
  | .directory _ _ => none
  | node => some node

/-- The bytes of an entry, if it is a file. -/
def FileNode.bytes? : FileNode -> Option ByteArray
  | .file _ bytes => some bytes
  | _ => none

namespace FileTree

variable {tree middle other : FileTree} {place spot : Place} {spot? : Option Place} {name : String}
  {node : FileNode}

/-- The file or link at a place. -/
def leafAt? (tree : FileTree) (place : Place) : Option FileNode :=
  (tree.at? place).bind FileNode.leaf?

/-- There is no leaf where there is nothing or a directory. -/
theorem leafAt?_eq_none_iff :
    tree.leafAt? place = none ↔
      tree.shapeAt? place = none ∨ tree.shapeAt? place = some .directory := by
  unfold leafAt? shapeAt?
  cases tree.at? place with
  | none => simp
  | some node => cases node <;> simp [FileNode.leaf?, FileNode.shape]

/-- A link is a leaf. -/
theorem leafAt?_eq_link_iff
    {target : String} :
    tree.leafAt? place = some (.link target) ↔ tree.shapeAt? place = some (.link target) := by
  unfold leafAt? shapeAt?
  cases tree.at? place with
  | none => simp
  | some node => cases node <;> simp [FileNode.leaf?, FileNode.shape]

/-- A file is a leaf. -/
theorem leafAt?_eq_file_iff
    {mode : Nat}
    {bytes : ByteArray} :
    tree.leafAt? place = some (.file mode bytes) ↔ tree.at? place = some (.file mode bytes) := by
  unfold leafAt?
  cases tree.at? place with
  | none => simp
  | some node => cases node <;> simp [FileNode.leaf?]

theorem shapeAt?_eq_file_iff :
    tree.shapeAt? place = some .file ↔
      ∃ mode bytes, tree.leafAt? place = some (.file mode bytes) := by
  simp only [leafAt?_eq_file_iff]
  unfold shapeAt?
  cases tree.at? place with
  | none => simp
  | some node => cases node <;> simp [FileNode.shape]

/-- Where two trees have the same leaf, both show its shape. -/
theorem shape_eq_of_leafAt?_eq
    {shape shape' : Shape}
    (same : other.leafAt? place = tree.leafAt? place)
    (shown : tree.shapeAt? place = some shape)
    (shown' : other.shapeAt? place = some shape') :
    shape' = shape := by
  unfold leafAt? at same
  unfold shapeAt? at shown shown'
  cases here : tree.at? place with
  | none => simp [here] at shown
  | some node =>
      cases there : other.at? place with
      | none => simp [there] at shown'
      | some node' =>
          rw [here] at same shown
          rw [there] at same shown'
          cases shown
          cases shown'
          cases node <;> cases node' <;> simp_all [FileNode.leaf?, FileNode.shape]

/-- The bytes of the file at a place. -/
def bytesAt? (tree : FileTree) (place : Place) : Option ByteArray :=
  (tree.at? place).bind FileNode.bytes?

theorem bytesAt?_of_file
    {mode : Nat}
    {bytes : ByteArray}
    (file : tree.at? place = some (.file mode bytes)) :
    tree.bytesAt? place = some bytes := by
  rw [bytesAt?, file]
  rfl

/-- Where two trees have the same leaf, they have the same bytes. -/
theorem bytesAt?_eq_of_leafAt?_eq
    (same : other.leafAt? place = tree.leafAt? place) :
    other.bytesAt? place = tree.bytesAt? place := by
  have read (tree : FileTree) :
      tree.bytesAt? place = (tree.leafAt? place).bind FileNode.bytes? := by
    unfold bytesAt? leafAt?
    cases tree.at? place with
    | none => rfl
    | some node => cases node <;> rfl
  rw [read, read, same]

/-- On the way to a directory there are directories. -/
theorem shapeAt?_eq_directory_of_above
    (above : spot <+: place)
    (there : tree.shapeAt? place = some .directory) :
    tree.shapeAt? spot = some .directory := by
  obtain ⟨rest, rfl⟩ := above
  by_cases last : rest = []
  · rwa [last, List.append_nil] at there
  · refine Classical.byContradiction fun free => ?_
    rw [shapeAt?_append_of_free free last] at there
    cases there

section Change

variable {change : FileNodes -> FileNodes}

/-- A change under one name of a directory has no effect on the leaves outside of that name. -/
theorem leafAt?_modifyAt_of_outside
    (elsewhere : ∀ nodes other, other ≠ name -> (change nodes).get? other = nodes.get? other)
    (outside : ¬place ++ [name] <+: spot) :
    (tree.modifyAt place change).leafAt? spot = tree.leafAt? spot := by
  by_cases there : tree.shapeAt? place = some .directory
  · by_cases above : spot <+: place
    · have directory := shapeAt?_eq_directory_of_above above there
      have same : (tree.modifyAt place change).shapeAt? spot = tree.shapeAt? spot :=
        FileNode.map_shape_at?_modifyAt elsewhere _ outside
      rw [leafAt?_eq_none_iff.2 (.inr directory),
        leafAt?_eq_none_iff.2 (.inr (same.trans directory))]
    · have same : (tree.modifyAt place change).at? spot = tree.at? spot :=
        FileNode.at?_modifyAt_of_apart elsewhere _ outside above
      rw [leafAt?, leafAt?, same]
  · rw [modifyAt_of_not_directory there]

/-- Below a name under which there was no directory there is no leaf, neither before nor behind a
change that leaves the name to an entry without entries of its own, or to none. -/
theorem leafAt?_modifyAt_of_below
    {rest : Place}
    (free : tree.shapeAt? (place ++ [name]) ≠ some .directory)
    (bare : ∀ nodes node, (change nodes).get? name = some node -> node.entries = .nil)
    (below : rest ≠ []) :
    (tree.modifyAt place change).leafAt? (place ++ [name] ++ rest) =
      tree.leafAt? (place ++ [name] ++ rest) := by
  by_cases there : tree.shapeAt? place = some .directory
  · obtain ⟨mode, entries, thereNode⟩ := shapeAt?_eq_directory.1 there
    obtain ⟨first, others, rfl⟩ := List.exists_cons_of_ne_nil below
    have nothing :
        (tree.modifyAt place change).at? (place ++ [name] ++ first :: others) = none := by
      rw [at?_modifyAt thereNode]
      cases found : (change entries).get? name with
      | none => rfl
      | some node => simp [FileNode.at?, bare _ _ found]
    rw [leafAt?, nothing, leafAt?_eq_none_iff.2 (.inl (shapeAt?_append_of_free free below))]
    rfl
  · rw [modifyAt_of_not_directory there]

end Change

/-! ## Changes by new files -/

/-- A tree has the leaves of another one, except where it has files. -/
def ChangedByFiles (tree other : FileTree) : Prop :=
  ∀ place, other.shapeAt? place ≠ some .file -> other.leafAt? place = tree.leafAt? place

namespace ChangedByFiles

theorem refl (tree : FileTree) : tree.ChangedByFiles tree := fun _ _ => rfl

/-- A file stays a file, of whatever bytes. -/
theorem file
    (changed : tree.ChangedByFiles other)
    (there : tree.shapeAt? spot = some .file) :
    other.shapeAt? spot = some .file := by
  refine Classical.byContradiction fun unfiled => unfiled ?_
  rw [shapeAt?_eq_file_iff, changed spot unfiled, ← shapeAt?_eq_file_iff]
  exact there

theorem trans
    (first : tree.ChangedByFiles middle)
    (second : middle.ChangedByFiles other) :
    tree.ChangedByFiles other := by
  intro place unfiled
  rw [second place unfiled]
  exact first place fun file => unfiled (second.file file)

/-- New files make no other link and no directory in the place of one. -/
theorem akin (changed : tree.ChangedByFiles other) : tree.Akin other := by
  intro place shape shape' _ unlikeFile shown shown'
  refine shape_eq_of_leafAt?_eq (changed place fun file => ?_) shown shown'
  exact unlikeFile (Option.some.inj (shown'.symm.trans file))

end ChangedByFiles

/-! ## Changes at one place -/

/-- A tree that has the leaves of another one, except at one place, and its directories.  What is
new elsewhere are directories. -/
structure ChangedOnlyAt (spot? : Option Place) (tree other : FileTree) : Prop where
  /-- A leaf stays, and none is new. -/
  leaf : ∀ place, spot? ≠ some place -> other.leafAt? place = tree.leafAt? place
  /-- A directory stays. -/
  directory : ∀ place, spot? ≠ some place -> tree.shapeAt? place = some .directory ->
    other.shapeAt? place = some .directory

namespace ChangedOnlyAt

theorem refl (spot? : Option Place) (tree : FileTree) : ChangedOnlyAt spot? tree tree :=
  ⟨fun _ _ => rfl, fun _ _ directory => directory⟩

theorem trans
    (first : ChangedOnlyAt spot? tree middle)
    (second : ChangedOnlyAt spot? middle other) :
    ChangedOnlyAt spot? tree other :=
  ⟨fun place apart => (second.leaf place apart).trans (first.leaf place apart),
    fun place apart directory =>
      second.directory place apart (first.directory place apart directory)⟩

/-- What changes no leaf changes none but one. -/
theorem weaken
    (same : ChangedOnlyAt none tree other)
    (spot? : Option Place) :
    ChangedOnlyAt spot? tree other :=
  ⟨fun place _ => same.leaf place (by simp), fun place _ => same.directory place (by simp)⟩

/-- Under one name of a directory anything but a directory may be changed, unless that leaves an
entry with entries of its own. -/
theorem modifyAt
    {change : FileNodes -> FileNodes}
    (elsewhere : ∀ nodes other, other ≠ name -> (change nodes).get? other = nodes.get? other)
    (bare : ∀ nodes node, (change nodes).get? name = some node -> node.entries = .nil)
    (free : tree.shapeAt? (place ++ [name]) ≠ some .directory) :
    ChangedOnlyAt (some (place ++ [name])) tree (tree.modifyAt place change) := by
  constructor
  · intro spot apart
    by_cases inside : place ++ [name] <+: spot
    · obtain ⟨rest, rfl⟩ := inside
      refine leafAt?_modifyAt_of_below free bare ?_
      rintro rfl
      simp at apart
    · exact leafAt?_modifyAt_of_outside elsewhere inside
  · intro spot _ directory
    have outside : ¬place ++ [name] <+: spot := fun inside =>
      free (shapeAt?_eq_directory_of_above inside directory)
    exact (FileNode.map_shape_at?_modifyAt elsewhere _ outside).trans directory

/-- A file may be put anywhere but in place of a directory. -/
theorem put
    (free : tree.shapeAt? (place ++ [name]) ≠ some .directory)
    (bare : node.entries = .nil) :
    ChangedOnlyAt (some (place ++ [name])) tree (tree.put place name node) := by
  refine modifyAt (fun nodes other apart => by simp [apart]) (fun nodes other found => ?_) free
  obtain rfl : node = other := by simpa using found
  exact bare

/-- Anything but a directory may be erased. -/
theorem erase
    (free : tree.shapeAt? (place ++ [name]) ≠ some .directory) :
    ChangedOnlyAt (some (place ++ [name])) tree (tree.erase place name) :=
  modifyAt (fun nodes other apart => by simp [apart]) (fun nodes other found => by simp at found)
    free

/-- A new directory is no change of a leaf. -/
theorem put_directory
    (absent : tree.at? (place ++ [name]) = none)
    (mode : Nat) :
    ChangedOnlyAt none tree (tree.put place name (.directory mode .nil)) := by
  have nothing : tree.shapeAt? (place ++ [name]) = none := by rw [shapeAt?, absent]; rfl
  have elsewhere : ChangedOnlyAt (some (place ++ [name])) tree
      (tree.put place name (.directory mode .nil)) := put (by simp [nothing]) rfl
  refine ⟨fun spot _ => ?_, fun spot _ directory => ?_⟩
  · by_cases here : place ++ [name] = spot
    · subst here
      rw [leafAt?_eq_none_iff.2 (.inl nothing), leafAt?_eq_none_iff]
      by_cases there : tree.shapeAt? place = some .directory
      · obtain ⟨_, _, thereNode⟩ := shapeAt?_eq_directory.1 there
        right
        rw [shapeAt?, at?_put thereNode]
        rfl
      · left
        rw [put_of_not_directory there, nothing]
    · exact elsewhere.leaf spot (by simpa using here)
  · refine elsewhere.directory spot ?_ directory
    rintro here
    cases here
    rw [nothing] at directory
    cases directory

/-- To make sure of a directory changes no leaf. -/
theorem ensureDirectory
    (tree : FileTree)
    (umask : Nat)
    (base : Place)
    (path : Path) :
    ChangedOnlyAt none tree (tree.ensureDirectory umask base path).1 := by
  refine ensureDirectory_induction ?_ (refl none tree)
  intro middle place name mode changed absent
  exact changed.trans (put_directory absent mode)

/-- What stands somewhere else than a file that was put is as before. -/
theorem changedByFiles
    (changed : ChangedOnlyAt (some spot) tree other)
    (file : other.shapeAt? spot = some .file) :
    tree.ChangedByFiles other := by
  intro place unfiled
  refine changed.leaf place ?_
  rintro here
  cases here
  exact unfiled file

/-- A tree with a new file is akin to another one without any, whatever directories are made. -/
theorem akin
    (left : ChangedOnlyAt none tree middle)
    (right : ChangedOnlyAt (some spot) tree other)
    (file : other.shapeAt? spot = some .file) :
    middle.Akin other := by
  refine ChangedByFiles.akin fun place unfiled => ?_
  rw [right.changedByFiles file place unfiled, left.leaf place (by simp)]

end ChangedOnlyAt

end FileTree
end ConfigWiring
