import ConfigWiring.Proofs.FileTree.Passage

/-!
# Trees that gain files and directories

A path that leads to a directory leads to the same place in every tree that only gained files,
which may take the place of links, and directories where nothing was.  Making the directories
of a path is such a change.
-/

namespace ConfigWiring
namespace FileTree

variable {tree middle other files : FileTree} {base place : Place} {name : String}

/-- Nothing stands below what is no directory. -/
theorem shapeAt?_append_of_free
    (free : tree.shapeAt? place ≠ some .directory)
    {rest : Place}
    (below : rest ≠ []) :
    tree.shapeAt? (place ++ rest) = none := by
  obtain ⟨first, others, rfl⟩ := List.exists_cons_of_ne_nil below
  unfold shapeAt? at? at free ⊢
  rw [FileNode.at?_append]
  cases found : tree.root.at? place with
  | none => rfl
  | some node =>
      rw [found] at free
      cases node with
      | file | link => rfl
      | directory => exact absurd rfl free

/-- Where two trees both have a link or a directory they have the same. -/
def Akin (tree other : FileTree) : Prop :=
  ∀ place shape shape', shape ≠ .file -> shape' ≠ .file -> tree.shapeAt? place = some shape ->
    other.shapeAt? place = some shape' -> shape' = shape

/-- Steps that lead to a directory in both of two such trees lead to the same one. -/
theorem Akin.follow_eq
    (akin : tree.Akin other)
    {confined : Option Place}
    {links : Nat}
    {start found found' : Place}
    {steps : List PathStep}
    (here : tree.follow confined links start steps = .ok found)
    (directory : tree.shapeAt? found = some .directory)
    (there : other.follow confined links start steps = .ok found')
    (directoryToo : other.shapeAt? found' = some .directory) :
    found' = found := by
  rw [follow_eq_ok_iff] at here there
  -- Both trees have a directory or a link wherever the steps come by, and so they have the same.
  induction here with
  | done =>
      cases there
      rfl
  | stay _ inductionHypothesis =>
      cases there with
      | stay rest => exact inductionHypothesis directory rest
  | up _ _ inductionHypothesis =>
      cases there with
      | up _ rest => exact inductionHypothesis directory rest
  | directory _ shape _ inductionHypothesis =>
      cases there with
      | directory _ _ rest => exact inductionHypothesis directory rest
      | link _ shapeToo => cases akin _ _ _ (by simp) (by simp) shape shapeToo
      | last _ free => simp [directoryToo] at free
  | link _ shape _ _ inductionHypothesis =>
      cases there with
      | directory _ shapeToo => cases akin _ _ _ (by simp) (by simp) shape shapeToo
      | link _ shapeToo _ rest =>
          cases akin _ _ _ (by simp) (by simp) shape shapeToo
          exact inductionHypothesis directory rest
      | last _ free => simp [directoryToo] at free
  | last _ free => simp [directory] at free

/-- A tree that comes from another one by new files, which may take the place of links, and by
new directories where nothing was. -/
structure Grown (tree other : FileTree) : Prop where
  /-- Nothing goes away. -/
  absent : ∀ place, other.shapeAt? place = none -> tree.shapeAt? place = none
  /-- A directory or a link was there before, or nothing was. -/
  shape : ∀ place shape, shape ≠ .file -> other.shapeAt? place = some shape ->
    tree.shapeAt? place = some shape ∨ tree.shapeAt? place = none

namespace Grown

theorem refl (tree : FileTree) : tree.Grown tree := ⟨fun _ absent => absent, fun _ _ _ => .inl⟩

theorem trans
    (first : tree.Grown middle)
    (second : middle.Grown other) :
    tree.Grown other := by
  refine ⟨fun place absent => first.absent place (second.absent place absent), ?_⟩
  intro place shape unlikeFile shown
  rcases second.shape place shape unlikeFile shown with before | nothing
  · exact first.shape place shape unlikeFile before
  · exact .inr (first.absent place nothing)

/-- A file may take the place of anything but a directory, and any entry that of nothing. -/
theorem put
    {node : FileNode}
    (free : tree.shapeAt? (place ++ [name]) ≠ some .directory)
    (new : node.shape = .file ∨ tree.shapeAt? (place ++ [name]) = none) :
    tree.Grown (tree.put place name node) := by
  by_cases there : tree.shapeAt? place = some .directory
  · obtain ⟨mode, entries, thereNode⟩ := shapeAt?_eq_directory.1 there
    have put := at?_put thereNode name node
    have outside {spot : Place} (apart : ¬place ++ [name] <+: spot) :
        (tree.put place name node).shapeAt? spot = tree.shapeAt? spot := map_shape_at?_put apart
    refine ⟨fun spot absent => ?_, fun spot shape unlikeFile shown => ?_⟩
    · by_cases inside : place ++ [name] <+: spot
      · obtain ⟨rest, rfl⟩ := inside
        by_cases last : rest = []
        · subst last
          rw [List.append_nil, shapeAt?, put] at absent
          cases absent
        · exact shapeAt?_append_of_free free last
      · rwa [outside inside] at absent
    · by_cases inside : place ++ [name] <+: spot
      · obtain ⟨rest, rfl⟩ := inside
        by_cases last : rest = []
        · subst last
          rw [List.append_nil, shapeAt?, put] at shown
          rw [List.append_nil]
          rcases new with file | nothing
          · cases shown
            exact absurd file unlikeFile
          · exact .inr nothing
        · exact .inr (shapeAt?_append_of_free free last)
      · rw [outside inside] at shown
        exact .inl shown
  · rw [put_of_not_directory there]
    exact refl tree

/-- Nothing becomes a link or a directory that was another one before. -/
theorem akin (grown : tree.Grown other) : tree.Akin other := by
  intro place shape shape' _ unlikeFile shown shown'
  rcases grown.shape place shape' unlikeFile shown' with same | nothing
  · exact Option.some.inj (same.symm.trans shown)
  · rw [nothing] at shown
    cases shown

end Grown

/-! ## Directories behind a new file -/

/-- A new file has no effect on what stands elsewhere. -/
theorem shapeAt?_put_of_shapeAt?
    {spot : Place}
    {shape : Shape}
    (free : tree.shapeAt? (place ++ [name]) ≠ some .directory)
    (shown : tree.shapeAt? spot = some shape)
    (mode : Nat)
    (bytes : ByteArray) :
    (tree.put place name (.file mode bytes)).shapeAt? spot = some shape ∨
      spot = place ++ [name] ∧
        (tree.put place name (.file mode bytes)).shapeAt? spot = some .file := by
  by_cases there : tree.shapeAt? place = some .directory
  · by_cases inside : place ++ [name] <+: spot
    · obtain ⟨rest, rfl⟩ := inside
      by_cases last : rest = []
      · subst last
        obtain ⟨outer, entries, thereNode⟩ := shapeAt?_eq_directory.1 there
        refine .inr ⟨List.append_nil _, ?_⟩
        rw [List.append_nil, shapeAt?, at?_put thereNode]
        rfl
      · rw [shapeAt?_append_of_free free last] at shown
        cases shown
    · exact .inl ((map_shape_at?_put inside).trans shown)
  · rw [put_of_not_directory there]
    exact .inl shown

/-- Steps that lead to a directory still lead there behind a new file, unless they led through the
name of the file. -/
theorem follow_put_file
    {confined : Option Place}
    {links : Nat}
    {start found : Place}
    {steps : List PathStep}
    (free : tree.shapeAt? (place ++ [name]) ≠ some .directory)
    (followed : tree.follow confined links start steps = .ok found)
    (directory : tree.shapeAt? found = some .directory)
    (mode : Nat)
    (bytes : ByteArray) :
    (tree.put place name (.file mode bytes)).follow confined links start steps = .ok found ∨
      (∃ left back, tree.follow confined left place (.into name :: back) = .ok found) ∧
        ((tree.put place name (.file mode bytes)).follow confined links start steps =
            .error .notDirectory ∨
          (tree.put place name (.file mode bytes)).shapeAt? (place ++ [name]) = some .file ∧
            (tree.put place name (.file mode bytes)).follow confined links start steps =
              .ok (place ++ [name])) := by
  rw [follow_eq_ok_iff] at followed
  induction followed with
  | done => exact .inl (by rw [FileTree.follow])
  | stay _ inductionHypothesis =>
      rw [FileTree.follow]
      exact inductionHypothesis directory
  | up within _ inductionHypothesis =>
      rw [FileTree.follow, if_neg within]
      exact inductionHypothesis directory
  | directory short shape _ inductionHypothesis =>
      rcases shapeAt?_put_of_shapeAt? free shape mode bytes with same | ⟨here, _⟩
      · rw [follow_directory short same]
        exact inductionHypothesis directory
      · rw [here] at shape
        exact absurd shape free
  | @link _ _ _ steps _ _ short shape allowed rest inductionHypothesis =>
      rcases shapeAt?_put_of_shapeAt? free shape mode bytes with same | ⟨here, file⟩
      · rw [follow_link short same allowed]
        exact inductionHypothesis directory
      · obtain ⟨rfl, same⟩ := List.append_inj' here rfl
        cases same
        refine .inr ⟨⟨_, _, (Leads.link short shape allowed rest).follow⟩, ?_⟩
        rw [follow_into, if_neg (Nat.not_lt.2 short), file]
        cases steps with
        | nil => exact .inr ⟨rfl, rfl⟩
        | cons => exact .inl rfl
  | last _ free => simp [directory] at free

/-! ## Files that stay -/

/-- Where a directory is behind the putting of a file, the name of the file does not lead there. -/
theorem not_prefix_of_put_file
    {root : Place}
    {mode : Nat}
    {bytes : ByteArray}
    (there : tree.shapeAt? place = some .directory)
    (here : (tree.put place name (.file mode bytes)).shapeAt? root = some .directory) :
    ¬place ++ [name] <+: root := by
  intro inside
  rcases shapeAt?_put_file there inside mode bytes with file | nothing
  · rw [file] at here
    cases here
  · rw [nothing] at here
    cases here

/-- A file stays what it is when an entry is put under another name, unless that name leads to
it. -/
theorem at?_put_of_file
    {spot : Place}
    {mode : Nat}
    {bytes : ByteArray}
    {node : FileNode}
    (file : tree.at? spot = some (.file mode bytes))
    (outside : ¬place ++ [name] <+: spot) :
    (tree.put place name node).at? spot = some (.file mode bytes) := by
  by_cases there : tree.shapeAt? place = some .directory
  · have beside : ¬spot <+: place := by
      rintro ⟨rest, rfl⟩
      have free : tree.shapeAt? spot ≠ some .directory := by
        rw [shapeAt?, file]
        simp [FileNode.shape]
      by_cases same : rest = []
      · rw [same, List.append_nil] at there
        exact free there
      · rw [shapeAt?_append_of_free free same] at there
        cases there
    rw [← file]
    exact at?_put_of_apart outside beside
  · rw [put_of_not_directory there, file]

/-- A tree in which a file takes the place of a file has all directories and links of the tree
before. -/
theorem covers_put_over_file
    {mode mode' : Nat}
    {old new : ByteArray}
    (file : tree.at? (place ++ [name]) = some (.file mode old)) :
    (tree.put place name (.file mode' new)).Covers tree := by
  have leaf : tree.shapeAt? (place ++ [name]) = some .file := by rw [shapeAt?, file]; rfl
  intro other shape unlikeFile shown
  by_cases there : tree.shapeAt? place = some .directory
  · have outside : ¬place ++ [name] <+: other := by
      rintro ⟨rest, rfl⟩
      by_cases last : rest = []
      · rw [last, List.append_nil, leaf] at shown
        exact unlikeFile (Option.some.inj shown).symm
      · rw [shapeAt?_append_of_free (by rw [leaf]; simp) last] at shown
        cases shown
    exact (map_shape_at?_put outside).trans shown
  · rwa [put_of_not_directory there]

/-- Nothing stands below a name that nothing or no directory stands under. -/
theorem not_prefix_of_free
    {spot : Place}
    {node : FileNode}
    (present : tree.at? spot = some node)
    (free : tree.shapeAt? place ≠ some .directory)
    (apart : place ≠ spot) :
    ¬place <+: spot := by
  rintro ⟨rest, rfl⟩
  have below : rest ≠ [] := by
    rintro rfl
    exact apart (by simp)
  have nothing := shapeAt?_append_of_free free below
  rw [shapeAt?, present] at nothing
  cases nothing

/-! ## Making directories -/

section Making

variable {umask : Nat} {path : Path} {motive : FileTree -> Prop}

/-- A directory is made where nothing stands. -/
theorem makeDirectory_eq_ok
    (made : tree.makeDirectory umask base path = .ok files) :
    ∃ place name, tree.at? (place ++ [name]) = none ∧
      files = tree.put place name (.directory (masked umask newDirectoryMode) .nil) := by
  unfold makeDirectory at made
  split at made
  · cases made
  · cases made
  · next place name _ =>
      split at made
      · cases made
      · next absent =>
          cases made
          exact ⟨place, name, absent, rfl⟩

/-- What every new directory keeps is kept by making all the directories of a path. -/
theorem makeAbove_induction
    (put : ∀ tree place name mode, motive tree -> tree.at? (place ++ [name]) = none ->
      motive (tree.put place name (.directory mode .nil)))
    (depth : Nat)
    (before : motive tree) :
    motive (makeAbove umask base depth tree path).1 := by
  have make {tree files : FileTree} {path : Path} (before : motive tree)
      (made : tree.makeDirectory umask base path = .ok files) : motive files := by
    obtain ⟨place, name, absent, rfl⟩ := makeDirectory_eq_ok made
    exact put tree place name _ before absent
  induction depth generalizing path with
  | zero => exact before
  | succ depth inductionHypothesis =>
      rw [makeAbove]
      split
      · exact before
      · split
        · next files made => exact make before made
        · split
          · split
            · exact before
            · next parent _ =>
                have above : motive (makeAbove umask base depth tree parent).1 :=
                  inductionHypothesis
                split
                · next failed => rwa [failed] at above
                · next done =>
                    rw [done] at above
                    split
                    · next files made =>
                        unfold makeMissing at made
                        split at made
                        · next directory =>
                            cases made
                            exact make above directory
                        · split at made <;> cases made
                          exact above
                    · exact above
          · split <;> exact before

/-- What every new directory keeps is kept by making sure of a directory. -/
theorem ensureDirectory_induction
    (put : ∀ tree place name mode, motive tree -> tree.at? (place ++ [name]) = none ->
      motive (tree.put place name (.directory mode .nil)))
    (before : motive tree) :
    motive (tree.ensureDirectory umask base path).1 := by
  have made : motive (makeAbove umask base (path.text.length + 1) tree path).1 :=
    makeAbove_induction put _ before
  unfold ensureDirectory makeDirectories
  split
  · exact before
  · split
    · next failed => rwa [failed] at made
    · next done =>
        rw [done] at made
        split <;> exact made
  · exact before

theorem grown_ensureDirectory
    (tree : FileTree)
    (umask : Nat)
    (base : Place)
    (path : Path) :
    tree.Grown (tree.ensureDirectory umask base path).1 := by
  refine ensureDirectory_induction ?_ (.refl tree)
  intro middle place name mode grown absent
  have nothing : middle.shapeAt? (place ++ [name]) = none := by rw [shapeAt?, absent]; rfl
  exact grown.trans (.put (by simp [nothing]) (.inr nothing))

/-- A file stays what it is when directories are made. -/
theorem at?_ensureDirectory_of_file
    {spot : Place}
    {mode : Nat}
    {bytes : ByteArray}
    (file : tree.at? spot = some (.file mode bytes))
    (umask : Nat)
    (base : Place)
    (path : Path) :
    (tree.ensureDirectory umask base path).1.at? spot = some (.file mode bytes) := by
  refine ensureDirectory_induction (motive := fun files => files.at? spot = some (.file mode bytes))
    ?_ file
  intro middle place name mode there absent
  refine at?_put_of_file there (not_prefix_of_free there ?_ ?_)
  · rw [shapeAt?, absent]
    simp
  · rintro rfl
    rw [absent] at there
    cases there

end Making

end FileTree
end ConfigWiring
