import ConfigWiring.Proofs.Generator.References
import ConfigWiring.Proofs.Host.Landing
import ConfigWiring.Proofs.Project.SourceListing

/-!
# Places of sources

A source of a project is told by the names that lead to it from the directory of the project.
Each name but the last is that of a directory, so a path of the same names leads to the same
place, and the names spell the directory in which the declarations of the source are declared.
-/

namespace ConfigWiring

open Text

/-! ## Names -/

/-- Whether an entry of a directory can have a name. -/
def isEntryName (name : String) : Bool :=
  !Path.isIdle name.toList && name.toList != ['.', '.'] && !name.toList.contains '/'

mutual

/-- Whether all entries below an entry have names, and different ones in one directory. -/
def FileNode.isNamed : FileNode -> Bool
  | .file _ _ => true
  | .link _ => true
  | .directory _ entries => entries.isNamed

/-- Whether all entries of a directory and those below them have names, and different ones in
one directory. -/
def FileNodes.isNamed : FileNodes -> Bool
  | .nil => true
  | .cons name node rest =>
      isEntryName name && (rest.get? name).isNone && node.isNamed && rest.isNamed

end

namespace Project

variable {names others : Place}

theorem toList_sourcePath (names : Place) :
    (sourcePath names).text.toList = joinAll '/' (names.map String.toList) :=
  String.toList_intercalate

/-- The names can be read off the path that they spell. -/
theorem splitAll_sourcePath
    (named : ∀ name ∈ names, isEntryName name = true)
    (nonempty : names ≠ []) :
    splitAll '/' (sourcePath names).text.toList = names.map String.toList := by
  rw [toList_sourcePath]
  refine Path.splitAll_joinAll (by simpa using nonempty) fun piece present => ?_
  obtain ⟨name, member, rfl⟩ := List.mem_map.1 present
  have entry := named name member
  simp only [isEntryName, Bool.and_eq_true, Bool.not_eq_true', List.contains_eq_mem,
    decide_eq_false_iff_not] at entry
  exact entry.2

theorem isBelow_sourcePath
    (named : ∀ name ∈ names, isEntryName name = true) :
    (sourcePath names).isBelow = true := by
  by_cases none : names = []
  · subst none
    rfl
  rw [Path.isBelow, splitAll_sourcePath named none, Bool.or_eq_true, List.all_eq_true]
  refine .inr fun piece present => ?_
  obtain ⟨name, member, rfl⟩ := List.mem_map.1 present
  have entry := named name member
  simp only [isEntryName, Bool.and_eq_true] at entry
  exact entry.1.1

theorem components_sourcePath
    (named : ∀ name ∈ names, isEntryName name = true) :
    (sourcePath names).components = names.map .name := by
  rw [Path.components_of_isBelow (isBelow_sourcePath named)]
  by_cases none : names = []
  · subst none
    rfl
  have busy : Path.busyPieces (names.map String.toList) = names.map String.toList := by
    refine List.filter_eq_self.2 fun piece present => ?_
    obtain ⟨name, member, rfl⟩ := List.mem_map.1 present
    have entry := named name member
    simp only [isEntryName, Bool.and_eq_true] at entry
    exact entry.1.1
  rw [splitAll_sourcePath named none, busy, List.map_map]
  refine List.map_congr_left fun name member => ?_
  have entry := named name member
  simp only [isEntryName, Bool.and_eq_true, bne_iff_ne] at entry
  simp [Path.componentOf, entry.1.2]

theorem sourcePath_inj
    (named : ∀ name ∈ names, isEntryName name = true)
    (othersNamed : ∀ name ∈ others, isEntryName name = true)
    (same : sourcePath names = sourcePath others) :
    names = others := by
  have components := congrArg Path.components same
  rw [components_sourcePath named, components_sourcePath othersNamed] at components
  exact (List.map_inj_right fun _ _ => Path.Component.name.inj).1 components

/-- The directory of a source is spelt by the names in front of the last one. -/
theorem parent?_sourcePath
    {last : String}
    (named : ∀ name ∈ names ++ [last], isEntryName name = true) :
    (sourcePath (names ++ [last])).parent? = some (sourcePath names) := by
  have bare : Path.leadingText (sourcePath (names ++ [last])).text.toList = [] := by
    rw [Path.leadingText, Path.leading?_of_isBelow (isBelow_sourcePath named)]
  have split : Path.pieces (sourcePath (names ++ [last])).text.toList =
      names.map String.toList ++ last.toList :: [] := by
    rw [Path.pieces, bare, List.length_nil, List.drop_zero, splitAll_sourcePath named (by simp)]
    simp
  have busy {name : String} (present : name ∈ names ++ [last]) :
      Path.isIdle name.toList = false := by
    have entry := named name present
    simp only [isEntryName, Bool.and_eq_true, Bool.not_eq_true'] at entry
    exact entry.1.1
  have kept : (names.map String.toList).reverse.dropWhile Path.isIdle =
      (names.map String.toList).reverse := by
    cases reversed : (names.map String.toList).reverse with
    | nil => rfl
    | cons first rest =>
        have member : first ∈ (names.map String.toList).reverse := by simp [reversed]
        obtain ⟨name, present, rfl⟩ := List.mem_map.1 (List.mem_reverse.1 member)
        rw [List.dropWhile_cons_of_neg (by simp [busy (List.mem_append_left _ present)])]
  rw [Path.parent?_of_pieces split (by simp) (busy (by simp)), bare, kept, List.reverse_reverse,
    List.nil_append, ← toList_sourcePath, String.ofList_toList]

end Project

/-! ## Listed sources -/

namespace FileNodes

theorem exists_of_mem_sources
    {entries : FileNodes}
    {source : Place × ByteArray}
    (named : entries.isNamed = true)
    (present : source ∈ entries.sources) :
    ∃ name node, entries.get? name = some node ∧ isEntryName name = true ∧
      node.isNamed = true ∧ source ∈ node.sources name := by
  match entries with
  | .nil => exact absurd present (not_mem_sources_nil source)
  | .cons first node rest =>
      simp only [isNamed, Bool.and_eq_true, Option.isNone_iff_eq_none] at named
      obtain ⟨⟨⟨entry, fresh⟩, nodeNamed⟩, restNamed⟩ := named
      rcases mem_sources_cons.1 present with here | further
      · exact ⟨first, node, if_pos rfl, entry, nodeNamed, here⟩
      · obtain ⟨name, node', found, told⟩ := exists_of_mem_sources restNamed further
        have other : first ≠ name := by
          rintro rfl
          rw [fresh] at found
          cases found
        exact ⟨name, node', (if_neg other).trans found, told⟩

/-- The names of a source lead through directories to the source. -/
theorem place_of_mem_sources
    {entries : FileNodes}
    {names : Place}
    {bytes : ByteArray}
    (named : entries.isNamed = true)
    (present : (names, bytes) ∈ entries.sources) :
    (∀ name ∈ names, isEntryName name = true) ∧
      ∃ dirs last, names = dirs ++ [last] ∧ ∀ mode,
        ((FileNode.directory mode entries).at? dirs).map FileNode.shape = some .directory := by
  induction names generalizing entries with
  | nil =>
      obtain ⟨name, node, _, _, _, listed⟩ := exists_of_mem_sources named present
      cases node with
      | file mode bytes' =>
          rw [FileNode.sources] at listed
          split at listed <;> simp at listed
      | link target => simp [FileNode.sources] at listed
      | directory mode inner =>
          rw [FileNode.sources] at listed
          split at listed <;> simp at listed
  | cons first rest inductionHypothesis =>
      obtain ⟨name, node, found, entry, nodeNamed, listed⟩ := exists_of_mem_sources named present
      cases node with
      | file mode bytes' =>
          rw [FileNode.sources] at listed
          split at listed
          · obtain ⟨rfl, rfl⟩ : first = name ∧ rest = [] := by
              have same := congrArg Prod.fst (List.mem_singleton.1 listed)
              simpa using same
            exact ⟨by simpa using entry, [], first, rfl, fun _ => rfl⟩
          · cases listed
      | link target => simp [FileNode.sources] at listed
      | directory mode inner =>
          rw [FileNode.sources] at listed
          split at listed
          · cases listed
          · obtain ⟨source, below, same⟩ := List.mem_map.1 listed
            obtain ⟨⟨rfl, rfl⟩, rfl⟩ : (name = first ∧ source.1 = rest) ∧ source.2 = bytes := by
              simpa using same
            obtain ⟨restNamed, dirs, last, split, directory⟩ := inductionHypothesis nodeNamed below
            refine ⟨List.forall_mem_cons.2 ⟨entry, restNamed⟩, name :: dirs, last,
              by rw [split, List.cons_append], fun outer => ?_⟩
            rw [FileNode.at?, FileNode.entries, found]
            exact directory mode

theorem isNamed_of_get?
    {entries : FileNodes}
    {name : String}
    {node : FileNode}
    (named : entries.isNamed = true)
    (found : entries.get? name = some node) :
    isEntryName name = true ∧ node.isNamed = true := by
  induction entries using FileNodes.get?.induct name with
  | case1 => cases found
  | case2 first rest =>
      simp only [isNamed, Bool.and_eq_true] at named
      rw [get?, if_pos rfl] at found
      cases found
      exact ⟨named.1.1.1, named.1.2⟩
  | case3 first _ rest other inductionHypothesis =>
      simp only [isNamed, Bool.and_eq_true] at named
      rw [get?, if_neg other] at found
      exact inductionHypothesis named.2 found

/-- What stands in a directory of names has a name, and so has all that is on the way to it. -/
theorem isEntryName_of_at?
    {entries : FileNodes}
    {names : Place}
    {mode : Nat}
    {node : FileNode}
    (named : entries.isNamed = true)
    (there : (FileNode.directory mode entries).at? names = some node) :
    ∀ name ∈ names, isEntryName name = true := by
  induction names generalizing entries mode with
  | nil => exact List.forall_mem_nil _
  | cons name names inductionHypothesis =>
      rw [FileNode.at?, FileNode.entries] at there
      cases found : entries.get? name with
      | none => simp [found] at there
      | some inner =>
          rw [found, Option.bind_some] at there
          obtain ⟨entry, innerNamed⟩ := isNamed_of_get? named found
          refine List.forall_mem_cons.2 ⟨entry, ?_⟩
          cases inner with
          | directory innerMode innerEntries => exact inductionHypothesis innerNamed there
          | file | link =>
              cases names with
              | nil => exact List.forall_mem_nil _
              | cons next rest => cases there

end FileNodes

/-! ## Paths of names -/

namespace Path

variable {base path other : Path} {names : Place}

/-- A path has the given names as its components, and no others. -/
def Spells (path : Path) (names : Place) : Prop := path.components = names.map .name

instance (path : Path) (names : Place) : Decidable (path.Spells names) :=
  inferInstanceAs (Decidable (path.components = names.map .name))

theorem ofPiece_of_componentOf
    {piece : List Char}
    {name : String}
    (busy : isIdle piece = false)
    (named : componentOf piece = .name name) :
    PathStep.ofPiece piece = .into name := by
  unfold componentOf at named
  split at named
  · cases named
  · next notDots =>
      cases named
      have notDot : piece ≠ ['.'] := by
        rintro rfl
        cases busy
      rw [PathStep.ofPiece, if_neg notDot, if_neg notDots]

theorem map_ofPiece_of_map_componentOf
    {pieces : List (List Char)}
    (busy : ∀ piece ∈ pieces, isIdle piece = false)
    (named : pieces.map componentOf = names.map .name) :
    pieces.map PathStep.ofPiece = names.map .into := by
  induction pieces generalizing names with
  | nil =>
      rw [List.map_eq_nil_iff.1 named.symm]
      rfl
  | cons piece rest inductionHypothesis =>
      cases names with
      | nil => cases named
      | cons name others =>
          obtain ⟨here, further⟩ := List.cons.inj named
          rw [List.forall_mem_cons] at busy
          rw [List.map_cons, List.map_cons, ofPiece_of_componentOf busy.1 here,
            inductionHypothesis busy.2 further]

theorem moves_steps (path : Path) :
    PathStep.moves path.steps = (busyPieces (splitAll '/' path.text.toList)).map PathStep.ofPiece := by
  rw [← moves_nameSteps, steps, PathStep.moves_append]
  split <;> simp [PathStep.moves]

/-- A path of names goes from name to name. -/
theorem moves_steps_of_spells
    (spells : path.Spells names) :
    PathStep.moves path.steps = names.map .into ∧ path.isAbsolute = false := by
  have listed : ((leading? path.text.toList).map Prod.fst).toList ++
      (busyPieces (pieces path.text.toList)).map componentOf = names.map .name := spells
  have bare : leading? path.text.toList = none := by
    cases leads : leading? path.text.toList with
    | none => rfl
    | some leading =>
        rw [leads] at listed
        cases names with
        | nil => cases listed
        | cons name rest =>
            have first : leading.1 = .name name := (List.cons.inj listed).1
            unfold leading? at leads
            split at leads <;> cases leads <;> cases first
  rw [bare, busyPieces_pieces] at listed
  constructor
  · rw [moves_steps]
    exact map_ofPiece_of_map_componentOf
      (fun piece present => by simpa using (List.mem_filter.1 present).2) listed
  · refine Bool.eq_false_iff.2 fun absolute => ?_
    obtain ⟨rest, spelt⟩ := List.head?_eq_some_iff.1 (by simpa [isAbsolute] using absolute)
    rw [spelt] at bare
    cases bare

theorem splitAll_append_slash (front back : List Char) :
    splitAll '/' (front ++ '/' :: back) = splitAll '/' front ++ splitAll '/' back := by
  induction front with
  | nil => simp [splitAll]
  | cons char rest inductionHypothesis =>
      rw [List.cons_append, splitAll, splitAll, inductionHypothesis]
      split
      · rfl
      · cases cut : splitAll '/' rest with
        | nil => exact absurd cut (splitAll_ne_nil '/' rest)
        | cons piece pieces => rfl

/-- A relative path behind another one goes on from there. -/
theorem moves_steps_join
    (nonempty : base.text.isEmpty = false)
    (relative : other.isAbsolute = false) :
    PathStep.moves (base.join other).steps =
        PathStep.moves base.steps ++ PathStep.moves other.steps ∧
      (base.join other).isAbsolute = base.isAbsolute := by
  have starts : base.text.toList ≠ [] := by simpa using nonempty
  rw [moves_steps, moves_steps, moves_steps, join, relative, nonempty]
  simp only [Bool.false_eq_true, if_false, Bool.false_or]
  have head (rest : List Char) :
      (base.text.toList ++ rest).head? = base.text.toList.head? := by
    cases spelt : base.text.toList with
    | nil => exact absurd spelt starts
    | cons => rfl
  split
  · next ends =>
      obtain ⟨front, spelt⟩ := List.getLast?_eq_some_iff.1 (by simpa using ends)
      have closed : busyPieces (splitAll '/' base.text.toList) = busyPieces (splitAll '/' front) := by
        rw [spelt, splitAll_append_slash, busyPieces_append]
        exact List.append_nil _
      refine ⟨?_, by rw [isAbsolute, isAbsolute, String.toList_append, head]⟩
      rw [closed, String.toList_append, spelt, List.append_assoc, List.singleton_append,
        splitAll_append_slash, busyPieces_append, List.map_append]
  · refine ⟨?_, by rw [isAbsolute, isAbsolute, String.toList_append, String.toList_append,
      List.append_assoc, head]⟩
    have slash : "/".toList = ['/'] := rfl
    rw [String.toList_append, String.toList_append, slash, List.append_assoc,
      List.singleton_append, splitAll_append_slash, busyPieces_append, List.map_append]

end Path

namespace FileTree

variable {tree : FileTree} {base place found : Place} {names : Place}

/-- Names of directories lead through these directories. -/
theorem follow_names
    {confined : Option Place}
    {links : Nat}
    (directory : tree.shapeAt? (place ++ names) = some .directory)
    (followed : tree.follow confined links place (names.map .into ++ [.stay]) = .ok found) :
    found = place ++ names := by
  induction names generalizing place with
  | nil =>
      simp only [List.map_nil, List.nil_append, FileTree.follow] at followed
      cases followed
      rw [List.append_nil]
  | cons name names inductionHypothesis =>
      have first : tree.shapeAt? (place ++ [name]) = some .directory :=
        shapeAt?_eq_directory_of_above ⟨names, by simp⟩ directory
      rw [List.map_cons, List.cons_append, follow_into] at followed
      split at followed
      · cases followed
      · simp only [first] at followed
        rw [inductionHypothesis (by simpa using directory) followed, List.append_assoc,
          List.singleton_append]

theorem follow_of_directory
    (confined : Option Place)
    (links : Nat)
    (short : ∀ name ∈ names, name.utf8ByteSize ≤ maxNameSize)
    (directory : tree.shapeAt? (place ++ names) = some .directory) :
    tree.follow confined links place (names.map .into ++ [.stay]) = .ok (place ++ names) := by
  induction names generalizing place with
  | nil => simp [FileTree.follow]
  | cons name names inductionHypothesis =>
      have first : tree.shapeAt? (place ++ [name]) = some .directory :=
        shapeAt?_eq_directory_of_above ⟨names, by simp⟩ directory
      rw [List.forall_mem_cons] at short
      have further : tree.shapeAt? (place ++ [name] ++ names) = some .directory := by
        simpa using directory
      rw [List.map_cons, List.cons_append, follow_into, if_neg (Nat.not_lt.2 short.1), first]
      simpa using inductionHypothesis short.2 further

/-- A relative path whose moves are names of directories leads through these directories. -/
theorem openDirectory_of_moves
    {path : Path}
    (moves : PathStep.moves path.steps = names.map .into)
    (relative : path.isAbsolute = false)
    (allowed : path.text.isEmpty = false ∧ path.text.toList.contains '\x00' = false ∧
      path.text.utf8ByteSize ≤ maxPathSize)
    (short : ∀ name ∈ names, name.utf8ByteSize ≤ maxNameSize)
    (directory : tree.shapeAt? (base ++ names) = some .directory) :
    tree.openDirectory base path = .ok (base ++ names) := by
  have followed := follow_of_directory none maxLinks short directory
  rw [← moves, ← follow_moves] at followed
  obtain ⟨nonempty, unended, pathShort⟩ := allowed
  have located : tree.locate base path = .ok (base ++ names) := by
    rw [locate_eq_follow nonempty unended pathShort, relative, if_neg (by simp),
      follow_of_follow_stay followed]
  obtain ⟨_, _, there⟩ := shapeAt?_eq_directory.1 directory
  rw [openDirectory, resolve, located]
  simp only [there]

/-- A path of names behind a path to a directory leads to the place of these names. -/
theorem place_of_spells
    {root path : Path}
    (opened : tree.openDirectory base root = .ok place)
    (spells : path.Spells names)
    (directory : tree.shapeAt? (place ++ names) = some .directory)
    (leads : tree.openDirectory base (root.join path) = .ok found) :
    found = place ++ names := by
  have itself : tree.Covers tree := fun _ _ _ shown => shown
  have nonempty : root.text.isEmpty = false := by
    refine Bool.eq_false_iff.2 fun obstacle => ?_
    rw [openDirectory, resolve, locate, locateSteps, if_pos obstacle] at opened
    cases opened
  obtain ⟨moves, relative⟩ := Path.moves_steps_of_spells spells
  obtain ⟨joined, absolute⟩ := Path.moves_steps_join nonempty relative
  obtain ⟨followed, here⟩ := openDirectory_eq_ok opened
  obtain ⟨reached, there⟩ := openDirectory_eq_ok leads
  have toRoot := itself.follow followed here
  have toFound := itself.follow reached there
  obtain ⟨left, further⟩ := follow_append toRoot
  -- The steps behind those to the root move as the names say.
  have onward := further (path.steps ++ [.stay])
  rw [absolute, follow_moves, joined, moves] at toFound
  rw [← List.append_assoc, follow_moves, PathStep.moves_append, follow_moves _ _ left, moves,
    toFound] at onward
  exact follow_names directory onward.symm

end FileTree
end ConfigWiring
