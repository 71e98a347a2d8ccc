import ConfigWiring.Proofs.Generator.DestinationSpelling
import ConfigWiring.Proofs.Project.EntryOrder
import Mathlib.Data.List.Forall2
import Mathlib.Data.List.Sort

/-!
# Selection of sources

The sources of a project are told by the names that lead to them: a file counts by its own name
and by those of the directories on the way.  All files that count are read, each one once, and
their order is that of the names, compared name by name.  So neither the entries that are left
out nor the order in which a directory tells its entries has an effect on what is loaded.
-/

namespace ConfigWiring

open Text

/-! ## Names that count -/

theorem isSourceName_iff
    {name : String} :
    isSourceName name = true ↔
      ".go".toList <:+ name.toList ∧ ¬"_test.go".toList <:+ name.toList := by
  rw [isSourceName, Bool.and_eq_true, Bool.not_eq_true', endsWith, endsWith,
    List.isSuffixOf_iff_suffix, ← Bool.not_eq_true, List.isSuffixOf_iff_suffix]

theorem isSkippedDirectory_eq_false_iff
    {name : String} :
    isSkippedDirectory name = false ↔
      name.toList.head? ≠ some '.' ∧ name ∉ ["vendor", "testdata", "node_modules"] := by
  simp [isSkippedDirectory, foreignDirectories]

namespace Project

/-- What a file that counts as a source is called: its own name ends in `.go`, though not in
`_test.go`, and no directory on the way to it is hidden or holds foreign or fixed code. -/
def Counts (names : Place) : Prop :=
  ∃ dirs last, names = dirs ++ [last] ∧
    (".go".toList <:+ last.toList ∧ ¬"_test.go".toList <:+ last.toList) ∧
    ∀ dir ∈ dirs, dir.toList.head? ≠ some '.' ∧ dir ∉ ["vendor", "testdata", "node_modules"]

theorem not_counts_nil : ¬Counts [] := by
  rintro ⟨dirs, last, split, _⟩
  simp at split

theorem counts_singleton
    {name : String} :
    Counts [name] ↔ isSourceName name = true := by
  rw [isSourceName_iff]
  constructor
  · rintro ⟨dirs, last, split, source, _⟩
    obtain ⟨rfl, rfl⟩ : dirs = [] ∧ last = name := by
      cases dirs with
      | nil => simpa using split.symm
      | cons => simp at split
    exact source
  · exact fun source => ⟨[], name, rfl, source, by simp⟩

theorem counts_cons
    {name : String}
    {names : Place}
    (nonempty : names ≠ []) :
    Counts (name :: names) ↔ isSkippedDirectory name = false ∧ Counts names := by
  rw [isSkippedDirectory_eq_false_iff]
  constructor
  · rintro ⟨dirs, last, split, source, searched⟩
    cases dirs with
    | nil => simp [nonempty] at split
    | cons dir dirs =>
        obtain ⟨rfl, rfl⟩ := List.cons.inj split
        rw [List.forall_mem_cons] at searched
        exact ⟨searched.1, dirs, last, rfl, source, searched.2⟩
  · rintro ⟨here, dirs, last, rfl, source, searched⟩
    exact ⟨name :: dirs, last, rfl, source, List.forall_mem_cons.2 ⟨here, searched⟩⟩

end Project

/-! ## Which sources are listed -/

open Project

theorem FileNode.mem_sources_iff
    {name : String}
    {node : FileNode}
    {names : Place}
    {bytes : ByteArray} :
    (names, bytes) ∈ node.sources name ↔
      (∃ mode, node = .file mode bytes ∧ names = [name] ∧ isSourceName name = true) ∨
        ∃ mode entries rest, node = .directory mode entries ∧ names = name :: rest ∧
          isSkippedDirectory name = false ∧ (rest, bytes) ∈ entries.sources := by
  cases node with
  | link target => simp [sources]
  | file mode content =>
      rw [sources]
      split
      · next source =>
          rw [List.mem_singleton, Prod.mk.injEq]
          constructor
          · rintro ⟨rfl, rfl⟩
            exact .inl ⟨mode, rfl, rfl, source⟩
          · rintro (⟨_, same, rfl, _⟩ | ⟨_, _, _, same, _⟩)
            · cases same
              exact ⟨rfl, rfl⟩
            · cases same
      · next other => simp [other]
  | directory mode inner =>
      rw [sources]
      split
      · next skipped => simp [skipped]
      · next searched =>
          rw [Bool.not_eq_true] at searched
          constructor
          · intro present
            obtain ⟨⟨rest, content⟩, below, same⟩ := List.mem_map.1 present
            cases same
            exact .inr ⟨mode, inner, rest, rfl, rfl, searched, below⟩
          · rintro (⟨_, same, _⟩ | ⟨_, _, rest, same, rfl, _, below⟩)
            · cases same
            · cases same
              exact List.mem_map.2 ⟨(rest, bytes), below, rfl⟩

namespace FileNodes

variable {entries : FileNodes} {names : Place} {bytes : ByteArray}

/-- The listed sources of a directory are the files below it that count, where links lead
nowhere. -/
theorem mem_sources_iff
    (named : entries.isNamed = true)
    (mode : Nat) :
    (names, bytes) ∈ entries.sources ↔
      Counts names ∧
        ∃ mode', (FileNode.directory mode entries).at? names = some (.file mode' bytes) := by
  induction names generalizing entries mode with
  | nil =>
      refine ⟨fun present => ?_, fun ⟨counts, _⟩ => absurd counts not_counts_nil⟩
      obtain ⟨_, dirs, last, split, _⟩ := place_of_mem_sources named present
      simp at split
  | cons name names inductionHypothesis =>
      have listed : (name :: names, bytes) ∈ entries.sources ↔
          ∃ node, entries.get? name = some node ∧ (name :: names, bytes) ∈ node.sources name := by
        constructor
        · intro present
          obtain ⟨first, node, found, _, _, here⟩ := exists_of_mem_sources named present
          obtain rfl : first = name := by
            rcases FileNode.mem_sources_iff.1 here with ⟨_, _, same, _⟩ | ⟨_, _, _, _, same, _⟩
            · exact (List.cons.inj same).1.symm
            · exact (List.cons.inj same).1.symm
          exact ⟨node, found, here⟩
        · rintro ⟨node, found, here⟩
          have inside : (name :: names, bytes) ∈ entries.sourcesOf name := by
            rw [sourcesOf, found]
            exact here
          exact mem_sources_of_mem_sourcesOf inside
      rw [listed, FileNode.at?, FileNode.entries]
      cases found : entries.get? name with
      | none => simp
      | some node =>
          simp only [Option.some.injEq, exists_eq_left', Option.bind_some, FileNode.mem_sources_iff]
          cases node with
          | link target => cases names <;> simp [FileNode.at?, FileNode.entries]
          | file mode' content =>
              cases names with
              | nil => simp [counts_singleton, and_comm]
              | cons => simp [FileNode.at?, FileNode.entries]
          | directory mode' inner =>
              obtain ⟨_, innerNamed⟩ := isNamed_of_get? named found
              have further := inductionHypothesis innerNamed mode'
              cases names with
              | nil =>
                  have nothing : ([], bytes) ∉ inner.sources := fun present =>
                    not_counts_nil (further.1 present).1
                  simp [nothing]
              | cons next rest =>
                  rw [counts_cons (List.cons_ne_nil _ _)]
                  simp [further, and_assoc]

/-! ## The order of the listing -/

/-- Whether the names of one source come before those of another, compared name by name. -/
def Precedes (left right : Place × ByteArray) : Prop := left.1 < right.1

instance : Std.Asymm Precedes := ⟨fun _ _ => List.lt_asymm⟩

theorem names_sourcesByName (entries : FileNodes) :
    entries.sourcesByName.map Prod.fst = entries.toList.map Prod.fst := by
  cases entries with
  | nil => rfl
  | cons name node rest => simp [sourcesByName, toList, names_sourcesByName rest]

theorem get?_eq_none_iff
    {name : String}
    {entries : FileNodes} :
    entries.get? name = none ↔ name ∉ entries.toList.map Prod.fst := by
  cases entries with
  | nil => simp [toList]
  | cons first node rest =>
      rw [get?, toList, List.map_cons, List.mem_cons, not_or]
      split
      · next same => simp [same]
      · next other => simp [get?_eq_none_iff, Ne.symm other]

theorem nodup_names
    {entries : FileNodes}
    (named : entries.isNamed = true) :
    (entries.toList.map Prod.fst).Nodup := by
  match entries with
  | .nil => exact List.nodup_nil
  | .cons first node rest =>
      simp only [isNamed, Bool.and_eq_true, Option.isNone_iff_eq_none] at named
      rw [toList, List.map_cons, List.nodup_cons]
      exact ⟨get?_eq_none_iff.1 named.1.1.2, nodup_names named.2⟩

/-- Listings that are put together in the order of their names stand in order themselves. -/
theorem pairwise_sources_of_each
    (named : entries.isNamed = true)
    (each : ∀ listing ∈ entries.sourcesByName, listing.2.Pairwise Precedes ∧
      ∀ source ∈ listing.2, ∃ rest, source.1 = listing.1 :: rest) :
    entries.sources.Pairwise Precedes := by
  have ordered := List.pairwise_mergeSort nameLE_trans nameLE_total entries.sourcesByName
  have distinct : (entries.sourcesByName.mergeSort nameLE).Pairwise (·.1 ≠ ·.1) := by
    have nodup : (entries.sourcesByName.map Prod.fst).Nodup := by
      rw [names_sourcesByName]
      exact nodup_names named
    exact ((List.mergeSort_perm _ _).pairwise_iff fun different => different.symm).2
      (List.pairwise_map.1 nodup)
  refine List.pairwise_flatMap.2 ⟨fun listing present =>
    (each listing (List.mem_mergeSort.1 present)).1, ?_⟩
  refine (ordered.and distinct).imp_of_mem fun {left right} leftIn rightIn related => ?_
  have before : left.1 < right.1 :=
    Std.lt_of_le_of_ne (by simpa [nameLE] using related.1) related.2
  intro source here other there
  obtain ⟨rest, spelt⟩ := (each left (List.mem_mergeSort.1 leftIn)).2 source here
  obtain ⟨rest', spelt'⟩ := (each right (List.mem_mergeSort.1 rightIn)).2 other there
  rw [Precedes, spelt, spelt']
  exact List.cons_lt_cons_iff.2 (.inl before)

end FileNodes

mutual

/-- The sources below an entry begin with its name and stand in order. -/
theorem FileNode.pairwise_sources
    (name : String)
    (node : FileNode)
    (named : node.isNamed = true) :
    (node.sources name).Pairwise FileNodes.Precedes ∧
      ∀ source ∈ node.sources name, ∃ rest, source.1 = name :: rest := by
  refine ⟨?_, fun source present => ?_⟩
  · match node with
    | .file mode bytes =>
        rw [FileNode.sources]
        split
        · exact List.pairwise_singleton _ _
        · exact .nil
    | .link target => exact .nil
    | .directory mode entries =>
        rw [FileNode.sources]
        split
        · exact .nil
        · refine List.pairwise_map.2 ?_
          refine (FileNodes.pairwise_sources_of_each named fun listing present =>
            FileNodes.pairwise_sourcesByName entries named listing present).imp fun before => ?_
          exact List.cons_lt_cons_iff.2 (.inr ⟨rfl, before⟩)
  · rcases FileNode.mem_sources_iff.1 present with ⟨_, _, same, _⟩ | ⟨_, _, rest, _, same, _⟩
    · exact ⟨[], same⟩
    · exact ⟨rest, same⟩

theorem FileNodes.pairwise_sourcesByName
    (entries : FileNodes)
    (named : entries.isNamed = true) :
    ∀ listing ∈ entries.sourcesByName, listing.2.Pairwise FileNodes.Precedes ∧
      ∀ source ∈ listing.2, ∃ rest, source.1 = listing.1 :: rest := by
  match entries with
  | .nil => exact List.forall_mem_nil _
  | .cons name node rest =>
      simp only [FileNodes.isNamed, Bool.and_eq_true] at named
      rw [FileNodes.sourcesByName, List.forall_mem_cons]
      exact ⟨FileNode.pairwise_sources name node named.1.2,
        FileNodes.pairwise_sourcesByName rest named.2⟩

end

theorem FileNodes.pairwise_sources
    {entries : FileNodes}
    (named : entries.isNamed = true) :
    entries.sources.Pairwise Precedes :=
  pairwise_sources_of_each named (pairwise_sourcesByName entries named)

namespace Project

variable {host other : Host} {root : Path} {place : Place}

/-- The sources of a directory are those files below it that count, told in the order of their
names. -/
theorem mem_sources_entriesAt_iff
    {tree : FileTree}
    {names : Place}
    {bytes : ByteArray}
    (directory : tree.shapeAt? place = some .directory)
    (named : tree.root.isNamed = true) :
    (names, bytes) ∈ (entriesAt tree place).sources ↔
      Counts names ∧ ∃ mode, tree.at? (place ++ names) = some (.file mode bytes) := by
  obtain ⟨mode, entries, there⟩ := FileTree.shapeAt?_eq_directory.1 directory
  have inside : (FileNode.directory mode entries).isNamed = true :=
    FileNode.isNamed_of_at? named there
  have found : tree.at? (place ++ names) = (FileNode.directory mode entries).at? names := by
    rw [FileTree.at?, FileNode.at?_append, ← FileTree.at?, there, Option.bind_some]
  rw [found, entriesAt, there]
  exact FileNodes.mem_sources_iff inside mode

theorem isNamed_entriesAt
    {tree : FileTree}
    (named : tree.root.isNamed = true) :
    (entriesAt tree place).isNamed = true := by
  unfold entriesAt
  cases there : tree.at? place with
  | none => rfl
  | some node =>
      cases node with
      | file | link => rfl
      | directory mode entries => exact FileNode.isNamed_of_at? named there

/-- The order in which directories tell their entries has no effect on a project. -/
theorem load_of_reordered
    (reordered : host.files.Reordered other.files)
    (named : host.files.root.isNamed = true)
    (working : other.place = host.place) :
    load other root = load host root := by
  have namedOther : other.files.root.isNamed = true := FileNode.Reordered.isNamed reordered named
  unfold load
  rw [working, reordered.openDirectory named]
  cases opens : host.files.openDirectory host.place root with
  | error fault => rfl
  | ok place =>
      have directory := (FileTree.openDirectory_eq_ok opens).2
      have directoryOther : other.files.shapeAt? place = some .directory :=
        (reordered.shapeAt? named place).trans directory
      have listed :
          (entriesAt other.files place).sources = (entriesAt host.files place).sources := by
        refine (FileNodes.pairwise_sources (isNamed_entriesAt namedOther)).eq_of_mem_iff
          (FileNodes.pairwise_sources (isNamed_entriesAt named)) ?_
        rintro ⟨names, bytes⟩
        rw [mem_sources_entriesAt_iff directoryOther namedOther,
          mem_sources_entriesAt_iff directory named]
        simp only [← FileTree.leafAt?_eq_file_iff, reordered.leafAt? named]
      have declared : moduleOf other.files root place = moduleOf host.files root place := by
        rw [moduleOf, moduleOf, reordered.readNamed named]
      simp only [listed, declared]

/-! ## What is loaded -/

/-- The files are the sources of the directory at a place, each read once, in the order of the
names that lead to them. -/
structure Selects
    (tree : FileTree)
    (place : Place)
    (places : List Place)
    (files : List Go.SourceFile) : Prop where
  /-- The names ascend, compared name by name. -/
  ascending : places.Pairwise (· < ·)
  /-- They are those of the regular files that count. -/
  mem_iff : ∀ names, names ∈ places ↔ Counts names ∧ tree.shapeAt? (place ++ names) = some .file
  /-- Each file has the path of these names and is read from what stands there. -/
  read : List.Forall₂ (fun names file => file.path.Spells names ∧
    ∃ mode bytes text, tree.at? (place ++ names) = some (.file mode bytes) ∧
      String.fromUTF8? bytes = some text ∧ Go.parseSource (sourcePath names) text = .ok file)
    places files

theorem forall₂_of_mapM
    {element output : Type}
    {work : element -> Except Failure output}
    {related : element -> output -> Prop}
    {elements : List element}
    {outputs : List output}
    (each : ∀ one ∈ elements, ∀ result, work one = .ok result -> related one result)
    (done : elements.mapM work = .ok outputs) :
    List.Forall₂ related elements outputs := by
  induction elements generalizing outputs with
  | nil =>
      cases done
      exact .nil
  | cons first rest inductionHypothesis =>
      rw [List.forall_mem_cons] at each
      obtain ⟨output, others, did, doneRest, rfl⟩ := mapM_cons_eq_ok.1 done
      exact .cons (each.1 output did) (inductionHypothesis each.2 doneRest)

theorem exists_mapM
    {element output : Type}
    {work : element -> Except Failure output}
    {elements : List element}
    (each : ∀ one ∈ elements, ∃ result, work one = .ok result) :
    ∃ outputs, elements.mapM work = .ok outputs := by
  induction elements with
  | nil => exact ⟨[], rfl⟩
  | cons first rest inductionHypothesis =>
      rw [List.forall_mem_cons] at each
      obtain ⟨output, did⟩ := each.1
      obtain ⟨others, doneRest⟩ := inductionHypothesis each.2
      exact ⟨output :: others, mapM_cons_eq_ok.2 ⟨output, others, did, doneRest, rfl⟩⟩

theorem readSource_eq_ok_iff
    {names : Place}
    {bytes : ByteArray}
    {file : Go.SourceFile} :
    readSource root names bytes = .ok file ↔
      ∃ text, String.fromUTF8? bytes = some text ∧
        Go.parseSource (sourcePath names) text = .ok file := by
  unfold readSource
  cases String.fromUTF8? bytes <;> simp

/-- A project is loaded from every directory that opens, if its module file is absent or holds
text and each file that counts is a well-formed source.  Its files are those that count, each one
once, in the order of their names, and they are the same whatever the order of the entries. -/
theorem load_selects_sources
    (opens : host.files.openDirectory host.place root = .ok place)
    (named : host.files.root.isNamed = true)
    (readable : (∃ text, host.files.readNamed place moduleFileName = .ok text) ∨
      host.files.readNamed place moduleFileName = .error .notFound)
    (valid : ∀ names mode bytes, Counts names ->
      host.files.at? (place ++ names) = some (.file mode bytes) ->
        ∃ text file, String.fromUTF8? bytes = some text ∧
          Go.parseSource (sourcePath names) text = .ok file) :
    ∃ project places, load host root = .ok project ∧
      Selects host.files place places project.files ∧
      ∀ other : Host, host.files.Reordered other.files -> other.place = host.place ->
        load other root = .ok project := by
  have directory := (FileTree.openDirectory_eq_ok opens).2
  obtain ⟨mod?, declared⟩ : ∃ mod?, moduleOf host.files root place = .ok mod? := by
    unfold moduleOf
    rcases readable with ⟨text, read⟩ | absent
    · exact ⟨_, by rw [read]⟩
    · exact ⟨none, by rw [absent]⟩
  have listed {names : Place} {bytes : ByteArray} :
      (names, bytes) ∈ (entriesAt host.files place).sources ↔ Counts names ∧
        ∃ mode, host.files.at? (place ++ names) = some (.file mode bytes) :=
    mem_sources_entriesAt_iff directory named
  obtain ⟨files, read⟩ : ∃ files, ((entriesAt host.files place).sources.mapM fun source =>
      readSource root source.1 source.2) = .ok files := by
    refine exists_mapM ?_
    rintro ⟨names, bytes⟩ present
    obtain ⟨counts, mode, there⟩ := listed.1 present
    obtain ⟨text, file, told⟩ := valid names mode bytes counts there
    exact ⟨file, readSource_eq_ok_iff.2 ⟨text, told⟩⟩
  have loaded : load host root = .ok ⟨root, mod?, files⟩ :=
    load_eq_ok.2 ⟨place, mod?, files, opens, declared, read, rfl⟩
  refine ⟨_, (entriesAt host.files place).sources.map Prod.fst, loaded, ⟨?_, ?_, ?_⟩,
    fun other reordered working => (load_of_reordered reordered named working).trans loaded⟩
  · exact List.pairwise_map.2 (FileNodes.pairwise_sources (isNamed_entriesAt named))
  · intro names
    rw [FileTree.shapeAt?_eq_file_iff]
    simp only [FileTree.leafAt?_eq_file_iff, List.mem_map, Prod.exists, exists_and_right,
      exists_eq_right, listed]
    constructor
    · rintro ⟨bytes, counts, mode, there⟩
      exact ⟨counts, mode, bytes, there⟩
    · rintro ⟨counts, mode, bytes, there⟩
      exact ⟨bytes, counts, mode, there⟩
  · refine List.forall₂_map_left_iff.2 (forall₂_of_mapM ?_ read)
    rintro ⟨names, bytes⟩ present file reads
    obtain ⟨_, mode, there⟩ := listed.1 present
    obtain ⟨text, decoded, parsed⟩ := readSource_eq_ok_iff.1 reads
    obtain ⟨entryNames, _⟩ := FileNodes.place_of_mem_sources (isNamed_entriesAt named) present
    refine ⟨?_, mode, bytes, text, there, decoded, parsed⟩
    rw [Go.path_of_parseSource parsed, Path.Spells, components_sourcePath entryNames]

/-! ## A directory with entries of all kinds -/

/-- A source without declarations. -/
def plainSource : String := "package a\n"

/-- A host whose working directory has sources beside a test, a link and a hidden directory, and
a directory with a name that another source begins with. -/
def mixedHost : Host := { (default : Host) with
  files := ⟨.directory 0o755 (.cons "a.go" (.file 0o644 plainSource.toUTF8)
    (.cons "b.go" (.link "a.go")
    (.cons "a_test.go" (.file 0o644 "package".toUTF8)
    (.cons ".git" (.directory 0o755 (.cons "x.go" (.file 0o644 "".toUTF8) .nil))
    (.cons "a" (.directory 0o755 (.cons "z.go" (.file 0o644 plainSource.toUTF8) .nil)) .nil)))))⟩ }

theorem mem_sources_mixedHost
    {names : Place}
    {bytes : ByteArray} :
    (names, bytes) ∈ (entriesAt mixedHost.files []).sources ↔
      (names = ["a", "z.go"] ∨ names = ["a.go"]) ∧ bytes = plainSource.toUTF8 := by
  have kinds : isSourceName "a.go" = true ∧ isSourceName "a_test.go" = false ∧
      isSkippedDirectory ".git" = true ∧ isSkippedDirectory "a" = false ∧
      isSourceName "z.go" = true := by
    decide
  simp [entriesAt, mixedHost, FileTree.at?, FileNode.entries, FileNode.mem_sources_iff, kinds]
  grind

/-- The link, the test and the hidden directory are left out, and the source in the directory `a`
comes before the file `a.go`. -/
theorem load_selects_sources_of_mixedHost :
    ∃ project, load mixedHost ⟨"."⟩ = .ok project ∧
      Selects mixedHost.files [] [["a", "z.go"], ["a.go"]] project.files := by
  have opens : mixedHost.files.openDirectory mixedHost.place ⟨"."⟩ = .ok [] :=
    Host.openDirectory_dot rfl
  have named : mixedHost.files.root.isNamed = true := by decide +kernel
  have absent : mixedHost.files.readNamed [] moduleFileName = .error .notFound := by
    have nothing : mixedHost.files.shapeAt? ([] ++ [moduleFileName]) = none := by decide +kernel
    have short : moduleFileName.utf8ByteSize ≤ FileTree.maxNameSize := by decide
    rw [FileTree.readNamed, if_neg (by decide), FileTree.follow_into, if_neg (Nat.not_lt.2 short),
      nothing]
    rfl
  have directory := (FileTree.openDirectory_eq_ok opens).2
  obtain ⟨project, places, loaded, selects, _⟩ :=
    load_selects_sources opens named (.inr absent) fun names mode bytes counts there => by
      have present := (mem_sources_entriesAt_iff directory named).2 ⟨counts, mode, there⟩
      obtain ⟨either, rfl⟩ := mem_sources_mixedHost.1 present
      refine ⟨plainSource, ⟨sourcePath names, "a", []⟩, FileTree.fromUTF8?_toUTF8 _, ?_⟩
      rcases either with rfl | rfl <;> decide +kernel
  have same : places = [["a", "z.go"], ["a.go"]] := by
    refine selects.ascending.eq_of_mem_iff (by decide) ?_
    intro names
    rw [selects.mem_iff, FileTree.shapeAt?_eq_file_iff]
    simp only [FileTree.leafAt?_eq_file_iff]
    constructor
    · rintro ⟨counts, mode, bytes, there⟩
      have present := (mem_sources_entriesAt_iff directory named).2 ⟨counts, mode, there⟩
      simpa using (mem_sources_mixedHost.1 present).1
    · intro listed
      have present := mem_sources_mixedHost.2 ⟨by simpa using listed, rfl⟩
      obtain ⟨counts, mode, there⟩ := (mem_sources_entriesAt_iff directory named).1 present
      exact ⟨counts, mode, _, there⟩
  exact ⟨project, loaded, same ▸ selects⟩

end Project
end ConfigWiring
