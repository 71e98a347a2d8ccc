import ConfigWiring.Proofs.Generator.ImportBlock
import ConfigWiring.Proofs.Generator.Repetition
import ConfigWiring.Proofs.Project.SourcePlaces

/-!
# Spellings of the destination

The generated file is written to wherever the destination leads from the directory of the
project, but structs of the destination are known by the spelling of their directory.  So of all
paths to one directory only those that consist of its names make the structs of that directory
local ones.
-/

namespace ConfigWiring

open Project

theorem mapM_congr
    {element output : Type}
    {work other : element -> Except Failure output}
    {elements : List element}
    (same : ∀ one ∈ elements, other one = work one) :
    elements.mapM other = elements.mapM work := by
  induction elements with
  | nil => rfl
  | cons first rest inductionHypothesis =>
      rw [List.forall_mem_cons] at same
      rw [List.mapM_cons, List.mapM_cons, same.1, inductionHypothesis same.2]

/-! ## Declarations of a directory -/

theorem Go.path_of_parseSource
    {path : Path}
    {contents : String}
    {file : SourceFile}
    (read : parseSource path contents = .ok file) :
    file.path = path := by
  obtain ⟨items, _, rfl⟩ := parseSource_eq_ok_iff.1 read
  rfl

namespace Project

/-- A source file lies in the directory of the given names. -/
def LiesIn (file : Go.SourceFile) (names : Place) : Prop :=
  ∃ last, isEntryName last = true ∧ file.path = sourcePath (names ++ [last])

variable {host : Host} {root : Path} {project : Project} {place : Place} {file : Go.SourceFile}

/-- A source of a loaded project lies in one directory of it, where it has its declarations. -/
theorem exists_directory_of_load
    (opened : host.files.openDirectory host.place root = .ok place)
    (loaded : load host root = .ok project)
    (named : (entriesAt host.files place).isNamed = true)
    (present : file ∈ project.files) :
    ∃ dirs, LiesIn file dirs ∧ (∀ name ∈ dirs, isEntryName name = true) ∧
      host.files.shapeAt? (place ++ dirs) = some .directory ∧
        ∀ decl ∈ file.decls, decl.dir = sourcePath dirs := by
  obtain ⟨place', mod?, files, opens, _, read, rfl⟩ := load_eq_ok.1 loaded
  cases opened.symm.trans opens
  obtain ⟨⟨names, bytes⟩, listed, reads⟩ := exists_of_mem_mapM read present
  obtain ⟨entries, dirs, last, rfl, directory⟩ := FileNodes.place_of_mem_sources named listed
  simp only [readSource] at reads
  split at reads
  · cases reads
  · next text decoded =>
      obtain ⟨dirsNamed, lastNamed⟩ := List.forall_mem_append.1 entries
      refine ⟨dirs, ⟨last, by simpa using lastNamed, Go.path_of_parseSource reads⟩, dirsNamed, ?_,
        fun decl declared => ?_⟩
      · obtain ⟨mode, nodes, there⟩ :=
          FileTree.shapeAt?_eq_directory.1 (FileTree.openDirectory_eq_ok opens).2
        have inner := directory mode
        rw [entriesAt, there] at inner
        rw [FileTree.shapeAt?, FileTree.at?, FileNode.at?_append, ← FileTree.at?, there,
          Option.bind_some]
        exact inner
      · rw [Go.dir_of_parseSource reads declared, parent?_sourcePath entries]
        rfl

/-- The declarations of a directory are those of the files that lie in it. -/
theorem dir_eq_iff_of_load
    {names : Place}
    {decl : Go.TypeDecl}
    (opened : host.files.openDirectory host.place root = .ok place)
    (loaded : load host root = .ok project)
    (named : (entriesAt host.files place).isNamed = true)
    (namesNamed : ∀ name ∈ names, isEntryName name = true)
    (present : file ∈ project.files)
    (declared : decl ∈ file.decls) :
    decl.dir = sourcePath names ↔ LiesIn file names := by
  obtain ⟨dirs, ⟨last, lastNamed, spelt⟩, dirsNamed, _, each⟩ :=
    exists_directory_of_load opened loaded named present
  have together {names : Place} {last : String} (namesNamed : ∀ name ∈ names, isEntryName name = true)
      (lastNamed : isEntryName last = true) :
      ∀ name ∈ names ++ [last], isEntryName name = true :=
    List.forall_mem_append.2 ⟨namesNamed, by simpa using lastNamed⟩
  rw [each decl declared]
  constructor
  · intro same
    rw [← sourcePath_inj dirsNamed namesNamed same]
    exact ⟨last, lastNamed, spelt⟩
  · rintro ⟨last', lastNamed', spelt'⟩
    have same := sourcePath_inj (together dirsNamed lastNamed) (together namesNamed lastNamed')
      (spelt.symm.trans spelt')
    rw [(List.append_inj' same rfl).1]

end Project

namespace Generator

variable {generator : Generator} {host : Host} {root : Path} {project : Project}
  {place names : Place} {marked : List MarkedType} {descriptors : List Descriptor}

/-! ## What makes a struct local -/

/-- A marked type is declared in a file of the directory of the given names. -/
def DeclaredIn (generator : Generator) (project : Project) (names : Place) (one : MarkedType) : Prop :=
  ∃ file ∈ project.files, LiesIn file names ∧
    ∃ decl ∈ file.decls, (Scanner.mk generator.config.tagName).mark? decl = .ok (some one)

/-- A generator with another destination. -/
def toward (generator : Generator) (destination : Path) : Generator :=
  { generator with config := { generator.config with destination } }

/-- The destination of a generator leads to the directory of the given names of a project. -/
structure LeadsTo
    (generator : Generator)
    (host : Host)
    (project : Project)
    (place names : Place) : Prop where
  /-- The directory of the project opens. -/
  opened : host.files.openDirectory host.place project.root = .ok place
  /-- The project was loaded from there. -/
  loaded : Project.load host project.root = .ok project
  /-- Entries of the project have names of their own. -/
  named : (entriesAt host.files place).isNamed = true
  /-- The destination, seen from the directory of the project, is the directory of the names. -/
  reached : host.files.openDirectory host.place (project.resolve generator.config.destination) =
    .ok (place ++ names)

namespace LeadsTo

theorem directory (leads : generator.LeadsTo host project place names) :
    host.files.shapeAt? (place ++ names) = some .directory :=
  (FileTree.openDirectory_eq_ok leads.reached).2

theorem isEntryName (leads : generator.LeadsTo host project place names) :
    ∀ name ∈ names, isEntryName name = true := by
  obtain ⟨mode, entries, there⟩ :=
    FileTree.shapeAt?_eq_directory.1 (FileTree.openDirectory_eq_ok leads.opened).2
  have named := leads.named
  have directory := leads.directory
  rw [entriesAt, there] at named
  rw [FileTree.shapeAt?, FileTree.at?, FileNode.at?_append, ← FileTree.at?, there,
    Option.bind_some] at directory
  obtain ⟨node, inner, _⟩ := Option.map_eq_some_iff.1 directory
  exact FileNodes.isEntryName_of_at? named inner

/-- The directory of a marked type is that of a directory of the project. -/
theorem exists_names
    (leads : generator.LeadsTo host project place names)
    {one : MarkedType}
    (marks : generator.marked project = .ok marked)
    (present : one ∈ marked) :
    ∃ dirs, one.dir = sourcePath dirs ∧ (∀ name ∈ dirs, ConfigWiring.isEntryName name = true) ∧
      host.files.shapeAt? (place ++ dirs) = some .directory := by
  obtain ⟨decl, member, marks?⟩ := Scanner.exists_mark?_of_mem_scan marks present
  obtain ⟨file, listed, declared⟩ := List.mem_flatMap.1 member
  obtain ⟨dirs, _, named, directory, each⟩ :=
    exists_directory_of_load leads.opened leads.loaded leads.named listed
  exact ⟨dirs, (Scanner.decl_of_mark? marks?).2.trans (each decl declared), named, directory⟩

theorem declaredIn_iff
    (leads : generator.LeadsTo host project place names)
    {one : MarkedType}
    (marks : generator.marked project = .ok marked)
    (present : one ∈ marked) :
    generator.DeclaredIn project names one ↔ one.dir = sourcePath names := by
  constructor
  · rintro ⟨file, listed, lies, decl, declared, marks?⟩
    rw [(Scanner.decl_of_mark? marks?).2]
    exact (dir_eq_iff_of_load leads.opened leads.loaded leads.named leads.isEntryName listed
      declared).2 lies
  · intro same
    obtain ⟨decl, member, marks?⟩ := Scanner.exists_mark?_of_mem_scan marks present
    obtain ⟨file, listed, declared⟩ := List.mem_flatMap.1 member
    rw [(Scanner.decl_of_mark? marks?).2] at same
    exact ⟨file, listed, (dir_eq_iff_of_load leads.opened leads.loaded leads.named
      leads.isEntryName listed declared).1 same, decl, declared, marks?⟩

/-- A struct is local exactly if its directory is the destination and the destination is spelt by
the names of that directory. -/
theorem isLocal_iff
    (leads : generator.LeadsTo host project place names)
    {one : MarkedType}
    (marks : generator.marked project = .ok marked)
    (present : one ∈ marked) :
    generator.isLocal one = true ↔
      generator.DeclaredIn project names one ∧ generator.config.destination.Spells names := by
  rw [leads.declaredIn_iff marks present, isLocal, Path.agrees_iff]
  obtain ⟨dirs, dir, named, directory⟩ := leads.exists_names marks present
  rw [dir, components_sourcePath named]
  constructor
  · intro same
    have spells : generator.config.destination.Spells dirs := same.symm
    have reached := leads.reached
    rw [resolve, if_neg (by simp [(Path.moves_steps_of_spells spells).2])] at reached
    have places := FileTree.place_of_spells leads.opened spells directory reached
    obtain rfl : names = dirs := List.append_cancel_left places
    exact ⟨rfl, spells⟩
  · rintro ⟨same, spells⟩
    rw [sourcePath_inj named leads.isEntryName same]
    exact spells.symm

end LeadsTo

/-! ## What follows for descriptors and imports -/

/-- The structs of a directory go by their bare names, and nothing is imported from it. -/
structure Recognizes
    (generator : Generator)
    (project : Project)
    (marked : List MarkedType)
    (descriptors : List Descriptor)
    (names : Place) : Prop where
  /-- Structs that are declared in a file of the directory are referred to by their own names. -/
  bare : ∀ pair ∈ (marked.filter MarkedType.isStruct).zip descriptors,
    generator.DeclaredIn project names pair.1 -> pair.2.specType = pair.1.typeName
  /-- The package of the directory is not imported. -/
  absent : ∀ mod, project.mod? = some mod ->
    mod.importPath (sourcePath names) ∉ generator.imports project marked

/-- No struct is declared in a file of the directory. -/
def Vacant
    (generator : Generator)
    (project : Project)
    (marked : List MarkedType)
    (names : Place) : Prop :=
  ∀ one ∈ marked.filter MarkedType.isStruct, ¬generator.DeclaredIn project names one

/-- The structs of the destination are recognized exactly if there are none or the destination is
spelt by its names, apart from a support package that stands there itself. -/
theorem LeadsTo.recognizes_iff
    (leads : generator.LeadsTo host project place names)
    (marks : generator.marked project = .ok marked)
    (describes : generator.describe marked = .ok descriptors) :
    generator.Recognizes project marked descriptors names ↔
      (generator.Vacant project marked names ∨ generator.config.destination.Spells names) ∧
        ∀ mod, project.mod? = some mod ->
          mod.importPath (sourcePath names) ∉ supportImports := by
  constructor
  · rintro ⟨bare, absent⟩
    constructor
    · refine or_iff_not_imp_left.2 fun inhabited => ?_
      simp only [Vacant, not_forall, not_not] at inhabited
      obtain ⟨one, struct, declared⟩ := inhabited
      obtain ⟨descriptor, paired⟩ := exists_mem_zip describes struct
      have told := specType_of_mem_zip describes paired
      rw [bare _ paired declared] at told
      by_cases inside : generator.isLocal one = true
      · exact ((leads.isLocal_iff marks (List.mem_filter.1 struct).1).1 inside).2
      · rw [if_neg inside] at told
        exact absurd told one.typeName_ne_qualifiedName
    · intro mod declares support
      refine absent mod declares ?_
      rw [imports, Text.mem_sortedSet]
      exact List.mem_append_left _ support
  · rintro ⟨spelt, support⟩
    -- Where the destination has structs, it is spelt by its names, so that they are local ones.
    have inside {one : MarkedType} (struct : one ∈ marked.filter MarkedType.isStruct)
        (declared : generator.DeclaredIn project names one) : generator.isLocal one = true := by
      rcases spelt with vacant | spells
      · exact absurd declared (vacant one struct)
      · exact (leads.isLocal_iff marks (List.mem_filter.1 struct).1).2 ⟨declared, spells⟩
    constructor
    · rintro ⟨one, descriptor⟩ paired declared
      rw [specType_of_mem_zip describes paired,
        if_pos (inside (List.of_mem_zip paired).1 declared)]
    · intro mod declares imported
      rw [imports, Text.mem_sortedSet, declares, List.mem_append] at imported
      rcases imported with supported | foreign
      · exact support mod declares supported
      · obtain ⟨one, present, same⟩ := List.mem_map.1 foreign
        obtain ⟨member, kept⟩ := List.mem_filter.1 present
        rw [Bool.and_eq_true, Bool.not_eq_true'] at kept
        have struct : one ∈ marked.filter MarkedType.isStruct :=
          List.mem_filter.2 ⟨member, kept.1⟩
        obtain ⟨dirs, dir, named, _⟩ := leads.exists_names marks member
        rw [dir, mod.importPath_eq_iff (isBelow_sourcePath named)
          (isBelow_sourcePath leads.isEntryName), Path.agrees_iff, components_sourcePath named,
          components_sourcePath leads.isEntryName] at same
        have equal : dirs = names := (List.map_inj_right fun _ _ => Path.Component.name.inj).1 same
        have declared := (leads.declaredIn_iff marks member).2 (equal ▸ dir)
        rw [inside struct declared] at kept
        cases kept.2

/-- Two paths to one directory make the same descriptors and imports exactly if no struct is
declared there or both of them are spelt by the names of the directory, or neither. -/
theorem LeadsTo.same_iff
    {other : Path}
    (leads : generator.LeadsTo host project place names)
    (otherLeads : (generator.toward other).LeadsTo host project place names)
    (marks : generator.marked project = .ok marked)
    (describes : generator.describe marked = .ok descriptors) :
    ((generator.toward other).describe marked = .ok descriptors ∧
        (generator.toward other).imports project marked = generator.imports project marked) ↔
      generator.Vacant project marked names ∨
        (generator.config.destination.Spells names ↔ other.Spells names) := by
  have here {one : MarkedType} (struct : one ∈ marked.filter MarkedType.isStruct) :=
    leads.isLocal_iff marks (List.mem_filter.1 struct).1
  have there {one : MarkedType} (struct : one ∈ marked.filter MarkedType.isStruct) :
      (generator.toward other).isLocal one = true ↔
        generator.DeclaredIn project names one ∧ other.Spells names :=
    otherLeads.isLocal_iff marks (List.mem_filter.1 struct).1
  constructor
  · rintro ⟨describesOther, _⟩
    refine or_iff_not_imp_left.2 fun inhabited => ?_
    simp only [Vacant, not_forall, not_not] at inhabited
    obtain ⟨one, struct, declared⟩ := inhabited
    obtain ⟨descriptor, paired⟩ := exists_mem_zip describes struct
    have told := (specType_of_mem_zip describes paired).symm.trans
      (specType_of_mem_zip describesOther paired)
    have same : generator.isLocal one = true ↔ (generator.toward other).isLocal one = true := by
      have apart := one.typeName_ne_qualifiedName
      split at told <;> split at told <;> simp_all
    rw [here struct, there struct] at same
    simpa [declared] using same
  · intro alike
    have same : ∀ one ∈ marked.filter MarkedType.isStruct,
        (generator.toward other).isLocal one = generator.isLocal one := by
      intro one struct
      rw [Bool.eq_iff_iff, here struct, there struct]
      rcases alike with vacant | spelt
      · simp [vacant one struct]
      · rw [spelt]
    constructor
    · rw [← describes, describe, describe]
      refine mapM_congr fun one struct => ?_
      rw [describeOne, describeOne, same one struct]
      rfl
    · have foreign : (generator.toward other).foreignStructs marked =
          generator.foreignStructs marked := by
        refine List.filter_congr fun one present => ?_
        cases struct : one.isStruct with
        | false => rfl
        | true => rw [same one (List.mem_filter.2 ⟨present, struct⟩)]
      rw [imports, imports, foreign]

/-- Of all paths to a directory of a loaded project, exactly those that consist of the names of
the directory make its structs go by their bare names without an import of their package, so that
two such paths make the same of the project exactly if no struct is declared there or both of them
are spelt so, or neither. -/
theorem spelling_decides
    (leads : generator.LeadsTo host project place names)
    (marks : generator.marked project = .ok marked)
    (describes : generator.describe marked = .ok descriptors) :
    (generator.Recognizes project marked descriptors names ↔
      (generator.Vacant project marked names ∨ generator.config.destination.Spells names) ∧
        ∀ mod, project.mod? = some mod ->
          mod.importPath (sourcePath names) ∉ supportImports) ∧
    ∀ other, (generator.toward other).LeadsTo host project place names ->
      (((generator.toward other).describe marked = .ok descriptors ∧
          (generator.toward other).imports project marked = generator.imports project marked) ↔
        generator.Vacant project marked names ∨
          (generator.config.destination.Spells names ↔ other.Spells names)) :=
  ⟨leads.recognizes_iff marks describes, fun _ otherLeads =>
    leads.same_iff otherLeads marks describes⟩

/-! ## A struct in the standard destination -/

/-- A source with one marked struct. -/
def localSource : String := "package generated\n\n// @app-cfg\ntype G struct \x7b\x7d\n"

/-- A host with a project that holds the source in the standard destination. -/
def localHost : Host := { (default : Host) with
  files := ⟨.directory 0o755 (.cons "go.mod" (.file 0o644 "module example.com/shop\n".toUTF8)
    (.cons "internal" (.directory 0o755 (.cons "generated" (.directory 0o755
      (.cons "g.go" (.file 0o644 localSource.toUTF8) .nil)) .nil)) .nil))⟩ }

/-- The project of that host. -/
def localProject : Project := ⟨⟨"."⟩, some ⟨"example.com/shop"⟩,
  [⟨⟨"internal/generated/g.go"⟩, "generated",
    [⟨"generated", ⟨"internal/generated"⟩, "G", "@app-cfg", .struct, []⟩]⟩]⟩

/-- The marked struct of that project. -/
def localStruct : MarkedType :=
  ⟨"@app-cfg", "generated", "G", ⟨"internal/generated"⟩, ⟨[]⟩, .struct, []⟩

theorem load_localProject : Project.load localHost ⟨"."⟩ = .ok localProject := by
  have opens : localHost.files.openDirectory localHost.place ⟨"."⟩ = .ok [] :=
    Host.openDirectory_dot rfl
  have declared : moduleOf localHost.files ⟨"."⟩ [] = .ok (some ⟨"example.com/shop"⟩) := by
    have moduleText : localHost.files.readNamed [] moduleFileName = .ok "module example.com/shop\n" :=
      FileTree.readNamed_of_file (by decide) (by decide) rfl
    rw [moduleOf, moduleText]
    decide +kernel
  have sources : (entriesAt localHost.files []).sources =
      [(["internal", "generated", "g.go"], localSource.toUTF8)] := by
    have names : isSourceName "go.mod" = false ∧ isSkippedDirectory "internal" = false ∧
        isSkippedDirectory "generated" = false ∧ isSourceName "g.go" = true := by decide
    rw [FileNodes.sources, List.mergeSort_of_pairwise (by decide +kernel)]
    simp [entriesAt, localHost, FileTree.at?, FileNode.entries, FileNodes.sourcesByName,
      FileNode.sources, names]
  have read : readSource ⟨"."⟩ ["internal", "generated", "g.go"] localSource.toUTF8 =
      .ok ⟨⟨"internal/generated/g.go"⟩, "generated",
        [⟨"generated", ⟨"internal/generated"⟩, "G", "@app-cfg", .struct, []⟩]⟩ := by
    rw [readSource, FileTree.fromUTF8?_toUTF8]
    decide +kernel
  refine load_eq_ok.2 ⟨[], _, _, opens, declared, ?_, rfl⟩
  rw [sources]
  exact mapM_cons_eq_ok.2 ⟨_, [], read, rfl, rfl⟩

/-- A relative path of names, perhaps behind a dot, leads to the standard destination. -/
theorem leadsTo_localProject
    {generator : Generator}
    (moves : PathStep.moves (localProject.resolve generator.config.destination).steps =
      ["internal", "generated"].map .into)
    (relative : (localProject.resolve generator.config.destination).isAbsolute = false)
    (allowed : (localProject.resolve generator.config.destination).text.isEmpty = false ∧
      (localProject.resolve generator.config.destination).text.toList.contains '\x00' = false ∧
      (localProject.resolve generator.config.destination).text.utf8ByteSize ≤ FileTree.maxPathSize) :
    generator.LeadsTo localHost localProject [] ["internal", "generated"] where
  opened := Host.openDirectory_dot rfl
  loaded := load_localProject
  named := by decide +kernel
  reached := FileTree.openDirectory_of_moves moves relative allowed (by decide) (by decide +kernel)

theorem declaredIn_localProject
    {generator : Generator}
    (marker : generator.config.tagName = "@app-cfg") :
    generator.DeclaredIn localProject ["internal", "generated"] localStruct := by
  refine ⟨_, List.mem_singleton_self _, ⟨"g.go", by decide, by decide⟩, _,
    List.mem_singleton_self _, ?_⟩
  rw [marker]
  decide +kernel

/-- A destination with idle slashes is known by its names, and one behind a dot is not. -/
theorem spelling_decides_for_idle_slashes :
    ∃ generator descriptors, Generator.LeadsTo generator localHost localProject []
        ["internal", "generated"] ∧
      generator.config.destination = ⟨"internal//generated/"⟩ ∧
      generator.describe [localStruct] = .ok descriptors ∧
      generator.Recognizes localProject [localStruct] descriptors ["internal", "generated"] ∧
      ¬((generator.toward ⟨"./internal/generated"⟩).describe [localStruct] = .ok descriptors ∧
        (generator.toward ⟨"./internal/generated"⟩).imports localProject [localStruct] =
          generator.imports localProject [localStruct]) := by
  let config : GeneratorConfig := { (default : GeneratorConfig) with
    destination := ⟨"internal//generated/"⟩ }
  let generator : Generator := ⟨config, ⟨WiringTemplate.standardParts⟩, .idle⟩
  have marks : generator.marked localProject = .ok [localStruct] := by decide +kernel
  have describes : generator.describe [localStruct] = .ok [⟨"", "G", "G", []⟩] := by decide +kernel
  have leads : generator.LeadsTo localHost localProject [] ["internal", "generated"] :=
    leadsTo_localProject (by decide) (by decide) (by decide)
  have otherLeads : (generator.toward ⟨"./internal/generated"⟩).LeadsTo localHost localProject []
      ["internal", "generated"] :=
    leadsTo_localProject (by decide) (by decide) (by decide)
  obtain ⟨recognizes, same⟩ := spelling_decides leads marks describes
  have spells : generator.config.destination.Spells ["internal", "generated"] := by decide
  have apart : ∀ mod, localProject.mod? = some mod ->
      mod.importPath (sourcePath ["internal", "generated"]) ∉ supportImports := by
    rintro mod declares
    cases declares
    decide
  refine ⟨generator, _, leads, rfl, describes, recognizes.2 ⟨.inr spells, apart⟩, ?_⟩
  rw [same _ otherLeads]
  rintro (vacant | spelt)
  · exact vacant localStruct (by decide) (declaredIn_localProject rfl)
  · exact absurd (spelt.1 spells) (by decide)

/-- A dot in front of the destination makes its struct a foreign one, and the generated file
imports its own package. -/
theorem not_recognizes_of_leading_dot :
    ∃ generator descriptors, Generator.LeadsTo generator localHost localProject []
        ["internal", "generated"] ∧
      generator.config.destination = ⟨"./internal/generated"⟩ ∧
      generator.descriptors localProject = .ok descriptors ∧
      descriptors.map Descriptor.specType = ["generated.G"] ∧
      "example.com/shop/internal/generated" ∈ generator.imports localProject [localStruct] ∧
      ¬generator.Recognizes localProject [localStruct] descriptors ["internal", "generated"] := by
  let config : GeneratorConfig := { (default : GeneratorConfig) with
    destination := ⟨"./internal/generated"⟩ }
  let generator : Generator := ⟨config, ⟨WiringTemplate.standardParts⟩, .idle⟩
  have imported :
      "example.com/shop/internal/generated" ∈ generator.imports localProject [localStruct] := by
    decide +kernel
  refine ⟨generator, [⟨"", "G", "generated.G", []⟩],
    leadsTo_localProject (by decide) (by decide) (by decide), rfl, by decide +kernel, rfl,
    imported, fun recognizes => ?_⟩
  exact recognizes.absent ⟨"example.com/shop"⟩ rfl imported

end Generator
end ConfigWiring
