import ConfigWiring.Proofs.EnvFile.Continuation
import ConfigWiring.Proofs.Generator.StructListing
import ConfigWiring.Proofs.Generator.Writing
import ConfigWiring.Proofs.Host.Landing

/-!
# Generating twice

The generated file may lie among the sources that the next run reads.  The next run says the
same and writes the same exactly if the generated file, should it be among them, can be read and
adds no struct.
-/

namespace ConfigWiring

open Project

namespace Project

variable {host : Host} {root : Path} {project : Project}

/-- A project is loaded from a directory that opens, from its module and its sources. -/
theorem load_eq_ok :
    load host root = .ok project ↔
      ∃ place mod? files, host.files.openDirectory host.place root = .ok place ∧
        moduleOf host.files root place = .ok mod? ∧
          ((entriesAt host.files place).sources.mapM fun (names, bytes) =>
            readSource root names bytes) = .ok files ∧
          project = ⟨root, mod?, files⟩ := by
  unfold load
  cases host.files.openDirectory host.place root with
  | error fault => simp
  | ok place =>
      cases declared : moduleOf host.files root place with
      | error failure => simp [bind, Except.bind, declared]
      | ok mod? =>
          cases read : (entriesAt host.files place).sources.mapM fun (names, bytes) =>
              readSource root names bytes with
          | error failure => simp [bind, Except.bind, declared, read]
          | ok files => simp [bind, Except.bind, pure, Except.pure, declared, read, eq_comm]

/-- A project in the working directory with one source is loaded. -/
theorem load_of_source
    {names : Place}
    {source text : String}
    {mod : Go.Module}
    {file : Go.SourceFile}
    (here : host.files.shapeAt? host.place = some .directory)
    (declared : host.files.readNamed host.place moduleFileName = .ok text)
    (parsed : Go.Module.parse? text = some mod)
    (sources : (entriesAt host.files host.place).sources = [(names, source.toUTF8)])
    (read : Go.parseSource (sourcePath names) source = .ok file) :
    load host ⟨"."⟩ = .ok ⟨⟨"."⟩, some mod, [file]⟩ := by
  have moduleRead : moduleOf host.files ⟨"."⟩ host.place = .ok (some mod) := by
    simp only [moduleOf, declared, parsed]
  refine load_eq_ok.2 ⟨host.place, _, [file], Host.openDirectory_dot here, moduleRead, ?_, rfl⟩
  rw [sources]
  refine mapM_cons_eq_ok.2 ⟨file, [], ?_, rfl, rfl⟩
  simp only [readSource, FileTree.fromUTF8?_toUTF8]
  exact read

end Project

namespace Generator

variable {generator : Generator} {project : Project} {further : List Descriptor}
  {host behind : Host} {report : GenerationReport}

/-- A template that can be read makes a generator. -/
theorem make_eq_of_parse
    {config : GeneratorConfig}
    {text : String}
    {nodes : Template.Nodes}
    (given : config.template? = some text)
    (parsed : Template.parse text = .ok nodes)
    (formatter : ImportFormatter) :
    make config formatter = .ok ⟨config, ⟨nodes⟩, formatter⟩ := by
  rw [make, given, Option.getD_some, WiringTemplate.parse, parsed]

/-- The text of a source with one struct, which is marked and has one field. -/
def databaseText : String :=
  "package config\n\n// @app-cfg (prefix:\"DB\")\ntype Db struct \x7b\n\tHost string\n\x7d\n"

/-- What is read of that text. -/
def databaseSource : Go.SourceFile :=
  ⟨⟨"db.go"⟩, "config",
    [⟨"config", ⟨""⟩, "Db", "@app-cfg (prefix:\"DB\")", .struct, [⟨"Host", ""⟩]⟩]⟩

/-- The struct of that source with its tag read. -/
def databaseStruct : MarkedType :=
  ⟨"@app-cfg", "config", "Db", ⟨""⟩, ⟨[("prefix", "DB")]⟩, .struct, [⟨"Host", ⟨[]⟩⟩]⟩

/-- What is generated for that struct. -/
def databaseDescriptor : Descriptor := ⟨"", "DB", "config.Db", [⟨"DB_HOST", ""⟩]⟩

theorem parseSource_databaseText :
    Go.parseSource (sourcePath ["db.go"]) databaseText = .ok databaseSource := by
  decide +kernel

theorem marked_databaseSource
    (standard : generator.config.tagName = defaultMarker)
    (root : Path)
    (mod? : Option Go.Module) :
    generator.marked ⟨root, mod?, [databaseSource]⟩ = .ok [databaseStruct] := by
  rw [marked, standard]
  show (Scanner.mk defaultMarker).scanFiles [databaseSource] = .ok [databaseStruct]
  decide +kernel

/-- A generator that names constructors as they are given, for another package than that of the
struct. -/
theorem describe_databaseStruct
    (verbatim : generator.config.ctorPolicy = .verbatim)
    (foreign : generator.isLocal databaseStruct = false) :
    generator.describe [databaseStruct] = .ok [databaseDescriptor] := by
  have one : generator.describeOne databaseStruct = .ok databaseDescriptor := by
    rw [describeOne, verbatim, foreign]
    decide +kernel
  exact mapM_cons_eq_ok.2 ⟨_, [], one, rfl, rfl⟩

/-- The generated file of a project. -/
def target (generator : Generator) (project : Project) : Path :=
  project.resolve generator.config.targetPath

/-- The env file of a project. -/
def envFile (generator : Generator) (project : Project) : Path :=
  project.resolve generator.config.envFile

/-- Behind a run the project can be loaded, described and written once more, and the second run
has the same descriptors and leaves the same text in the generated file. -/
def Repeats
    (generator : Generator)
    (project : Project)
    (further : List Descriptor)
    (report : GenerationReport)
    (behind : Host) : Prop :=
  ∃ project' report' behind' text,
    Project.load behind project.root = .ok project' ∧
      (generator.generate project' further).on behind = (.ok report', behind') ∧
      report'.written = true ∧
      report'.descriptors = report.descriptors ∧
      behind.files.readText behind.place (generator.target project) = .ok text ∧
      behind'.files.readText behind'.place (generator.target project) = .ok text

/-- What a run writes leaves the project where it was: its directory and its module are found as
before, the directory of the generated file still opens, and if names were added to the env file
then that is still found, is another file and is no source. -/
structure Undisturbed
    (generator : Generator)
    (project : Project)
    (host : Host)
    (report : GenerationReport)
    (behind : Host)
    (place : Place) : Prop where
  /-- The directory of the project opens. -/
  root : ∃ opened, behind.files.openDirectory behind.place project.root = .ok opened
  /-- The module reads as before. -/
  moduleFile : behind.files.readNamed place moduleFileName =
    host.files.readNamed place moduleFileName
  /-- The directory of the generated file opens. -/
  target : ∃ spot, behind.spot? (generator.target project) = some spot
  /-- An env file that was written is found and is neither the generated file nor a source. -/
  envFile : ∀ sync, report.sync? = some sync -> sync.added ≠ [] ->
    (∃ spot, behind.spot? (generator.envFile project) = some spot ∧
      behind.spot? (generator.target project) ≠ some spot) ∧
    ∀ name, (generator.envFile project).fileName? = some name -> isSourceName name = false

/-! ## Behind the first run -/

/-- The host behind a run that wrote: the generated file stands where its path leads, and the
sources of the project differ there only. -/
structure Settled
    (generator : Generator)
    (project : Project)
    (host : Host)
    (text : String)
    (behind : Host)
    (place opened : Place)
    (name : String)
    (mode : Nat) : Prop where
  /-- The path of the generated file ends in a name. -/
  ends : FileTree.EndsIn (generator.target project) name
  /-- It ends in no slash. -/
  unslashed : (generator.target project).endsInSlash = false
  /-- Its directory opens. -/
  opens : behind.files.openDirectory behind.place (generator.target project).directory = .ok opened
  /-- The file has the text, and the permission bits are such as the umask leaves. -/
  stands : behind.files.at? (opened ++ [name]) =
    some (.file (FileTree.masked behind.umask mode) text.toUTF8)
  /-- The directory of the project opens at the same place. -/
  root : behind.files.openDirectory behind.place project.root = .ok place
  /-- The sources differ at the generated file only. -/
  differ : DifferAt place (opened ++ [name]) text.toUTF8 (entriesAt host.files place).sources
    (entriesAt behind.files place).sources

variable {marked : List MarkedType} {descriptors : List Descriptor} {text : String}
  {written : Host} {place : Place}

/-- Bringing the env file up to date keeps the working directory and the umask, and takes no file
away. -/
theorem Seeds.keeps
    {sync? : Option SyncReport}
    (seeds : generator.Seeds project descriptors host sync? behind) :
    behind.place = host.place ∧ behind.umask = host.umask ∧ host.files.Grown behind.files := by
  cases sync? with
  | none =>
      obtain ⟨_, rfl⟩ := seeds
      exact ⟨rfl, rfl, .refl _⟩
  | some sync =>
      obtain ⟨_, synchronized⟩ := seeds
      obtain ⟨place, umask, _, _⟩ := EnvFile.files_of_synchronize synchronized
      exact ⟨place, umask, EnvFile.grown_of_synchronize synchronized⟩

/-- Bringing the env file up to date leaves the generated file as it is. -/
theorem Seeds.at?_eq
    {sync? : Option SyncReport}
    (seeds : generator.Seeds project descriptors host sync? behind)
    {spot : Place}
    {mode : Nat}
    {bytes : ByteArray}
    (file : host.files.at? spot = some (.file mode bytes))
    (apart : ∀ sync, sync? = some sync -> sync.added ≠ [] ->
      ∃ other, behind.spot? (generator.envFile project) = some other ∧ other ≠ spot) :
    behind.files.at? spot = some (.file mode bytes) := by
  cases sync? with
  | none =>
      obtain ⟨_, rfl⟩ := seeds
      exact file
  | some sync =>
      obtain ⟨_, synchronized⟩ := seeds
      exact EnvFile.at?_of_synchronize synchronized file (apart sync rfl)

/-- Bringing the env file up to date changes no source. -/
theorem Seeds.differAt
    {sync? : Option SyncReport}
    (seeds : generator.Seeds project descriptors host sync? behind)
    {root : Place}
    (here : host.files.shapeAt? root = some .directory)
    (hereBehind : behind.files.shapeAt? root = some .directory)
    (target : Place)
    (bytes : ByteArray)
    (foreign : ∀ sync, sync? = some sync -> sync.added ≠ [] ->
      ∀ name, (generator.envFile project).fileName? = some name -> isSourceName name = false) :
    DifferAt root target bytes (entriesAt host.files root).sources
      (entriesAt behind.files root).sources := by
  cases sync? with
  | none =>
      obtain ⟨_, rfl⟩ := seeds
      exact .refl _
  | some sync =>
      obtain ⟨_, synchronized⟩ := seeds
      exact EnvFile.differAt_of_synchronize synchronized here hereBehind (foreign sync rfl)

/-- Replacing a file makes directories, which changes no source, and puts the file into the
directory of its path. -/
theorem exists_put_of_replaceFile
    {path : Path}
    (replaced : host.replaceFile path text = (.ok (), written)) :
    ∃ files opened name mode,
      FileTree.EndsIn path name ∧ path.endsInSlash = false ∧
        files.openDirectory host.place path.directory = .ok opened ∧
        files.shapeAt? (opened ++ [name]) ≠ some .directory ∧
        host.files.Grown files ∧
        (∀ root target bytes, host.files.shapeAt? root = some .directory ->
          files.shapeAt? root = some .directory ∧
            DifferAt root target bytes (entriesAt host.files root).sources
              (entriesAt files root).sources) ∧
        written = { host with files := files.put opened name (.file
          (FileTree.masked host.umask mode) text.toUTF8) } := by
  obtain ⟨files, place, name, ensured, located, unslashed, free, rfl⟩ :=
    Host.replaceFile_eq_ok replaced
  have made : (host.files.ensureDirectory host.umask host.place path.directory).1 = files := by
    rw [ensured]
  obtain ⟨opened, opens⟩ := FileTree.openDirectory_of_ensureDirectory ensured
  obtain rfl := FileTree.eq_of_openDirectory_of_locateName opens located
  refine ⟨files, opened, name, _, (FileTree.locateName_eq_ok_iff.1 located).1, unslashed, opens,
    free, ?_, fun root target bytes here => ?_, rfl⟩
  · rw [← made]
    exact FileTree.grown_ensureDirectory _ _ _ _
  · rw [← made]
    exact FileTree.differAt_ensureDirectory here _ _ _ _ _

/-- A run that wrote leaves its file where the path leads, unless the run disturbed it. -/
theorem Writing.exists_settled
    (writing : generator.Writing project further host marked descriptors text written report.sync?
      behind)
    (opensRoot : host.files.openDirectory host.place project.root = .ok place)
    (undisturbed : generator.Undisturbed project host report behind place) :
    ∃ opened name mode, generator.Settled project host text behind place opened name mode := by
  obtain ⟨files, opened, name, mode, ends, unslashed, opens, free, grownMade, sourcesMade, rfl⟩ :=
    exists_put_of_replaceFile writing.replaces
  obtain ⟨samePlace, sameUmask, grownSeeds⟩ := writing.seeds.keeps
  simp only [Host.tell] at opens grownMade sourcesMade samePlace sameUmask grownSeeds
  have there := (FileTree.openDirectory_eq_ok opens).2
  have grownPut : files.Grown
      (files.put opened name (.file (FileTree.masked host.umask mode) text.toUTF8)) :=
    .put free (.inl rfl)
  -- Where the generated file and the project are found behind the run.
  obtain ⟨spot, leads⟩ := undisturbed.target
  obtain ⟨openedBehind, nameBehind, named, opensBehind, rfl⟩ := Host.spot?_eq_some.1 leads
  have nameSame := (Path.fileName?_of_getLast? ends.last).symm.trans named
  obtain rfl := Option.some.inj nameSame
  have openedSame : openedBehind = opened := by
    rw [samePlace] at opensBehind
    exact (grownPut.trans grownSeeds).akin.openDirectory_eq opens opensBehind
  subst openedSame
  have opensRootBehind : behind.files.openDirectory behind.place project.root = .ok place := by
    obtain ⟨found, opensFound⟩ := undisturbed.root
    have same := opensFound
    rw [samePlace] at same
    rw [opensFound,
      ((grownMade.trans grownPut).trans grownSeeds).akin.openDirectory_eq opensRoot same]
  -- The directory of the project is there at every step.
  have hereBehind := (FileTree.openDirectory_eq_ok opensRootBehind).2
  obtain ⟨hereMade, differMade⟩ := sourcesMade place (openedBehind ++ [name]) text.toUTF8
    (FileTree.openDirectory_eq_ok opensRoot).2
  have herePut : (files.put openedBehind name
      (.file (FileTree.masked host.umask mode) text.toUTF8)).shapeAt? place = some .directory := by
    rcases grownSeeds.shape place .directory (by simp) hereBehind with here | nothing
    · exact here
    · rw [grownPut.absent place nothing] at hereMade
      cases hereMade
  obtain ⟨outer, entries, thereNode⟩ := FileTree.shapeAt?_eq_directory.1 there
  refine ⟨openedBehind, name, mode, ends, unslashed, opensBehind, ?_, opensRootBehind, ?_⟩
  · rw [sameUmask]
    refine writing.seeds.at?_eq (FileTree.at?_put thereNode name _) ?_
    intro sync synced something
    obtain ⟨⟨other, found, apart⟩, _⟩ := undisturbed.envFile sync synced something
    rw [leads] at apart
    exact ⟨other, found, fun same => apart (congrArg some same.symm)⟩
  · have outside := FileTree.not_prefix_of_put_file there herePut
    have differPut := FileTree.differAt_put_file outside free (FileTree.masked host.umask mode)
      text.toUTF8
    have differSeeds := writing.seeds.differAt herePut hereBehind (openedBehind ++ [name])
      text.toUTF8 fun sync synced something => (undisturbed.envFile sync synced something).2
    exact (differMade.trans differPut).trans differSeeds

/-! ## The second run -/

namespace Settled

variable {opened : Place} {name : String} {mode : Nat}

/-- The generated file is read through its path. -/
theorem readText
    (settled : generator.Settled project host text behind place opened name mode) :
    behind.files.readText behind.place (generator.target project) = .ok text := by
  have located := FileTree.locateName_of_openDirectory settled.ends settled.opens
  exact FileTree.readText_of_file settled.ends settled.unslashed
    (FileTree.locateName_eq_ok_iff.1 located).2 settled.stands

/-- The generated file is still read through its path when another file has been written over. -/
theorem readText_of_put
    (settled : generator.Settled project host text behind place opened name mode)
    {spot : Place}
    {other : String}
    {old new : ByteArray}
    {mode' mode'' : Nat}
    (standing : behind.files.at? (spot ++ [other]) = some (.file mode' old))
    (apart : spot ++ [other] ≠ opened ++ [name]) :
    (behind.files.put spot other (.file mode'' new)).readText behind.place
      (generator.target project) = .ok text := by
  have covers : (behind.files.put spot other (.file mode'' new)).Covers behind.files :=
    FileTree.covers_put_over_file standing
  have free : behind.files.shapeAt? (spot ++ [other]) ≠ some .directory := by
    rw [FileTree.shapeAt?, standing]
    simp [FileNode.shape]
  exact FileTree.readText_of_file settled.ends settled.unslashed
    (covers.follow_directory settled.ends.last settled.opens).1
    (FileTree.at?_put_of_file settled.stands
      (FileTree.not_prefix_of_free settled.stands free apart))

/-- Writing the same text once more changes nothing. -/
theorem replaceFile
    (settled : generator.Settled project host text behind place opened name mode)
    (notices : List Notice) :
    (behind.tell notices).replaceFile (generator.target project) text =
      (.ok (), behind.tell notices) :=
  Host.replaceFile_of_same settled.ends settled.unslashed settled.opens settled.stands

/-- The sources of the project before are those behind that are not the generated file. -/
theorem sources_eq
    (settled : generator.Settled project host text behind place opened name mode)
    (new : ∀ source ∈ (entriesAt host.files place).sources,
      place ++ source.1 ≠ opened ++ [name]) :
    (entriesAt behind.files place).sources.filter (isApart place (opened ++ [name])) =
      (entriesAt host.files place).sources := by
  rw [settled.differ.kept, List.filter_eq_self]
  intro source present
  simpa [isApart] using new source present

end Settled

/-- The env file can be brought up to date once more, which leaves the generated file alone. -/
theorem exists_seeds_again
    {opened : Place}
    {name : String}
    {mode : Nat}
    {first : Host}
    (after : Host)
    (settled : generator.Settled project host text behind place opened name mode)
    (undisturbed : generator.Undisturbed project host report behind place)
    (seeds : generator.Seeds project descriptors first report.sync? behind)
    (files : after.files = behind.files)
    (samePlace : after.place = behind.place) :
    ∃ sync? final, generator.Seeds project descriptors after sync? final ∧
      final.files.readText final.place (generator.target project) = .ok text := by
  cases synced : report.sync? with
  | none =>
      rw [synced] at seeds
      refine ⟨none, after, ⟨seeds.1, rfl⟩, ?_⟩
      rw [files, samePlace]
      exact settled.readText
  | some sync =>
      rw [synced] at seeds
      obtain ⟨dotenv, synchronized⟩ := seeds
      have opensEnv (something : sync.added ≠ []) : ∃ found,
          behind.files.openDirectory behind.place (generator.envFile project).directory =
            .ok found := by
        obtain ⟨⟨spot, leads, _⟩, _⟩ := undisturbed.envFile sync synced something
        obtain ⟨found, _, _, opens, _⟩ := Host.spot?_eq_some.1 leads
        exact ⟨found, opens⟩
      obtain ⟨again, final, synchronizedAgain, finalPlace, unchanged | ⟨something, spot, other,
        mode', old, mode'', new, named, opens, standing, put⟩⟩ :=
        EnvFile.exists_synchronize_again synchronized files samePlace opensEnv
      · refine ⟨some again, final, ⟨dotenv, synchronizedAgain⟩, ?_⟩
        rw [unchanged, finalPlace]
        exact settled.readText
      · refine ⟨some again, final, ⟨dotenv, synchronizedAgain⟩, ?_⟩
        obtain ⟨⟨found, leads, apart⟩, _⟩ := undisturbed.envFile sync synced something
        have here : behind.spot? (generator.envFile project) = some (spot ++ [other]) :=
          Host.spot?_eq_some.2 ⟨spot, other, named, opens, rfl⟩
        have target : behind.spot? (generator.target project) = some (opened ++ [name]) :=
          Host.spot?_eq_some.2 ⟨opened, name, Path.fileName?_of_getLast? settled.ends.last,
            settled.opens, rfl⟩
        rw [here] at leads
        obtain rfl := Option.some.inj leads
        rw [target] at apart
        rw [put, finalPlace]
        exact settled.readText_of_put standing fun same => apart (congrArg some same.symm)

/-- Two ways to give a text to a wiring file with the same structs give the same text. -/
theorem render_again
    {environment environment' : Environment}
    {file : WiringFile}
    (standard : generator.template = ⟨WiringTemplate.standardParts⟩)
    (rendered : generator.template.render environment file = .ok (.source text)) :
    generator.template.render environment' file = .ok (.source text) := by
  obtain ⟨something, rfl⟩ := text_eq_of_render standard rendered
  rw [standard, WiringTemplate.render_standardParts something]

section Again

variable {opened : Place} {name : String} {mode : Nat} {root : Path}

/-- If the generated file adds no struct then the run can be repeated. -/
theorem repeats_of_structsIn
    (idle : generator.formatter = .idle)
    (standard : generator.template = ⟨WiringTemplate.standardParts⟩)
    (loaded : Project.load host root = .ok project)
    (opensRoot : host.files.openDirectory host.place project.root = .ok place)
    (writing : generator.Writing project further host marked report.descriptors text written
      report.sync? behind)
    (undisturbed : generator.Undisturbed project host report behind place)
    (settled : generator.Settled project host text behind place opened name mode)
    (new : ∀ source ∈ (entriesAt host.files place).sources, place ++ source.1 ≠ opened ++ [name])
    (quiet : ∀ source ∈ (entriesAt behind.files place).sources,
      place ++ source.1 = opened ++ [name] -> generator.structsIn project.root source = .ok []) :
    generator.Repeats project further report behind := by
  obtain ⟨found, mod?, files, opens, declared, read, rfl⟩ := load_eq_ok.1 loaded
  obtain rfl : found = place := Except.ok.inj (opens.symm.trans opensRoot)
  -- The sources behind have the structs of those before.
  obtain ⟨parts, told, flat⟩ := exists_marked_iff.1 ⟨files, marked, read, writing.marks, rfl⟩
  rw [← settled.sources_eq new] at told
  obtain ⟨all, every, same⟩ := (mapM_filter_iff told).2 fun source present there =>
    quiet source present (by simpa [isApart] using there)
  obtain ⟨files', marked', read', marks', structs⟩ :=
    exists_marked_iff.2 ⟨all, every, same.trans flat⟩
  have loadedAgain : Project.load behind root = .ok ⟨root, mod?, files'⟩ := by
    refine load_eq_ok.2 ⟨found, mod?, files', settled.root, ?_, read', rfl⟩
    rw [← declared, moduleOf, moduleOf, undisturbed.moduleFile]
  -- So the second run writes the same text over the file, which is no change.
  have renders : generator.template.render behind.environment
      (generator.wiringFile ⟨root, mod?, files'⟩ marked' report.descriptors) =
        .ok (.source text) := by
    have same : generator.wiringFile ⟨root, mod?, files'⟩ marked' report.descriptors =
        generator.wiringFile ⟨root, mod?, files⟩ marked report.descriptors :=
      wiringFile_congr rfl structs _
    rw [same]
    exact render_again standard writing.renders
  obtain ⟨sync?, final, seeds, kept⟩ := exists_seeds_again
    ((behind.tell (generator.importNotices ⟨root, mod?, files'⟩ marked')).tell
      [.wiringGenerated (generator.target ⟨root, mod?, files⟩) report.descriptors.length])
    settled undisturbed writing.seeds rfl rfl
  have again : generator.Writing ⟨root, mod?, files'⟩ further behind marked' report.descriptors
      text (behind.tell (generator.importNotices ⟨root, mod?, files'⟩ marked')) sync? final :=
    { marks := marks'
      describes := (describe_congr structs).trans writing.describes
      renders
      replaces := settled.replaceFile _
      seeds }
  exact ⟨_, _, final, text, loadedAgain, again.generate idle, rfl, rfl, settled.readText, kept⟩

/-- If the run can be repeated then the generated file adds no struct. -/
theorem structsIn_of_repeats
    (idle : generator.formatter = .idle)
    (loaded : Project.load host root = .ok project)
    (opensRoot : host.files.openDirectory host.place project.root = .ok place)
    (writing : generator.Writing project further host marked report.descriptors text written
      report.sync? behind)
    (settled : generator.Settled project host text behind place opened name mode)
    (new : ∀ source ∈ (entriesAt host.files place).sources, place ++ source.1 ≠ opened ++ [name])
    (repeated : generator.Repeats project further report behind) :
    ∀ source ∈ (entriesAt behind.files place).sources,
      place ++ source.1 = opened ++ [name] -> generator.structsIn project.root source = .ok [] := by
  obtain ⟨found, mod?, files, opens, _, read, rfl⟩ := load_eq_ok.1 loaded
  obtain rfl : found = place := Except.ok.inj (opens.symm.trans opensRoot)
  obtain ⟨project', report', behind', _, loadedAgain, generated, wrote, same, _⟩ := repeated
  obtain ⟨found', _, files', opens', _, read', rfl⟩ := load_eq_ok.1 loadedAgain
  obtain rfl : found' = found := Except.ok.inj (opens'.symm.trans settled.root)
  obtain ⟨marked', _, _, again, _⟩ := exists_writing idle generated wrote
  obtain ⟨parts, told, flat⟩ := exists_marked_iff.1 ⟨files, marked, read, writing.marks, rfl⟩
  obtain ⟨all, every, flat'⟩ := exists_marked_iff.1 ⟨files', marked', read', again.marks, rfl⟩
  rw [← settled.sources_eq new] at told
  -- As many structs are described as before, and those before are among them.
  have lengths : all.flatten.length = parts.flatten.length := by
    rw [flat, flat', ← length_of_mapM writing.describes, ← length_of_mapM again.describes, same]
  have equal := (flatten_sublist_of_mapM_filter told every).eq_of_length lengths.symm
  intro source present there
  exact (mapM_filter_iff told).1 ⟨all, every, equal.symm⟩ source present
    (by simpa [isApart] using there)

end Again

end Generator
end ConfigWiring
