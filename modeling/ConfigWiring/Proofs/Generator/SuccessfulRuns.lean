import ConfigWiring.Proofs.EnvFile.Agreement
import ConfigWiring.Proofs.Generator.FailedRuns
import ConfigWiring.Proofs.Host.Landing

/-!
# Runs that succeed

A run of the generator that succeeds has either written its file, and then brought the env file up
to date if that is asked for, or found no marked struct and left nothing where its file would be.
Every other file and link is as it was.  The generated file keeps its text, unless the env file
takes its place.
-/

namespace ConfigWiring

open FileTree (ChangedOnlyAt)

namespace Generator

variable {generator : Generator} {project : Project} {further : List Descriptor}
  {host behind : Host} {report : GenerationReport}

/-- The structs of a project are described, and its wiring file is rendered. -/
def Renders
    (generator : Generator)
    (project : Project)
    (environment : Environment)
    (descriptors : List Descriptor)
    (rendered : Rendered) : Prop :=
  ∃ marked, generator.marked project = .ok marked ∧
    generator.describe marked = .ok descriptors ∧
      generator.template.render environment (generator.wiringFile project marked descriptors) =
        .ok rendered

/-- The place where a run has put the env file behind its own file, if it has. -/
def seededSpot?
    (generator : Generator)
    (project : Project)
    (report : GenerationReport)
    (written : Host) : Option Place :=
  report.sync?.bind fun sync =>
    if sync.persisted then written.landing? (generator.envFile project) else none

/-! ## Runs that write -/

/-- A run has written its file, which landed at a spot, and has then brought the env file up to date
if that is asked for. -/
structure Wrote
    (generator : Generator)
    (project : Project)
    (further : List Descriptor)
    (host : Host)
    (report : GenerationReport)
    (text : String)
    (spot : Place)
    (written behind : Host) : Prop where
  /-- The descriptors and the text are those of the project. -/
  renders : generator.Renders project host.environment report.descriptors (.source text)
  /-- There is something to wire. -/
  something : report.descriptors ≠ []
  /-- The report names the file, which was written and not removed. -/
  reports : report.target = generator.target project ∧ report.written = true ∧
    report.removed = false
  /-- The report has a part on the env file exactly if that was to be brought up to date. -/
  asked : report.sync?.isSome = generator.config.dotenv
  /-- The file has landed. -/
  landed : Host.Landed (generator.target project) text host written spot
  /-- Then the env file was brought up to date, with all descriptors. -/
  seeds : generator.Seeds project (report.descriptors ++ further) written report.sync? behind
  /-- The file has its text, unless the env file took its place. -/
  holds : generator.seededSpot? project report written ≠ some spot ->
    ∃ mode, behind.files.at? spot = some (.file mode text.toUTF8)
  /-- The path of the file leads nowhere else. -/
  leads : ∀ other, behind.spot? (generator.target project) = some other -> other = spot
  /-- The env file is put where it would have been before the file was written, if that was
  anywhere. -/
  stays : ∀ before after, host.landing? (generator.envFile project) = some before ->
    generator.seededSpot? project report written = some after -> after = before
  /-- Every other file and link is as before, and every other directory is there. -/
  spared : ∀ place, place ≠ spot -> generator.seededSpot? project report written ≠ some place ->
    behind.files.leafAt? place = host.files.leafAt? place ∧
      (host.files.shapeAt? place = some .directory ->
        behind.files.shapeAt? place = some .directory)

/-- To bring the env file up to date changes the env file only, by a new file. -/
theorem changed_of_seeds
    {written : Host}
    {descriptors : List Descriptor}
    (seeds : generator.Seeds project descriptors written report.sync? behind) :
    report.sync?.isSome = generator.config.dotenv ∧ behind.place = written.place ∧
      ChangedOnlyAt (generator.seededSpot? project report written) written.files behind.files ∧
        written.files.ChangedByFiles behind.files := by
  unfold seededSpot?
  cases sync? : report.sync? with
  | none =>
      rw [sync?] at seeds
      obtain ⟨off, rfl⟩ := seeds
      exact ⟨off.symm, rfl, .refl _ _, .refl _⟩
  | some sync =>
      rw [sync?] at seeds
      obtain ⟨on, synchronized⟩ := seeds
      refine ⟨on.symm, (EnvFile.synchronize_eq_ok synchronized).2.1, ?_,
        EnvFile.changedByFiles_of_synchronize synchronized⟩
      cases persisted : sync.persisted with
      | false =>
          rw [EnvFile.files_eq_of_unpersisted synchronized persisted]
          exact .refl _ _
      | true =>
          have changed := EnvFile.changedOnlyAt_of_synchronize synchronized
          rw [Option.bind_some, persisted, if_pos rfl]
          exact changed

/-- A run that reports that it wrote has done so. -/
theorem exists_wrote
    (idle : generator.formatter = .idle)
    (generated : (generator.generate project further).on host = (.ok report, behind))
    (wrote : report.written = true) :
    ∃ text spot written, generator.Wrote project further host report text spot written behind := by
  obtain ⟨marked, text, replaced, writing, _⟩ := exists_writing idle generated wrote
  obtain ⟨spot, landedFirst⟩ := Host.landed_of_replaceFile writing.replaces
  obtain ⟨reported, _⟩ := Prod.mk.inj ((writing.generate idle).symm.trans generated)
  obtain ⟨written, told⟩ : ∃ written, replaced.tell [.wiringGenerated (generator.target project)
    report.descriptors.length] = written := ⟨_, rfl⟩
  have landed : Host.Landed (generator.target project) text host written spot :=
    told ▸ landedFirst.tell _
  have seeds : generator.Seeds project (report.descriptors ++ further) written report.sync?
      behind := told ▸ writing.seeds
  obtain ⟨asked, place, changed, changedByFiles⟩ := changed_of_seeds seeds
  refine ⟨text, spot, written,
    { renders := ⟨marked, writing.marks, writing.describes, writing.renders⟩
      something := fun nothing => ?_
      reports := ?_
      asked
      landed
      seeds
      holds := fun elsewhere => ?_
      leads := fun other leads => ?_
      stays := fun before after lands seeded => ?_
      spared := fun place away elsewhere => ?_ }⟩
  · have renders := writing.renders
    rw [WiringTemplate.render_empty _ _ nothing] at renders
    cases renders
  · rw [← Except.ok.inj reported]
    exact ⟨rfl, rfl, rfl⟩
  · -- The file is a leaf other than the env file.
    obtain ⟨mode, there⟩ := landed.there
    refine ⟨mode, ?_⟩
    rwa [← FileTree.leafAt?_eq_file_iff, changed.leaf spot elsewhere, FileTree.leafAt?_eq_file_iff]
  · -- All that is new in the files since the directory of the file was made are files.
    have akin : (host.prepared (generator.target project)).files.Akin behind.files := by
      refine FileTree.ChangedByFiles.akin fun place unfiled => ?_
      rw [landed.changedByFiles.trans changedByFiles place unfiled,
        (host.changedOnlyAt_prepared (generator.target project)).leaf place (by simp)]
    refine Host.spot?_eq_of_akin ?_ akin landed.lands leads
    rw [place, landed.place, Host.prepared_place]
  · obtain ⟨_, _, put⟩ := Option.bind_eq_some_iff.1 seeded
    obtain ⟨_, landsBehind⟩ := Option.ite_none_right_eq_some.1 put
    exact Host.landing?_eq_of_akin landed.place (landed.akin _) lands landsBehind
  · refine ⟨?_, fun directory => ?_⟩
    · rw [changed.leaf place elsewhere]
      exact landed.changed.leaf place (by simpa using Ne.symm away)
    · exact changed.directory place elsewhere
        (landed.changed.directory place (by simpa using Ne.symm away) directory)

/-! ## Runs that clear -/

/-- A run has found no marked struct, and has left nothing where its file would be. -/
structure Cleared
    (generator : Generator)
    (project : Project)
    (host : Host)
    (report : GenerationReport)
    (behind : Host) : Prop where
  /-- There is nothing to wire. -/
  renders : generator.Renders project host.environment [] .empty
  /-- The report names the file, which was not written, and has no part on the env file. -/
  reports : report.target = generator.target project ∧ report.written = false ∧
    report.descriptors = [] ∧ report.sync? = none
  /-- There is nothing where the file would be, and nothing else is changed. -/
  emptied : Host.Emptied (generator.target project) report.removed host behind

/-- A run without a text has found no marked struct. -/
theorem eq_nil_of_render_empty
    {template : WiringTemplate}
    {environment : Environment}
    {file : WiringFile}
    (rendered : template.render environment file = .ok .empty) :
    file.descriptors = [] := by
  unfold WiringTemplate.render at rendered
  split at rendered
  · next none => exact List.isEmpty_iff.1 none
  · split at rendered <;> cases rendered

/-- A run with a text reports that it wrote. -/
theorem written_of_finish
    {descriptors : List Descriptor}
    {text : String}
    (finished : (generator.finish project descriptors further (.source text)).on host =
      (.ok report, behind)) :
    report.written = true := by
  obtain ⟨_, middle, _, finished⟩ := on_bind_eq_ok finished
  split at finished
  · obtain ⟨_, _, _, finished⟩ := on_bind_eq_ok finished
    cases finished
    rfl
  · cases finished
    rfl

/-- To clear is to leave nothing where a path leads. -/
theorem emptied_of_clear
    {target : Path}
    (cleared : (clear target).on host = (.ok report, behind)) :
    (report.target = target ∧ report.written = false ∧ report.descriptors = [] ∧
        report.sync? = none) ∧
      Host.Emptied target report.removed host behind := by
  obtain ⟨removed, middle, removes, cleared⟩ := on_bind_eq_ok cleared
  rw [Procedure.on_of] at removes
  have emptied := Host.emptied_of_removeFile removes
  cases removed with
  | false =>
      cases cleared
      exact ⟨⟨rfl, rfl, rfl, rfl⟩, emptied⟩
  | true =>
      cases cleared
      exact ⟨⟨rfl, rfl, rfl, rfl⟩, emptied.tell _⟩

/-- A run that reports that it did not write has cleared. -/
theorem cleared_of_generate
    (generated : (generator.generate project further).on host = (.ok report, behind))
    (unwritten : report.written = false) :
    generator.Cleared project host report behind := by
  obtain ⟨marked, descriptors, rendered, marks, describes, renders, finished⟩ :=
    exists_finish generated
  cases rendered with
  | source text =>
      rw [written_of_finish finished] at unwritten
      cases unwritten
  | empty =>
      have nothing : descriptors = [] := eq_nil_of_render_empty renders
      subst nothing
      obtain ⟨reports, emptied⟩ := emptied_of_clear finished
      exact ⟨⟨marked, marks, describes, renders⟩, reports, emptied.of_tell⟩

/-- What can be removed is cleared. -/
theorem exists_clear
    {target : Path}
    {removed : Bool}
    {middle : Host}
    (removes : host.removeFile target = (.ok removed, middle)) :
    ∃ behind, (clear target).on host = (.ok ⟨target, false, removed, [], none⟩, behind) := by
  have first := (Procedure.on_of (Host.removeFile target) host).trans removes
  rw [clear, Procedure.on_bind_ok first]
  cases removed <;> exact ⟨_, rfl⟩

/-- A run that finds no marked struct succeeds if a file could be put where its file would be. -/
theorem exists_generate_of_nothing
    {marked : List MarkedType}
    {place : Place}
    {name : String}
    (marks : generator.marked project = .ok marked)
    (describes : generator.describe marked = .ok [])
    (accepts : host.Accepts (generator.target project) place name)
    (further : List Descriptor) :
    ∃ removed behind, (generator.generate project further).on host =
      (.ok ⟨generator.target project, false, removed, [], none⟩, behind) := by
  have acceptsTold : (host.tell (generator.importNotices project marked)).Accepts
      (generator.target project) place name :=
    ⟨accepts.ends, accepts.unslashed, accepts.opens, accepts.free⟩
  obtain ⟨removed, middle, removes⟩ := acceptsTold.exists_removeFile
  obtain ⟨behind, cleared⟩ := exists_clear removes
  exact ⟨removed, behind, (on_generate_of_render marks describes
    (WiringTemplate.render_empty _ _ rfl)).trans cleared⟩

/-! ## Runs that succeed -/

/-- A run succeeds if the generated file can be put where it belongs and the env file can behind
that. -/
theorem exists_generate
    {marked : List MarkedType}
    {descriptors : List Descriptor}
    {text : String}
    {place spot : Place}
    {name envName : String}
    (idle : generator.formatter = .idle)
    (asked : generator.config.dotenv = true)
    (marks : generator.marked project = .ok marked)
    (describes : generator.describe marked = .ok descriptors)
    (renders : generator.template.render host.environment
      (generator.wiringFile project marked descriptors) = .ok (.source text))
    (accepts : host.Accepts (generator.target project) place name)
    (acceptsBehind : ∀ mode, Host.Accepts
      { host with files := host.files.put place name (.file mode text.toUTF8) }
      (generator.envFile project) spot envName)
    (further : List Descriptor) :
    ∃ mode written sync behind, written.files = host.files.put place name (.file mode text.toUTF8) ∧
      written.place = host.place ∧ written.environment = host.environment ∧
        (generator.synchronize project (descriptors ++ further)).on written = (.ok sync, behind) ∧
          (generator.generate project further).on host =
            (.ok ⟨generator.target project, true, false, descriptors, some sync⟩, behind) := by
  let told := host.tell (generator.importNotices project marked)
  have acceptsTold : told.Accepts (generator.target project) place name :=
    ⟨accepts.ends, accepts.unslashed, accepts.opens, accepts.free⟩
  obtain ⟨mode, replaces⟩ := acceptsTold.exists_replaceFile text
  let written := Host.tell
    { told with files := host.files.put place name (.file mode text.toUTF8) }
    [.wiringGenerated (generator.target project) descriptors.length]
  have opens : written.files.openDirectory written.place (generator.envFile project).directory =
      .ok spot := (acceptsBehind mode).opens
  obtain ⟨sync, behind, synchronized⟩ := EnvFile.exists_synchronize (acceptsBehind mode).ends
    (acceptsBehind mode).unslashed opens (acceptsBehind mode).free (descriptors ++ further)
  have writing : generator.Writing project further host marked descriptors text _ (some sync)
      behind :=
    { marks
      describes
      renders
      replaces
      seeds := ⟨asked, synchronized⟩ }
  exact ⟨mode, written, sync, behind, rfl, rfl, rfl, synchronized, writing.generate idle⟩

/-- A run that succeeds, with a formatter that does nothing, has either written or cleared. -/
theorem wrote_or_cleared_of_generate
    (idle : generator.formatter = .idle)
    (generated : (generator.generate project further).on host = (.ok report, behind)) :
    (∃ text spot written,
        generator.Wrote project further host report text spot written behind) ∨
      generator.Cleared project host report behind := by
  cases wrote : report.written with
  | true => exact .inl (exists_wrote idle generated wrote)
  | false => exact .inr (cleared_of_generate generated wrote)

/-- A file that is written in the place of an older one keeps its text behind an env file of its
own.  When the struct is gone the next run removes the file and leaves the env file and the
variables alone, although a module asks for one. -/
theorem wrote_and_cleared_beside_own_env_file :
    let host : Host := { (default : Host) with
      files := ⟨.directory 0o755 (.cons ".env" (.file 0o644 "OLD=1\n".toUTF8)
        (.cons "db.go" (.file 0o644 "package config\n".toUTF8)
          (.cons "wiring.go" (.file 0o644 "OLD=2\n".toUTF8) .nil)))⟩ }
    let config : GeneratorConfig := { (default : GeneratorConfig) with
      template? := some "NEW=1\n"
      target? := some ⟨"wiring.go"⟩ }
    let project : Project := ⟨⟨"."⟩, some ⟨"example.com/shop"⟩, [⟨⟨"db.go"⟩, "config",
      [⟨"config", ⟨""⟩, "Db", "@app-cfg (prefix:\"DB\")", .struct, [⟨"Host", ""⟩]⟩]⟩]⟩
    let bare : Project := { project with files := [] }
    ∃ generator report behind report' last, Generator.make config .idle = .ok generator ∧
      (generator.generate project []).on host = (.ok report, behind) ∧
      report.written = true ∧ report.sync?.isSome = true ∧
      behind.files.bytesAt? ["wiring.go"] = some "NEW=1\n".toUTF8 ∧
      behind.files.bytesAt? ["db.go"] = some "package config\n".toUTF8 ∧
      (generator.generate bare [⟨"", "", "", [⟨"NEW", ""⟩]⟩]).on behind = (.ok report', last) ∧
      report'.removed = true ∧ last.files.at? ["wiring.go"] = none ∧
      last.files.leafAt? [".env"] = behind.files.leafAt? [".env"] ∧
      last.environment = behind.environment := by
  intro host config project bare
  let generator : Generator := ⟨config, ⟨.cons (.text "NEW=1\n") .nil⟩, .idle⟩
  let marked : List MarkedType := [databaseStruct]
  let descriptors : List Descriptor := [databaseDescriptor]
  have made : Generator.make config .idle = .ok generator := make_eq_of_parse rfl (by rfl) .idle
  have marks : generator.marked project = .ok marked := marked_databaseSource rfl _ _
  have describes : generator.describe marked = .ok descriptors :=
    describe_databaseStruct rfl (by decide)
  have renders : generator.template.render host.environment
      (generator.wiringFile project marked descriptors) = .ok (.source "NEW=1\n") := rfl
  have target : generator.target project = ⟨"./wiring.go"⟩ := by decide +kernel
  have envFile : generator.envFile project = ⟨"./.env"⟩ := by decide +kernel
  have accepts : host.Accepts (generator.target project) [] "wiring.go" := by
    rw [target]
    exact ⟨by decide, by decide, Host.openDirectory_dot rfl, by decide +kernel⟩
  have acceptsEnv {other : Host} (place : other.place = [])
      (root : other.files.shapeAt? [] = some .directory)
      (regular : other.files.shapeAt? [".env"] = some .file) :
      other.Accepts (generator.envFile project) [] ".env" := by
    rw [envFile]
    exact ⟨by decide, by decide, place ▸ Host.openDirectory_dot (place ▸ root), by simp [regular]⟩
  have acceptsHost : host.Accepts (generator.envFile project) [] ".env" := acceptsEnv rfl rfl rfl
  obtain ⟨_, _, sync, behind, _, _, _, _, generated⟩ :=
    exists_generate rfl rfl marks describes renders accepts (fun _ => acceptsEnv rfl rfl rfl) []
  rcases wrote_or_cleared_of_generate rfl generated with ⟨text, spot, written, wrote⟩ | cleared
  case inr => cases cleared.reports.2.1
  obtain ⟨_, marks', _, renders'⟩ := wrote.renders
  cases marks.symm.trans marks'
  cases renders.symm.trans renders'
  obtain rfl : ["wiring.go"] = spot :=
    Option.some.inj (accepts.landing?_eq.symm.trans wrote.landed.lands)
  -- The env file stays in its place.
  have seeded (place : Place) (away : place ≠ [".env"]) :
      generator.seededSpot? project _ written ≠ some place := fun here =>
    away (wrote.stays _ _ acceptsHost.landing?_eq here)
  obtain ⟨mode, there⟩ := wrote.holds (seeded ["wiring.go"] (by decide))
  have source := FileTree.bytesAt?_eq_of_leafAt?_eq
    (wrote.spared ["db.go"] (by decide) (seeded ["db.go"] (by decide))).1
  have root := (wrote.spared [] (by decide) (seeded [] (by decide))).2 rfl
  have place : behind.place = [] := (changed_of_seeds wrote.seeds).2.1.trans wrote.landed.place
  -- The next run finds the file that this one has written.
  have targetBare : generator.target bare = ⟨"./wiring.go"⟩ := target
  have opens : behind.files.openDirectory behind.place (generator.target bare).directory =
      .ok [] := by
    rw [place, targetBare]
    exact Host.openDirectory_dot root
  have acceptsBehind : behind.Accepts (generator.target bare) [] "wiring.go" :=
    ⟨accepts.ends, accepts.unslashed, opens, by simp [FileTree.shapeAt?, there, FileNode.shape]⟩
  have marksBare : generator.marked bare = .ok [] := by decide +kernel
  obtain ⟨removed, last, generatedBare⟩ :=
    exists_generate_of_nothing marksBare rfl acceptsBehind [⟨"", "", "", [⟨"NEW", ""⟩]⟩]
  rcases wrote_or_cleared_of_generate rfl generatedBare with ⟨_, _, _, wroteBare⟩ | clearedBare
  case inl => cases wroteBare.reports.2.1
  have leads : behind.spot? (generator.target bare) = some ["wiring.go"] :=
    (Host.landing?_of_openDirectory opens).symm.trans acceptsBehind.landing?_eq
  refine ⟨generator, _, behind, _, last, made, generated, rfl, rfl,
    FileTree.bytesAt?_of_file there, source.trans rfl, generatedBare, ?_,
    clearedBare.emptied.absent _ leads,
    clearedBare.emptied.changed.leaf [".env"] (by rw [leads]; decide),
    clearedBare.emptied.environment⟩
  exact clearedBare.emptied.found.2
    ⟨_, leads, by simp [FileTree.leafAt?, there, FileNode.leaf?]⟩

/-- Two paths that differ may lead to one file, and then the generated file is what the env file is
read from and takes the names that are missing. -/
theorem not_text_kept_of_alias :
    let host : Host := { (default : Host) with
      files := ⟨.directory 0o755 (.cons "config" (.directory 0o755 .nil) .nil)⟩ }
    let config : GeneratorConfig := { (default : GeneratorConfig) with
      template? := some "NEW=1\n"
      target? := some ⟨"settings.env"⟩
      envFile := ⟨"config/../settings.env"⟩ }
    let project : Project := ⟨⟨"."⟩, some ⟨"example.com/shop"⟩, [⟨⟨"db.go"⟩, "config",
      [⟨"config", ⟨""⟩, "Db", "@app-cfg (prefix:\"DB\")", .struct, [⟨"Host", ""⟩]⟩]⟩]⟩
    ∃ generator report behind, Generator.make config .idle = .ok generator ∧
      (generator.target project).agrees (generator.envFile project) = false ∧
      (generator.generate project []).on host = (.ok report, behind) ∧
      report.written = true ∧
      generator.Renders project host.environment report.descriptors (.source "NEW=1\n") ∧
      (behind.readOptional (generator.target project)).1 = some "NEW=1\nDB_HOST=\n" := by
  intro host config project
  let generator : Generator := ⟨config, ⟨.cons (.text "NEW=1\n") .nil⟩, .idle⟩
  let marked : List MarkedType := [databaseStruct]
  let descriptors : List Descriptor := [databaseDescriptor]
  have made : Generator.make config .idle = .ok generator := make_eq_of_parse rfl (by rfl) .idle
  have marks : generator.marked project = .ok marked := marked_databaseSource rfl _ _
  have describes : generator.describe marked = .ok descriptors :=
    describe_databaseStruct rfl (by decide)
  have renders : generator.template.render host.environment
      (generator.wiringFile project marked descriptors) = .ok (.source "NEW=1\n") := rfl
  have target : generator.target project = ⟨"./settings.env"⟩ := by decide +kernel
  have envFile : generator.envFile project = ⟨"./config/../settings.env"⟩ := by decide +kernel
  have accepts : host.Accepts (generator.target project) [] "settings.env" := by
    rw [target]
    exact ⟨by decide, by decide, Host.openDirectory_dot rfl, by decide +kernel⟩
  -- The path of the env file goes into a directory and up again, to the generated file.
  have detour {tree : FileTree} (root : tree.shapeAt? [] = some .directory)
      (inner : tree.shapeAt? ["config"] = some .directory) :
      tree.openDirectory [] (generator.envFile project).directory = .ok [] := by
    rw [envFile]
    exact FileTree.openDirectory_of_into_up (by decide) (by decide) (by decide) root inner
  have ends : FileTree.EndsIn (generator.envFile project) "settings.env" := by
    rw [envFile]
    decide
  have free : some Shape.file ≠ some .directory := by decide
  obtain ⟨mode, written, sync, behind, files, place, environment, synchronized, generated⟩ :=
    exists_generate rfl rfl marks describes renders accepts
      (fun _ => ⟨ends, by rw [envFile]; decide, detour rfl rfl, free⟩) []
  have opens : written.files.openDirectory written.place (generator.envFile project).directory =
      .ok [] := by
    rw [files, place]
    exact detour rfl rfl
  -- The names that are missing are added to the generated file.
  have read : (written.readOptional (generator.envFile project)).1 = some "NEW=1\n" :=
    Host.fst_readOptional_of_file ends opens (by rw [files]; rfl)
  have merged : EnvFile.mergeOf (generator.envFile project) descriptors written =
      (EnvFile.parse .empty "NEW=1\n").merge (Descriptor.allFields descriptors) := by
    rw [EnvFile.mergeOf, EnvFile.load_of_fst_readOptional read, environment]
    rfl
  have added : sync.added = ["DB_HOST"] := by
    rw [(EnvFile.synchronize_eq_ok synchronized).1]
    show (EnvFile.mergeOf (generator.envFile project) descriptors written).added = _
    rw [merged]
    decide +kernel
  obtain ⟨nothing, _⟩ | ⟨_, spot, mode', lands, there, changed⟩ :=
    EnvFile.landed_of_synchronize synchronized
  · rw [added] at nothing
    cases nothing
  · have landing := (Host.landing?_of_openDirectory opens).trans
      (Host.spot?_eq_some.2 ⟨_, _, Path.fileName?_of_getLast? ends.last, opens, rfl⟩)
    obtain rfl : ["settings.env"] = spot := Option.some.inj (landing.symm.trans lands)
    have text : (EnvFile.mergeOf (generator.envFile project) descriptors written).file.render =
        "NEW=1\nDB_HOST=\n" := by
      rw [merged]
      decide +kernel
    refine ⟨generator, _, behind, made, by rw [target, envFile]; decide, generated, rfl,
      ⟨marked, marks, describes, renders⟩, ?_⟩
    have root : behind.files.shapeAt? [] = some .directory :=
      changed.directory [] (by decide) (by rw [files]; rfl)
    have opensTarget : behind.files.openDirectory behind.place
        (generator.target project).directory = .ok [] := by
      rw [(EnvFile.synchronize_eq_ok synchronized).2.1, place, target]
      exact Host.openDirectory_dot root
    rw [← text]
    exact Host.fst_readOptional_of_file accepts.ends opensTarget there

end Generator
end ConfigWiring
