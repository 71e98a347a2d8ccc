import ConfigWiring.Command.Run
import ConfigWiring.Proofs.EnvFile.Agreement
import ConfigWiring.Proofs.Generator.Fixpoint
import ConfigWiring.Proofs.Generator.SuccessfulRuns

/-!
# Two commands for one env file

To generate the wiring of a project brings its env file up to date as well, once the generated
file is written.  The command that does nothing else leaves the same variables and the same bytes
as long as the generated file does not show through the path of the env file.
-/

namespace ConfigWiring

open FileTree (ChangedOnlyAt)
open Project

namespace Generator

variable {generator : Generator} {briefing : Briefing} {project : Project}
  {descriptors further : List Descriptor} {host middle behind : Host} {report : GenerationReport}

/-! ## The commands step by step -/

/-- The command that generates wiring loads the project and runs the generator; the rest is
notices. -/
theorem exists_generate_of_generateCommand
    (generates : (generator.generateCommand briefing).on host = (.ok (), behind)) :
    ∃ project report middle, Project.load host briefing.root = .ok project ∧
      (generator.generate project briefing.descriptors).on host = (.ok report, middle) ∧
        behind.files = middle.files ∧ behind.environment = middle.environment := by
  obtain ⟨project, loadedHost, loaded, generates⟩ := on_bind_eq_ok generates
  rw [Procedure.on_of] at loaded
  injection loaded with loaded same
  subst same
  obtain ⟨report, middle, generated, told⟩ := on_bind_eq_ok generates
  obtain ⟨target, written, removed, descriptors, sync?⟩ := report
  cases sync? <;> cases written <;> cases removed <;> cases told <;>
    exact ⟨project, _, _, loaded, generated, rfl, rfl⟩

/-- The command for the env file loads the project, describes its structs and brings the env file
up to date; the rest is notices. -/
theorem exists_synchronize_of_envCommand
    (seeds : (generator.envCommand briefing).on host = (.ok (), behind)) :
    ∃ project descriptors sync middle, Project.load host briefing.root = .ok project ∧
      generator.descriptors project = .ok descriptors ∧
        (generator.synchronize project (descriptors ++ briefing.descriptors)).on host =
            (.ok sync, middle) ∧
          behind.files = middle.files ∧ behind.environment = middle.environment := by
  obtain ⟨project, loadedHost, loaded, seeds⟩ := on_bind_eq_ok seeds
  rw [Procedure.on_of] at loaded
  injection loaded with loaded same
  subst same
  obtain ⟨descriptors, describedHost, described, seeds⟩ := on_bind_eq_ok seeds
  rw [on_ofExcept] at described
  injection described with described same
  subst same
  obtain ⟨sync, middle, synchronized, told⟩ := on_bind_eq_ok seeds
  cases told
  exact ⟨project, descriptors, sync, middle, loaded, described, synchronized, rfl, rfl⟩

/-- The command that generates wiring succeeds if the project loads and the generator succeeds. -/
theorem exists_generateCommand
    (loaded : Project.load host briefing.root = .ok project)
    (generated : (generator.generate project briefing.descriptors).on host = (.ok report, middle)) :
    ∃ behind, (generator.generateCommand briefing).on host = (.ok (), behind) ∧
      behind.environment = middle.environment := by
  have loads : (Procedure.of fun host => (Project.load host briefing.root, host)).on host =
      (.ok project, host) := by
    rw [Procedure.on_of, loaded]
  rw [generateCommand, Procedure.on_bind_ok loads, Procedure.on_bind_ok generated]
  obtain ⟨target, written, removed, descriptors, sync?⟩ := report
  cases sync? <;> cases written <;> cases removed <;> exact ⟨_, rfl, rfl⟩

/-- The command for the env file succeeds if the project loads and its structs are described, and
the env file can be brought up to date. -/
theorem exists_envCommand
    {sync : SyncReport}
    (loaded : Project.load host briefing.root = .ok project)
    (described : generator.descriptors project = .ok descriptors)
    (synchronized : (generator.synchronize project (descriptors ++ briefing.descriptors)).on host =
      (.ok sync, middle)) :
    ∃ behind, (generator.envCommand briefing).on host = (.ok (), behind) ∧
      behind.environment = middle.environment := by
  have loads : (Procedure.of fun host => (Project.load host briefing.root, host)).on host =
      (.ok project, host) := by
    rw [Procedure.on_of, loaded]
  have describes : (Procedure.ofExcept (generator.descriptors project)).on host =
      (.ok descriptors, host) := by
    rw [on_ofExcept, described]
  rw [envCommand, Procedure.on_bind_ok loads, Procedure.on_bind_ok describes,
    Procedure.on_bind_ok synchronized]
  exact ⟨_, rfl, rfl⟩

/-! ## Their outcomes -/

/-- A run that wrote its file and was to bring the env file up to date has done so behind a file that
has landed. -/
theorem exists_landed_of_generate
    (idle : generator.formatter = .idle)
    (asked : generator.config.dotenv = true)
    (generated : (generator.generate project further).on host = (.ok report, behind))
    (wrote : report.written = true) :
    ∃ text written spot sync, Host.Landed (generator.target project) text host written spot ∧
      (∀ path, host.Unseen (generator.target project) path ->
        (written.readOptional path).1 = (host.readOptional path).1) ∧
      generator.descriptors project = .ok report.descriptors ∧ report.sync? = some sync ∧
        (generator.synchronize project (report.descriptors ++ further)).on written =
          (.ok sync, behind) := by
  obtain ⟨marked, text, written, writing, _⟩ := exists_writing idle generated wrote
  obtain ⟨spot, landed⟩ := Host.landed_of_replaceFile writing.replaces
  have described : generator.descriptors project = .ok report.descriptors := by
    rw [Generator.descriptors, writing.marks]
    exact writing.describes
  have seeds := writing.seeds
  cases sync? : report.sync? with
  | none =>
      rw [sync?] at seeds
      rw [seeds.1] at asked
      cases asked
  | some sync =>
      rw [sync?] at seeds
      refine ⟨text, _, spot, sync, landed.tell _, fun path unseen => ?_, described, rfl, seeds.2⟩
      have replaces := Host.replaceFile_congr writing.replaces host rfl rfl rfl
      have place : written.place = host.place := landed.place
      have same : written.readOptional path =
          Host.readOptional { host with files := written.files } path := by
        rw [Host.readOptional, Host.readOptional, place]
      rw [← unseen text _ replaces, Host.readOptional_tell, same]

/-- Let both commands succeed on a host, the one that generates wiring by writing its file, which
does not show through the path of the env file.  Then they leave the same variables, and the same
bytes everywhere but where that file lands; the runs on the env file report the same; and the
command for the env file changes no other file or link. -/
theorem commands_agree
    (idle : generator.formatter = .idle)
    (asked : generator.config.dotenv = true)
    (loaded : Project.load host briefing.root = .ok project)
    (generated : (generator.generate project briefing.descriptors).on host = (.ok report, middle))
    (wrote : report.written = true)
    (unseen : host.Unseen (generator.target project) (generator.envFile project))
    {generatedHost seededHost : Host}
    (generates : (generator.generateCommand briefing).on host = (.ok (), generatedHost))
    (seeds : (generator.envCommand briefing).on host = (.ok (), seededHost)) :
    generatedHost.environment = seededHost.environment ∧
      (∀ spot, host.landing? (generator.target project) ≠ some spot ->
        generatedHost.files.bytesAt? spot = seededHost.files.bytesAt? spot) ∧
      (∃ descriptors sync after, generator.descriptors project = .ok descriptors ∧
        report.sync? = some sync ∧
          (generator.synchronize project (descriptors ++ briefing.descriptors)).on host =
            (.ok sync, after)) ∧
      ChangedOnlyAt (host.landing? (generator.envFile project)) host.files seededHost.files := by
  -- Both commands load the same project, and the first one runs the generator as given.
  obtain ⟨_, _, _, loaded', generated', files', environment'⟩ :=
    exists_generate_of_generateCommand generates
  cases loaded.symm.trans loaded'
  cases generated.symm.trans generated'
  obtain ⟨_, _, sync, after, loaded'', described, synchronized, files'', environment''⟩ :=
    exists_synchronize_of_envCommand seeds
  cases loaded.symm.trans loaded''
  obtain ⟨text, written, there, sync', landed, read, described', reported, synchronized'⟩ :=
    exists_landed_of_generate idle asked generated wrote
  cases described.symm.trans described'
  obtain ⟨sameReport, environment⟩ := EnvFile.synchronize_agree (read _ unseen) landed.environment
    synchronized synchronized'
  rw [files', environment', files'', environment'']
  refine ⟨environment, fun spot apart => ?_,
    ⟨_, sync, after, described, by rw [reported, sameReport], synchronized⟩,
    EnvFile.changedOnlyAt_of_synchronize synchronized⟩
  rw [landed.lands] at apart
  exact EnvFile.bytesAt?_of_synchronize landed (read _ unseen) synchronized synchronized'
    (by simpa using apart)

/-! ## Both commands on one host -/

/-- Both commands succeed on a host, the one that generates wiring by writing its file; the env
file is read behind that file by the one and on the host as it was by the other. -/
structure Succeed
    (generator : Generator)
    (briefing : Briefing)
    (project : Project)
    (descriptors : List Descriptor)
    (host written middle generatedHost seededHost : Host)
    (report : GenerationReport) : Prop where
  /-- The generator succeeds. -/
  generated : (generator.generate project briefing.descriptors).on host = (.ok report, middle)
  /-- It writes its file. -/
  wrote : report.written = true
  /-- The command that generates wiring succeeds. -/
  generates : (generator.generateCommand briefing).on host = (.ok (), generatedHost)
  /-- The command for the env file succeeds. -/
  seeds : (generator.envCommand briefing).on host = (.ok (), seededHost)
  /-- The first command exports what the env file says behind the generated file. -/
  generatedVariables : generatedHost.environment =
    ((EnvFile.mergeOf (generator.envFile project) (descriptors ++ briefing.descriptors)
      written).file.exportTo written.environment).environment
  /-- The second command exports what the env file says. -/
  seededVariables : seededHost.environment =
    ((EnvFile.mergeOf (generator.envFile project) (descriptors ++ briefing.descriptors)
      host).file.exportTo host.environment).environment

/-- Both commands succeed if the generated file can be put where it belongs, and the env file can
both before and behind that. -/
theorem exists_succeed
    {marked : List MarkedType}
    {text : String}
    {place spot : Place}
    {name envName : String}
    (idle : generator.formatter = .idle)
    (asked : generator.config.dotenv = true)
    (loaded : Project.load host briefing.root = .ok project)
    (marks : generator.marked project = .ok marked)
    (describes : generator.describe marked = .ok descriptors)
    (renders : generator.template.render host.environment
      (generator.wiringFile project marked descriptors) = .ok (.source text))
    (accepts : host.Accepts (generator.target project) place name)
    (acceptsEnv : host.Accepts (generator.envFile project) spot envName)
    (acceptsBehind : ∀ mode, Host.Accepts
      { host with files := host.files.put place name (.file mode text.toUTF8) }
      (generator.envFile project) spot envName) :
    ∃ mode written middle generatedHost seededHost report,
      written.files = host.files.put place name (.file mode text.toUTF8) ∧
        written.place = host.place ∧ written.environment = host.environment ∧
          generator.Succeed briefing project descriptors host written middle generatedHost
            seededHost report := by
  obtain ⟨mode, written, sync, middle, files, place, sameEnvironment, synchronized, generated⟩ :=
    exists_generate idle asked marks describes renders accepts acceptsBehind briefing.descriptors
  obtain ⟨sync', after, synchronized'⟩ := EnvFile.exists_synchronize acceptsEnv.ends
    acceptsEnv.unslashed acceptsEnv.opens acceptsEnv.free (descriptors ++ briefing.descriptors)
  have described : generator.descriptors project = .ok descriptors := by
    rw [Generator.descriptors, marks]
    exact describes
  obtain ⟨generatedHost, generates, environment⟩ := exists_generateCommand loaded generated
  obtain ⟨seededHost, seeds, environment'⟩ := exists_envCommand loaded described synchronized'
  exact ⟨mode, written, middle, generatedHost, seededHost, _, files, place, sameEnvironment,
    { generated
      wrote := rfl
      generates
      seeds
      generatedVariables := environment.trans (EnvFile.report_of_synchronize synchronized).2
      seededVariables := environment'.trans (EnvFile.report_of_synchronize synchronized').2 }⟩

/-- An env file of its own is brought up to date by both commands alike. -/
theorem commands_agree_of_own_env_file :
    let source := "package config\n\n// @app-cfg (prefix:\"DB\")\ntype Db struct \x7b\n\tHost string\n\x7d\n"
    let host : Host := { (default : Host) with
      files := ⟨.directory 0o755 (.cons ".env" (.file 0o644 "OLD=1\n".toUTF8)
        (.cons "db.go" (.file 0o644 source.toUTF8)
          (.cons "go.mod" (.file 0o644 "module example.com/shop\n".toUTF8) .nil)))⟩ }
    let config : GeneratorConfig := { (default : GeneratorConfig) with
      target? := some ⟨"wiring.go"⟩ }
    let briefing : Briefing := ⟨"shop", ⟨"."⟩, "", "", [], 1⟩
    ∃ generator generatedHost seededHost, Generator.make config .idle = .ok generator ∧
      (generator.generateCommand briefing).on host = (.ok (), generatedHost) ∧
      (generator.envCommand briefing).on host = (.ok (), seededHost) ∧
      generatedHost.environment = seededHost.environment ∧
      generatedHost.files.bytesAt? [".env"] = seededHost.files.bytesAt? [".env"] ∧
      seededHost.files.leafAt? ["wiring.go"] = none := by
  intro source host config briefing
  let generator : Generator := ⟨config, ⟨WiringTemplate.standardParts⟩, .idle⟩
  have made : Generator.make config .idle = .ok generator := make_eq_of_builtIn rfl
  let project : Project := ⟨⟨"."⟩, some ⟨"example.com/shop"⟩, [databaseSource]⟩
  let marked : List MarkedType := [databaseStruct]
  let descriptors : List Descriptor := [databaseDescriptor]
  let text := (generator.wiringFile project marked descriptors).standardText
  have loaded : Project.load host briefing.root = .ok project := by
    have sources : (entriesAt host.files host.place).sources = [(["db.go"], source.toUTF8)] := by
      rw [FileNodes.sources, List.mergeSort_of_pairwise (by decide +kernel)]
      rfl
    exact load_of_source rfl (FileTree.readNamed_of_file (by decide) (by decide) rfl)
      (by decide +kernel) sources parseSource_databaseText
  have marks : generator.marked project = .ok marked := marked_databaseSource rfl _ _
  have describes : generator.describe marked = .ok descriptors :=
    describe_databaseStruct rfl (by decide)
  have target : generator.target project = ⟨"./wiring.go"⟩ := by decide +kernel
  have envFile : generator.envFile project = ⟨"./.env"⟩ := by decide +kernel
  -- The generated file is put into the directory of the project, where the env file is.
  have accepts : host.Accepts (generator.target project) [] "wiring.go" := by
    rw [target]
    exact ⟨by decide, by decide, Host.openDirectory_dot rfl, by decide +kernel⟩
  have acceptsEnv {other : Host} (place : other.place = [])
      (root : other.files.shapeAt? [] = some .directory)
      (regular : other.files.shapeAt? [".env"] = some .file) :
      other.Accepts (generator.envFile project) [] ".env" := by
    rw [envFile]
    exact ⟨by decide, by decide, place ▸ Host.openDirectory_dot (place ▸ root), by simp [regular]⟩
  have acceptsHost : host.Accepts (generator.envFile project) [] ".env" := acceptsEnv rfl rfl rfl
  obtain ⟨_, _, _, generatedHost, seededHost, report, _, _, _, succeed⟩ :=
    exists_succeed rfl rfl loaded marks describes
      (WiringTemplate.render_standardParts (by decide) _) accepts acceptsHost
      (fun _ => acceptsEnv rfl rfl rfl)
  -- The paths lead to different places, where no links are.
  have nothing : host.files.shapeAt? ["wiring.go"] = none := rfl
  have regular : host.files.shapeAt? [".env"] = some .file := rfl
  have unseen : host.Unseen (generator.target project) (generator.envFile project) :=
    Host.unseen_of_landing? accepts.landing?_eq (fun _ linked => by cases nothing.symm.trans linked)
      (Path.fileName?_of_getLast? acceptsHost.ends.last) acceptsHost.opens
      (fun _ linked => by cases regular.symm.trans linked) (by decide)
  obtain ⟨environment, bytes, _, changed⟩ :=
    commands_agree rfl rfl loaded succeed.generated succeed.wrote unseen succeed.generates
      succeed.seeds
  refine ⟨generator, generatedHost, seededHost, made, succeed.generates, succeed.seeds, environment,
    bytes [".env"] (by rw [accepts.landing?_eq]; decide), ?_⟩
  rw [changed.leaf ["wiring.go"] (by rw [acceptsHost.landing?_eq]; decide)]
  rfl

/-- Two paths that differ may lead to one file.  Then the generated file is what the env file is
read from, and its lines become variables. -/
theorem not_commands_agree_of_alias :
    let source := "package config\n\n// @app-cfg (prefix:\"DB\")\ntype Db struct \x7b\n\tHost string\n\x7d\n"
    let host : Host := { (default : Host) with
      files := ⟨.directory 0o755 (.cons "db.go" (.file 0o644 source.toUTF8)
        (.cons "go.mod" (.file 0o644 "module example.com/shop\n".toUTF8)
          (.cons "vendor" (.directory 0o755 .nil) .nil)))⟩ }
    let config : GeneratorConfig := { (default : GeneratorConfig) with
      template? := some "NEW=1\n"
      target? := some ⟨"settings.env"⟩
      envFile := ⟨"vendor/../settings.env"⟩ }
    let briefing : Briefing := ⟨"shop", ⟨"."⟩, "", "", [], 1⟩
    ∃ generator project report middle generatedHost seededHost,
      Generator.make config .idle = .ok generator ∧
      Project.load host briefing.root = .ok project ∧
      (generator.target project).agrees (generator.envFile project) = false ∧
      (generator.generate project briefing.descriptors).on host = (.ok report, middle) ∧
      report.written = true ∧
      (generator.generateCommand briefing).on host = (.ok (), generatedHost) ∧
      (generator.envCommand briefing).on host = (.ok (), seededHost) ∧
      generatedHost.environment.get? "NEW" = some "1" ∧
      seededHost.environment.get? "NEW" = none := by
  intro source host config briefing
  let generator : Generator := ⟨config, ⟨.cons (.text "NEW=1\n") .nil⟩, .idle⟩
  have made : Generator.make config .idle = .ok generator := make_eq_of_parse rfl (by rfl) .idle
  let project : Project := ⟨⟨"."⟩, some ⟨"example.com/shop"⟩, [databaseSource]⟩
  let marked : List MarkedType := [databaseStruct]
  let descriptors : List Descriptor := [databaseDescriptor]
  have loaded : Project.load host briefing.root = .ok project := by
    have sources : (entriesAt host.files host.place).sources = [(["db.go"], source.toUTF8)] := by
      rw [FileNodes.sources, List.mergeSort_of_pairwise (by decide +kernel)]
      rfl
    exact load_of_source rfl (FileTree.readNamed_of_file (by decide) (by decide) rfl)
      (by decide +kernel) sources parseSource_databaseText
  have marks : generator.marked project = .ok marked := marked_databaseSource rfl _ _
  have describes : generator.describe marked = .ok descriptors :=
    describe_databaseStruct rfl (by decide)
  have target : generator.target project = ⟨"./settings.env"⟩ := by decide +kernel
  have envFile : generator.envFile project = ⟨"./vendor/../settings.env"⟩ := by decide +kernel
  -- The generated file is put where the env file is read from.
  have accepts : host.Accepts (generator.target project) [] "settings.env" := by
    rw [target]
    exact ⟨by decide, by decide, Host.openDirectory_dot rfl, by decide +kernel⟩
  have opensEnv {tree : FileTree} (root : tree.shapeAt? [] = some .directory)
      (inner : tree.shapeAt? ["vendor"] = some .directory) :
      tree.openDirectory [] (generator.envFile project).directory = .ok [] := by
    rw [envFile]
    exact FileTree.openDirectory_of_into_up (by decide) (by decide) (by decide) root inner
  have acceptsEnv {other : Host} (shape? : Option Shape) (place : other.place = [])
      (root : other.files.shapeAt? [] = some .directory)
      (inner : other.files.shapeAt? ["vendor"] = some .directory)
      (shown : other.files.shapeAt? ["settings.env"] = shape?)
      (free : shape? ≠ some .directory) :
      other.Accepts (generator.envFile project) [] "settings.env" :=
    { ends := by
        rw [envFile]
        decide
      unslashed := by
        rw [envFile]
        decide
      opens := by
        rw [place]
        exact opensEnv root inner
      free := fun directory => free (shown.symm.trans directory) }
  have acceptsHost : host.Accepts (generator.envFile project) [] "settings.env" :=
    acceptsEnv none rfl rfl rfl rfl (by decide)
  obtain ⟨mode, written, middle, generatedHost, seededHost, report, files, place, environment,
      succeed⟩ :=
    exists_succeed rfl rfl loaded marks describes rfl accepts acceptsHost
      (fun _ => acceptsEnv (some .file) rfl rfl rfl rfl (by decide))
  -- One run reads the generated file, the other one finds no file.
  have named := Path.fileName?_of_getLast? acceptsHost.ends.last
  have read : (written.readOptional (generator.envFile project)).1 = some "NEW=1\n" := by
    have opens : written.files.openDirectory written.place
        (generator.envFile project).directory = .ok [] := by
      rw [files, place]
      exact opensEnv rfl rfl
    have there : written.files.at? ["settings.env"] = some (.file mode "NEW=1\n".toUTF8) := by
      rw [files]
      rfl
    have text : written.files.readNamed [] "settings.env" = .ok "NEW=1\n" :=
      FileTree.readNamed_of_file (by decide) (by decide) there
    rw [Host.fst_readOptional named opens, text]
    rfl
  have read' : (host.readOptional (generator.envFile project)).1 = none := by
    obtain ⟨fault, nothing⟩ : ∃ fault, host.files.readNamed [] "settings.env" = .error fault :=
      FileTree.readNamed_of_absent rfl
    rw [Host.fst_readOptional named acceptsHost.opens, nothing]
    rfl
  refine ⟨generator, project, report, middle, generatedHost, seededHost, made, loaded,
    by rw [target, envFile]; decide, succeed.generated, succeed.wrote, succeed.generates,
    succeed.seeds, ?_, ?_⟩
  · rw [succeed.generatedVariables, EnvFile.mergeOf, EnvFile.load_of_fst_readOptional read,
      environment]
    show (((EnvFile.parse .empty "NEW=1\n").merge (Descriptor.allFields descriptors)).file.exportTo
      .empty).environment.get? "NEW" = some "1"
    decide +kernel
  · rw [succeed.seededVariables, EnvFile.mergeOf, EnvFile.load_of_fst_readOptional read']
    show ((EnvFile.empty.merge (Descriptor.allFields descriptors)).file.exportTo
      .empty).environment.get? "NEW" = none
    decide +kernel

end Generator
end ConfigWiring
