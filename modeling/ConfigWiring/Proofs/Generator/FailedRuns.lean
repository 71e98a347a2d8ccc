import ConfigWiring.Proofs.EnvFile.Effect
import ConfigWiring.Proofs.Generator.Repetition
import ConfigWiring.Proofs.Host.Landing

/-!
# Runs that fail

A run of the generator that fails changes no variable of the process, and no file or link but
the generated file.  A run that fails before it writes changes no file at all.
-/

namespace ConfigWiring

open FileTree (ChangedOnlyAt)

/-- A formatter changes no variable, and of what stands in the files at most the file that a path
leads to.  Nothing is asked of it where the path leads to anything but a file. -/
def ImportFormatter.KeepsTo (formatter : ImportFormatter) (path : Path) : Prop :=
  ∀ host : Host,
    (∀ spot, host.spot? path = some spot -> host.files.shapeAt? spot = some .file) ->
      (formatter.format path host).2.environment = host.environment ∧
        ChangedOnlyAt (host.spot? path) host.files (formatter.format path host).2.files

theorem ImportFormatter.keepsTo_idle (path : Path) : idle.KeepsTo path :=
  fun host _ => ⟨rfl, .refl _ host.files⟩

variable {host behind : Host} {failure : Failure}

/-- A run on the env file that fails does so because the file cannot be replaced, which changes
no leaf and no variable. -/
theorem EnvFile.changedOnlyAt_of_synchronize_error
    {path : Path}
    {descriptors : List Descriptor}
    (failed : (synchronize path descriptors).on host = (.error failure, behind)) :
    (∃ path fault, failure = .io path fault) ∧ behind.environment = host.environment ∧
      ChangedOnlyAt none host.files behind.files := by
  cases synchronizes failed with
  | failed _ replaced =>
      obtain ⟨io, rest, changed⟩ := Host.changedOnlyAt_of_replaceFile_error replaced
      exact ⟨io, by rw [rest]; rfl, changed⟩

/-- No file can be put where a slash asks for a directory. -/
theorem Host.replaceFile_of_slash
    {path : Path}
    {place : Place}
    {name : String}
    (ends : FileTree.EndsIn path name)
    (slashed : path.endsInSlash = true)
    (opens : host.files.openDirectory host.place path.directory = .ok place)
    (text : String) :
    host.replaceFile path text = (.error (.io path .notDirectory), host) := by
  have located := FileTree.locateName_of_openDirectory ends opens
  unfold replaceFile FileTree.moveInto
  simp only [FileTree.ensureDirectory_of_openDirectory _ opens, located, slashed, if_true]

/-- A run that has names to add to an env file whose path ends in a slash fails. -/
theorem EnvFile.synchronize_of_slash
    {path : Path}
    {descriptors : List Descriptor}
    {place : Place}
    {name : String}
    (ends : FileTree.EndsIn path name)
    (slashed : path.endsInSlash = true)
    (opens : host.files.openDirectory host.place path.directory = .ok place)
    (incomplete : (mergeOf path descriptors host).added ≠ []) :
    (synchronize path descriptors).on host =
      (.error (.io path .notDirectory), warned path descriptors host) := by
  have opensWarned : (warned path descriptors host).files.openDirectory
      (warned path descriptors host).place path.directory = .ok place := opens
  rw [synchronize_of_added incomplete, Host.replaceFile_of_slash ends slashed opensWarned]

namespace Generator

variable {generator : Generator} {project : Project} {further : List Descriptor}

/-- Work that fails has failed at its first step or behind it. -/
theorem on_bind_eq_error
    {first next : Type}
    {procedure : Procedure first}
    {continuation : first -> Procedure next}
    (failed : (procedure >>= continuation).on host = (.error failure, behind)) :
    procedure.on host = (.error failure, behind) ∨
      ∃ result middle, procedure.on host = (.ok result, middle) ∧
        (continuation result).on middle = (.error failure, behind) := by
  cases outcome : procedure.on host with
  | mk result middle =>
      cases result with
      | error other =>
          rw [Procedure.on_bind_error outcome] at failed
          cases failed
          exact .inl rfl
      | ok result =>
          rw [Procedure.on_bind_ok outcome] at failed
          exact .inr ⟨result, middle, rfl, failed⟩

/-- A failed run has computed its first result, or that computation failed on the host as it was. -/
theorem on_ofExcept_bind_eq_error
    {first next : Type}
    {outcome : Except Failure first}
    {continuation : first -> Procedure next}
    (failed : (Procedure.ofExcept outcome >>= continuation).on host = (.error failure, behind)) :
    behind = host ∨
      ∃ result, outcome = .ok result ∧
        (continuation result).on host = (.error failure, behind) := by
  rcases on_bind_eq_error failed with computed | ⟨result, middle, computed, failed⟩
  · rw [on_ofExcept] at computed
    exact .inl (Prod.mk.inj computed).2.symm
  · rw [on_ofExcept] at computed
    obtain ⟨rfl, rfl⟩ := Prod.mk.inj computed
    exact .inr ⟨result, rfl, failed⟩

/-- Formatting never fails, and it does what the formatter does. -/
theorem on_formatTarget (generator : Generator) (target : Path) (host : Host) :
    ∃ notices, (generator.formatTarget target).on host =
      (.ok (), (generator.formatter.format target host).2.tell notices) := by
  rw [formatTarget, Procedure.on_of]
  cases formatted : generator.formatter.format target host with
  | mk error? after =>
      cases error? with
      | none => exact ⟨[], by simp [Host.tell]⟩
      | some error => exact ⟨_, rfl⟩

/-- To write and format a file changes it alone. -/
theorem changedOnlyAt_of_write
    {target : Path}
    {text : String}
    {count : Nat}
    (keeps : generator.formatter.KeepsTo target)
    (wrote : (generator.write target text count).on host = (.ok (), behind)) :
    behind.environment = host.environment ∧
      ChangedOnlyAt (host.landing? target) host.files behind.files := by
  obtain ⟨_, written, replaced, told⟩ := on_bind_eq_ok wrote
  rw [Procedure.on_of] at replaced
  rw [Procedure.on_bind_ok (on_tell _ _)] at told
  obtain ⟨notices, formats⟩ := on_formatTarget generator target
    (written.tell [.wiringGenerated target count])
  rw [formats] at told
  cases told
  obtain ⟨spot, landed⟩ := Host.landed_of_replaceFile replaced
  obtain ⟨mode, there⟩ := landed.there
  -- The path leads to the new file or, if it leads through that file, nowhere.
  obtain ⟨sameEnvironment, formatted⟩ := keeps (written.tell [.wiringGenerated target count]) <| by
    intro other leads
    rw [landed.leads other leads, FileTree.shapeAt?]
    exact congrArg (Option.map FileNode.shape) there
  refine ⟨sameEnvironment.trans landed.environment, ?_⟩
  rw [landed.lands]
  refine landed.changed.trans ?_
  cases leads : (written.tell [.wiringGenerated target count]).spot? target with
  | none =>
      rw [leads] at formatted
      exact formatted.weaken _
  | some other =>
      rw [leads] at formatted
      rwa [landed.leads other leads] at formatted

/-- To write and format a file fails only because the file cannot be replaced. -/
theorem changedOnlyAt_of_write_error
    {target : Path}
    {text : String}
    {count : Nat}
    (failed : (generator.write target text count).on host = (.error failure, behind)) :
    (∃ path fault, failure = .io path fault) ∧ behind.environment = host.environment ∧
      ChangedOnlyAt none host.files behind.files := by
  rcases on_bind_eq_error failed with replaced | ⟨_, written, _, told⟩
  · rw [Procedure.on_of] at replaced
    obtain ⟨io, rest, changed⟩ := Host.changedOnlyAt_of_replaceFile_error replaced
    exact ⟨io, by rw [rest], changed⟩
  · rw [Procedure.on_bind_ok (on_tell _ _)] at told
    obtain ⟨notices, formats⟩ := on_formatTarget generator target
      (written.tell [.wiringGenerated target count])
    rw [formats] at told
    cases told

/-- To remove the generated file changes nothing if it fails. -/
theorem eq_of_clear_error
    {target : Path}
    (failed : (clear target).on host = (.error failure, behind)) :
    behind = host := by
  rcases on_bind_eq_error failed with removed | ⟨removed, middle, _, told⟩
  · rw [Procedure.on_of] at removed
    exact Host.eq_of_removeFile_error removed
  · cases removed <;> cases told

/-- A run whose file has a text fails when the file cannot be written or when the env file cannot
be brought up to date behind it. -/
theorem changedOnlyAt_of_finish_error
    {descriptors : List Descriptor}
    {text : String}
    (keeps : generator.formatter.KeepsTo (generator.target project))
    (failed : (generator.finish project descriptors further (.source text)).on host =
      (.error failure, behind)) :
    (∃ path fault, failure = .io path fault) ∧ behind.environment = host.environment ∧
      ChangedOnlyAt (host.landing? (generator.target project)) host.files behind.files := by
  rcases on_bind_eq_error failed with failedWrite | ⟨_, written, wrote, failed⟩
  · obtain ⟨io, environment, changed⟩ := changedOnlyAt_of_write_error failedWrite
    exact ⟨io, environment, changed.weaken _⟩
  · obtain ⟨environment, changed⟩ := changedOnlyAt_of_write keeps wrote
    split at failed
    · rcases on_bind_eq_error failed with unseeded | ⟨_, _, _, returned⟩
      · obtain ⟨io, same, unchanged⟩ := EnvFile.changedOnlyAt_of_synchronize_error unseeded
        exact ⟨io, same.trans environment, changed.trans (unchanged.weaken _)⟩
      · cases returned
    · cases failed

/-! ## Env files that cannot be replaced -/

section Unsaved

variable {marked : List MarkedType} {descriptors : List Descriptor} {text : String}

/-- A run fails behind its file if names are to be added to an env file whose path ends in a slash.
What stands at the place of the env file by then is what it was read from. -/
theorem exists_generate_of_slash
    {place spot : Place}
    {name envName contents : String}
    (idle : generator.formatter = .idle)
    (asked : generator.config.dotenv = true)
    (marks : generator.marked project = .ok marked)
    (describes : generator.describe marked = .ok descriptors)
    (renders : generator.template.render host.environment
      (generator.wiringFile project marked descriptors) = .ok (.source text))
    (accepts : host.Accepts (generator.target project) place name)
    (ends : FileTree.EndsIn (generator.envFile project) envName)
    (slashed : (generator.envFile project).endsInSlash = true)
    (opens : ∀ mode, (host.files.put place name (.file mode text.toUTF8)).openDirectory host.place
      (generator.envFile project).directory = .ok spot)
    (there : ∀ mode, ∃ mode', (host.files.put place name (.file mode text.toUTF8)).at?
      (spot ++ [envName]) = some (.file mode' contents.toUTF8))
    (incomplete : EnvFile.missingNames (EnvFile.parse host.environment contents).contains
      (Descriptor.allFields (descriptors ++ further)) ≠ []) :
    ∃ mode behind, (generator.generate project further).on host =
        (.error (.io (generator.envFile project) .notDirectory), behind) ∧
      behind.files = host.files.put place name (.file mode text.toUTF8) ∧
      behind.Standing (generator.envFile project) contents := by
  let told := host.tell (generator.importNotices project marked)
  have acceptsTold : told.Accepts (generator.target project) place name :=
    ⟨accepts.ends, accepts.unslashed, accepts.opens, accepts.free⟩
  obtain ⟨mode, replaces⟩ := acceptsTold.exists_replaceFile text
  obtain ⟨mode', file⟩ := there mode
  let written := Host.tell
    { told with files := host.files.put place name (.file mode text.toUTF8) }
    [.wiringGenerated (generator.target project) descriptors.length]
  have named := Path.fileName?_of_getLast? ends.last
  have standing : written.Standing (generator.envFile project) contents :=
    .file named (opens mode) file ends.nameUnended ends.short
  have unmerged : (EnvFile.mergeOf (generator.envFile project) (descriptors ++ further)
      written).added ≠ [] := by
    rw [EnvFile.mergeOf, (EnvFile.merge_eq_missing (EnvFile.holds_load _ _) _).1,
      (EnvFile.load_standing standing).2]
    exact incomplete
  have unsaved : (generator.synchronize project (descriptors ++ further)).on written =
      (.error (.io (generator.envFile project) .notDirectory),
        EnvFile.warned (generator.envFile project) (descriptors ++ further) written) :=
    EnvFile.synchronize_of_slash ends slashed (opens mode) unmerged
  have same : (generator.generate project further).on host =
      (generator.conclude project descriptors further).on written :=
    on_generate_of_replaceFile idle marks describes renders replaces
  rw [conclude, asked, if_pos rfl, Procedure.on_bind_error unsaved] at same
  exact ⟨mode, _, same, rfl, standing.congr rfl rfl⟩

end Unsaved

/-! ## Failing runs -/

/-- A run that fails leaves the variables of the process as they were, and every file and link but
the generated file; what is new are directories.  If it fails for another reason than that a file
cannot be written or removed, then it leaves all files as they were. -/
theorem changedOnlyAt_of_generate_error
    (keeps : generator.formatter.KeepsTo (generator.target project))
    (failed : (generator.generate project further).on host = (.error failure, behind)) :
    behind.environment = host.environment ∧
      ChangedOnlyAt (host.landing? (generator.target project)) host.files behind.files ∧
        ((∀ path fault, failure ≠ .io path fault) -> behind.files = host.files) := by
  have untouched {other : Host} (environment : other.environment = host.environment)
      (files : other.files = host.files) :
      other.environment = host.environment ∧
        ChangedOnlyAt (host.landing? (generator.target project)) host.files other.files ∧
          ((∀ path fault, failure ≠ .io path fault) -> other.files = host.files) :=
    ⟨environment, by rw [files]; exact .refl _ _, fun _ => files⟩
  rw [generate_eq] at failed
  rcases on_ofExcept_bind_eq_error failed with rfl | ⟨marked, _, failed⟩
  · exact untouched rfl rfl
  rcases on_ofExcept_bind_eq_error failed with rfl | ⟨descriptors, _, failed⟩
  · exact untouched rfl rfl
  rw [Procedure.on_bind_ok (on_tell _ _), Procedure.on_bind_ok (on_get _)] at failed
  rcases on_ofExcept_bind_eq_error failed with rfl | ⟨rendered, _, failed⟩
  · exact untouched rfl rfl
  cases rendered with
  | empty =>
      rw [eq_of_clear_error failed]
      exact untouched rfl rfl
  | source text =>
      obtain ⟨⟨path, fault, rfl⟩, environment, changed⟩ := changedOnlyAt_of_finish_error keeps failed
      exact ⟨environment, changed, fun other => absurd rfl (other path fault)⟩

/-- An env file that cannot be replaced keeps its text, although the generated file is written. -/
theorem changedOnlyAt_of_slashed_env_file :
    let host : Host := { (default : Host) with
      files := ⟨.directory 0o755 (.cons ".env" (.file 0o644 "OLD=1\n".toUTF8) .nil)⟩ }
    let config : GeneratorConfig := { (default : GeneratorConfig) with
      target? := some ⟨"wiring.go"⟩
      envFile := ⟨".env/"⟩ }
    let generator : Generator := ⟨config, ⟨WiringTemplate.standardParts⟩, .idle⟩
    let project : Project := ⟨⟨"."⟩, some ⟨"example.com/shop"⟩, [⟨⟨"db.go"⟩, "config",
      [⟨"config", ⟨""⟩, "Db", "@app-cfg (prefix:\"DB\")", .struct, [⟨"Host", ""⟩]⟩]⟩]⟩
    ∃ behind,
      (generator.generate project []).on host =
          (.error (.io ⟨"./.env/"⟩ .notDirectory), behind) ∧
        behind.files.leafAt? ["wiring.go"] ≠ none ∧
        behind.environment = host.environment ∧
        behind.files.leafAt? [".env"] = some (.file 0o644 "OLD=1\n".toUTF8) := by
  intro host config generator project
  let marked : List MarkedType := [databaseStruct]
  let descriptors : List Descriptor := [databaseDescriptor]
  let text := (generator.wiringFile project marked descriptors).standardText
  have marks : generator.marked project = .ok marked := marked_databaseSource rfl _ _
  have describes : generator.describe marked = .ok descriptors :=
    describe_databaseStruct rfl (by decide)
  have renders : generator.template.render host.environment
      (generator.wiringFile project marked descriptors) = .ok (.source text) :=
    WiringTemplate.render_standardParts (by decide) _
  have target : generator.target project = ⟨"./wiring.go"⟩ := by decide +kernel
  have envFile : generator.envFile project = ⟨"./.env/"⟩ := by decide +kernel
  -- The generated file is put into the directory of the project.
  have accepts : host.Accepts (generator.target project) [] "wiring.go" := by
    rw [target]
    exact ⟨by decide, by decide, Host.openDirectory_dot rfl, by decide +kernel⟩
  -- The path of the env file asks for a directory.
  have ends : FileTree.EndsIn (generator.envFile project) ".env" := by
    rw [envFile]
    decide
  obtain ⟨mode, behind, failed, files, _⟩ : ∃ mode behind,
      (generator.generate project []).on host =
          (.error (.io (generator.envFile project) .notDirectory), behind) ∧
        behind.files = host.files.put [] "wiring.go" (.file mode text.toUTF8) ∧
        behind.Standing (generator.envFile project) "OLD=1\n" :=
    exists_generate_of_slash rfl rfl marks describes renders accepts ends
      (by rw [envFile]; decide) (fun _ => by rw [envFile]; exact Host.openDirectory_dot rfl)
      (fun _ => by exact ⟨0o644, rfl⟩) (by decide +kernel)
  obtain ⟨environment, changed, _⟩ :=
    changedOnlyAt_of_generate_error (ImportFormatter.keepsTo_idle _) failed
  refine ⟨behind, by rw [← envFile, failed], ?_, environment, ?_⟩
  · have stands : behind.files.at? ["wiring.go"] = some (.file mode text.toUTF8) := by
      rw [files]
      rfl
    rw [FileTree.leafAt?, stands]
    simp [FileNode.leaf?]
  · rw [changed.leaf [".env"] (by rw [accepts.landing?_eq]; decide)]
    rfl

/-- Two paths that differ may lead to one file, and then the generated file takes the place of the
env file before that turns out to be one that cannot be replaced. -/
theorem not_env_file_kept_of_alias :
    let host : Host := { (default : Host) with
      files := ⟨.directory 0o755 (.cons "config" (.directory 0o755 .nil)
        (.cons "settings.env" (.file 0o644 "OLD=1\n".toUTF8) .nil))⟩ }
    let config : GeneratorConfig := { (default : GeneratorConfig) with
      template? := some "NEW=1\n"
      target? := some ⟨"settings.env"⟩
      envFile := ⟨"config/../settings.env/"⟩ }
    let project : Project := ⟨⟨"."⟩, some ⟨"example.com/shop"⟩, [⟨⟨"db.go"⟩, "config",
      [⟨"config", ⟨""⟩, "Db", "@app-cfg (prefix:\"DB\")", .struct, [⟨"Host", ""⟩]⟩]⟩]⟩
    ∃ generator behind, Generator.make config .idle = .ok generator ∧
      (generator.target project).agrees (generator.envFile project) = false ∧
      (generator.generate project []).on host =
        (.error (.io (generator.envFile project) .notDirectory), behind) ∧
      (host.readOptional (generator.envFile project)).1.getD "" = "OLD=1\n" ∧
      (behind.readOptional (generator.envFile project)).1.getD "" = "NEW=1\n" := by
  intro host config project
  let generator : Generator := ⟨config, ⟨.cons (.text "NEW=1\n") .nil⟩, .idle⟩
  let marked : List MarkedType := [databaseStruct]
  let descriptors : List Descriptor := [databaseDescriptor]
  have made : Generator.make config .idle = .ok generator := make_eq_of_parse rfl (by rfl) .idle
  have marks : generator.marked project = .ok marked := marked_databaseSource rfl _ _
  have describes : generator.describe marked = .ok descriptors :=
    describe_databaseStruct rfl (by decide)
  have renders : generator.template.render host.environment
      (generator.wiringFile project marked descriptors) = .ok (.source "NEW=1\n") := rfl
  have target : generator.target project = ⟨"./settings.env"⟩ := by decide +kernel
  have envFile : generator.envFile project = ⟨"./config/../settings.env/"⟩ := by decide +kernel
  -- The generated file takes the place of the env file.
  have accepts : host.Accepts (generator.target project) [] "settings.env" := by
    rw [target]
    exact ⟨by decide, by decide, Host.openDirectory_dot rfl, by decide +kernel⟩
  -- The path of the env file leads there by a detour, which goes on in the tree that was written.
  have ends : FileTree.EndsIn (generator.envFile project) "settings.env" := by
    rw [envFile]
    decide
  have detour {tree : FileTree} (root : tree.shapeAt? [] = some .directory)
      (inner : tree.shapeAt? ["config"] = some .directory) :
      tree.openDirectory [] (generator.envFile project).directory = .ok [] := by
    rw [envFile]
    exact FileTree.openDirectory_of_into_up (by decide) (by decide) (by decide) root inner
  have before : host.Standing (generator.envFile project) "OLD=1\n" :=
    .file (Path.fileName?_of_getLast? ends.last) (detour rfl rfl) rfl ends.nameUnended ends.short
  obtain ⟨_, behind, failed, _, standing⟩ : ∃ mode behind,
      (generator.generate project []).on host =
          (.error (.io (generator.envFile project) .notDirectory), behind) ∧
        behind.files = host.files.put [] "settings.env" (.file mode "NEW=1\n".toUTF8) ∧
        behind.Standing (generator.envFile project) "NEW=1\n" :=
    exists_generate_of_slash rfl rfl marks describes renders accepts ends
      (by rw [envFile]; decide) (fun _ => detour rfl rfl) (fun mode => by exact ⟨mode, rfl⟩)
      (by decide +kernel)
  exact ⟨generator, behind, made, by rw [target, envFile]; decide, failed,
    before.getD_readOptional, standing.getD_readOptional⟩

end Generator
end ConfigWiring
