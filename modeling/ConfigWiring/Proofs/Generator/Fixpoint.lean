import ConfigWiring.Proofs.Generator.Repetition
import ConfigWiring.Proofs.Go.RegularTrees
import ConfigWiring.Proofs.WiringFile.StandardSource

/-!
# Generated files among the sources

The standard text is a source without types if everything in it can be pasted.  So a run that
wrote it can be repeated, even if the generated file is among the sources by then.
-/

namespace ConfigWiring

open Project

namespace Go

/-- A text none of whose items declares types has no declarations. -/
theorem exists_parseSource_of_isQuiet
    {text : String}
    {items : List Tree}
    (read : itemsOf text.toList = .ok items)
    (quiet : ∀ item ∈ items, item.IsQuiet)
    (path : Path) :
    ∃ file, parseSource path text = .ok file ∧ file.decls = [] := by
  refine ⟨_, parseSource_eq_ok_iff.2 ⟨items, read, rfl⟩, List.flatMap_eq_nil_iff.2 ?_⟩
  rintro ⟨item, siblings⟩ present
  simp only [declsOfItem, (quiet item (Doc.mem_of_mem_withSiblings present)).2]

end Go

namespace Generator

variable {generator : Generator} {config : GeneratorConfig} {host behind : Host}
  {project : Project} {further : List Descriptor} {report : GenerationReport} {root : Path}
  {place : Place}

/-- A generator without a template of its own has the standard one. -/
theorem make_eq_of_builtIn
    (builtIn : config.template? = none) :
    make config .idle = .ok ⟨config, ⟨WiringTemplate.standardParts⟩, .idle⟩ := by
  rw [make, builtIn, Option.getD_none, WiringTemplate.parse_standardText]

/-- A source of the standard text has no marked structs if everything in it can be pasted. -/
theorem structsIn_standardText
    {file : WiringFile}
    (something : file.descriptors ≠ [])
    (pastable : file.isPastable = true)
    (names : Place) :
    generator.structsIn root (names, file.standardText.toUTF8) = .ok [] := by
  obtain ⟨items, read, quiet⟩ := WiringFile.exists_itemsOf_standardText something pastable
  obtain ⟨source, parsed, nothing⟩ :=
    Go.exists_parseSource_of_isQuiet read quiet (sourcePath names)
  refine structsIn_eq_ok.2 ⟨source, [], ?_, ?_, rfl⟩
  · rw [readSource, FileTree.fromUTF8?_toUTF8]
    exact parsed
  · rw [nothing]
    rfl

/-- A run that wrote the standard text can be repeated exactly if the generated file, should it be
among the sources by then, is a source without marked structs; and that it is if everything in it
can be pasted. -/
theorem repeats_iff_of_generate
    (builtIn : config.template? = none)
    (made : Generator.make config .idle = .ok generator)
    (loaded : Project.load host root = .ok project)
    (opensRoot : host.files.openDirectory host.place root = .ok place)
    (generated : (generator.generate project further).on host = (.ok report, behind))
    (wrote : report.written = true)
    (undisturbed : generator.Undisturbed project host report behind place)
    (new : ∀ source ∈ (entriesAt host.files place).sources,
      behind.spot? (generator.target project) ≠ some (place ++ source.1)) :
    ∃ marked, generator.marked project = .ok marked ∧
      behind.files.readText behind.place (generator.target project) =
        .ok (generator.wiringFile project marked report.descriptors).standardText ∧
      (generator.Repeats project further report behind ↔
        ∀ source ∈ (entriesAt behind.files place).sources,
          behind.spot? (generator.target project) = some (place ++ source.1) ->
            generator.structsIn root source = .ok []) ∧
      ((generator.wiringFile project marked report.descriptors).isPastable = true ->
        generator.Repeats project further report behind) := by
  obtain ⟨standard, idle⟩ : generator.template = ⟨WiringTemplate.standardParts⟩ ∧
      generator.formatter = .idle := by
    rw [make_eq_of_builtIn builtIn] at made
    cases made
    exact ⟨rfl, rfl⟩
  obtain ⟨_, _, _, _, _, _, named⟩ := load_eq_ok.1 loaded
  have sameRoot : project.root = root := congrArg Project.root named
  obtain ⟨marked, text, written, writing, _⟩ := exists_writing idle generated wrote
  obtain ⟨something, rfl⟩ := text_eq_of_render standard writing.renders
  rw [← sameRoot] at opensRoot
  obtain ⟨opened, name, mode, settled⟩ := writing.exists_settled opensRoot undisturbed
  have leads : behind.spot? (generator.target project) = some (opened ++ [name]) :=
    Host.spot?_eq_some.2 ⟨opened, name, Path.fileName?_of_getLast? settled.ends.last,
      settled.opens, rfl⟩
  simp only [leads, Option.some.injEq, ne_eq, eq_comm (a := opened ++ [name])] at new ⊢
  have repeats_iff : generator.Repeats project further report behind ↔
      ∀ source ∈ (entriesAt behind.files place).sources, place ++ source.1 = opened ++ [name] ->
        generator.structsIn root source = .ok [] := by
    rw [← sameRoot]
    exact ⟨structsIn_of_repeats idle loaded opensRoot writing settled new,
      repeats_of_structsIn idle standard loaded opensRoot writing undisturbed settled new⟩
  refine ⟨marked, writing.marks, settled.readText, repeats_iff, fun pastable => ?_⟩
  rw [repeats_iff]
  -- A source in the place of the generated file is new, so it has the text that was written.
  intro source present there
  rcases settled.differ.mem_after source present with earlier | ⟨_, bytes⟩
  · exact absurd there (new source earlier)
  · obtain ⟨names, content⟩ := source
    obtain rfl : content = _ := bytes
    exact structsIn_standardText something pastable names

/-- A project with one marked struct is generated and generated again, by when the generated file is
among its sources. -/
theorem repeats_of_marked_struct :
    let source := "package config\n\n// @app-cfg (prefix:\"DB\")\ntype Db struct \x7b\n\tHost string\n\x7d\n"
    let host : Host := { (default : Host) with
      files := ⟨.directory 0o755 (.cons "db.go" (.file 0o644 source.toUTF8)
        (.cons "go.mod" (.file 0o644 "module example.com/shop\n".toUTF8) .nil))⟩ }
    let config : GeneratorConfig := { (default : GeneratorConfig) with
      target? := some ⟨"wiring.go"⟩, dotenv := false }
    ∃ generator project report behind, Generator.make config .idle = .ok generator ∧
      Project.load host ⟨"."⟩ = .ok project ∧
        (generator.generate project []).on host = (.ok report, behind) ∧ report.written = true ∧
          generator.Repeats project [] report behind := by
  intro source host config
  let generator : Generator := ⟨config, ⟨WiringTemplate.standardParts⟩, .idle⟩
  have made : Generator.make config .idle = .ok generator := make_eq_of_builtIn rfl
  let project : Project := ⟨⟨"."⟩, some ⟨"example.com/shop"⟩, [databaseSource]⟩
  let marked : List MarkedType := [databaseStruct]
  let descriptors : List Descriptor := [databaseDescriptor]
  let wiring := generator.wiringFile project marked descriptors
  have opens : host.files.openDirectory host.place ⟨"."⟩ = .ok [] := Host.openDirectory_dot rfl
  have moduleText : host.files.readNamed [] moduleFileName = .ok "module example.com/shop\n" :=
    FileTree.readNamed_of_file (by decide) (by decide) rfl
  have sources : (entriesAt host.files []).sources = [(["db.go"], source.toUTF8)] := by
    rw [FileNodes.sources, List.mergeSort_of_pairwise (by decide +kernel)]
    rfl
  have loaded : Project.load host ⟨"."⟩ = .ok project :=
    load_of_source rfl moduleText (by decide +kernel) sources parseSource_databaseText
  have marks : generator.marked project = .ok marked := marked_databaseSource rfl _ _
  have describes : generator.describe marked = .ok descriptors :=
    describe_databaseStruct rfl (by decide)
  -- The run puts the standard text into the directory of the project.
  have resolved : generator.target project = ⟨"./wiring.go"⟩ := by decide +kernel
  have ends : FileTree.EndsIn ⟨"./wiring.go"⟩ "wiring.go" := by decide
  let told := host.tell (generator.importNotices project marked)
  have opensTarget : told.files.openDirectory told.place (Path.directory ⟨"./wiring.go"⟩) = .ok [] :=
    Host.openDirectory_dot rfl
  obtain ⟨mode, replaced⟩ : ∃ mode, told.replaceFile (generator.target project) wiring.standardText =
      (.ok (), { told with
        files := told.files.put [] "wiring.go" (.file mode wiring.standardText.toUTF8) }) := by
    rw [resolved]
    exact ⟨_, Host.replaceFile_of_endsIn ends (by decide) opensTarget (by decide +kernel) _⟩
  let behind := Host.tell { told with
      files := told.files.put [] "wiring.go" (.file mode wiring.standardText.toUTF8) }
    [.wiringGenerated (generator.target project) descriptors.length]
  have writing : generator.Writing project [] host marked descriptors wiring.standardText _ none
      behind :=
    { marks
      describes
      renders := WiringTemplate.render_standardParts (by decide) _
      replaces := replaced
      seeds := ⟨rfl, rfl⟩ }
  have generated := writing.generate rfl
  have opensBehind : behind.files.openDirectory behind.place ⟨"."⟩ = .ok [] :=
    Host.openDirectory_dot rfl
  have leads : behind.spot? (generator.target project) = some ["wiring.go"] := by
    rw [resolved]
    exact Host.spot?_eq_some.2 ⟨[], "wiring.go", by decide, opensBehind, rfl⟩
  have moduleBehind : behind.files.readNamed [] moduleFileName = .ok "module example.com/shop\n" :=
    FileTree.readNamed_of_file (by decide) (by decide) rfl
  have undisturbed : generator.Undisturbed project host
      ⟨generator.target project, true, false, descriptors, none⟩ behind [] :=
    { root := ⟨_, opensBehind⟩
      moduleFile := moduleBehind.trans moduleText.symm
      target := ⟨_, leads⟩
      envFile := fun _ none => by cases none }
  have pastable : wiring.isPastable = true := by decide +kernel
  have new : ∀ source ∈ (entriesAt host.files []).sources,
      behind.spot? (generator.target project) ≠ some ([] ++ source.1) := by
    rw [sources, leads]
    decide
  obtain ⟨_, same, _, _, repeats⟩ :=
    repeats_iff_of_generate rfl made loaded opens generated rfl undisturbed new
  cases marks.symm.trans same
  exact ⟨generator, project, _, behind, made, loaded, generated, rfl, repeats pastable⟩

end Generator
end ConfigWiring
