import ConfigWiring.Proofs.EnvFile.Repetition
import ConfigWiring.Proofs.Host.Rewriting
import ConfigWiring.Proofs.Project.SourceListing

/-!
# Synchronising once more

A run on an env file changes no file but that one.  Behind a run that succeeded another one
succeeds too, provided that the directory of the file still opens if the first run wrote it.
-/

namespace ConfigWiring
namespace EnvFile

variable {path : Path} {host behind : Host} {descriptors : List Descriptor} {report : SyncReport}

/-- A run that adds names succeeds where the directory of the file opens and holds no directory
of its name; it puts the file there. -/
theorem exists_synchronize_of_endsIn
    {place : Place}
    {name : String}
    (ends : FileTree.EndsIn path name)
    (unslashed : path.endsInSlash = false)
    (opens : host.files.openDirectory host.place path.directory = .ok place)
    (free : host.files.shapeAt? (place ++ [name]) ≠ some .directory)
    (incomplete : (mergeOf path descriptors host).added ≠ []) :
    ∃ report behind mode text, (synchronize path descriptors).on host = (.ok report, behind) ∧
      behind.place = host.place ∧
        behind.files = host.files.put place name (.file mode text) := by
  have opensWarned : (warned path descriptors host).files.openDirectory
      (warned path descriptors host).place path.directory = .ok place := opens
  have replaced := Host.replaceFile_of_endsIn ends unslashed opensWarned free
    (mergeOf path descriptors host).file.render
  rw [synchronize_of_added incomplete, replaced]
  exact ⟨_, _, _, _, rfl, rfl, rfl⟩

/-- A run succeeds where the directory of the file opens and holds no directory of its name. -/
theorem exists_synchronize
    {place : Place}
    {name : String}
    (ends : FileTree.EndsIn path name)
    (unslashed : path.endsInSlash = false)
    (opens : host.files.openDirectory host.place path.directory = .ok place)
    (free : host.files.shapeAt? (place ++ [name]) ≠ some .directory)
    (descriptors : List Descriptor) :
    ∃ report behind, (synchronize path descriptors).on host = (.ok report, behind) := by
  by_cases complete : (mergeOf path descriptors host).added = []
  · exact ⟨_, _, synchronize_of_added_nil complete⟩
  · obtain ⟨report, behind, _, _, synchronized, _⟩ :=
      exists_synchronize_of_endsIn ends unslashed opens free complete
    exact ⟨report, behind, synchronized⟩

/-- What a run that succeeds does to the files: nothing if it adds nothing, otherwise it makes
sure of the directory of the env file and puts the file there. -/
theorem files_of_synchronize
    (synchronized : (synchronize path descriptors).on host = (.ok report, behind)) :
    behind.place = host.place ∧ behind.umask = host.umask ∧
      report.added = (mergeOf path descriptors host).added ∧
      (report.added = [] ∧ behind.files = host.files ∨
        report.added ≠ [] ∧ ∃ files place name mode text,
          host.files.ensureDirectory host.umask host.place path.directory = (files, none) ∧
            files.locateName host.place path = .ok (place, some name) ∧
            path.endsInSlash = false ∧
            files.shapeAt? (place ++ [name]) ≠ some .directory ∧
            behind.files = files.put place name (.file mode text)) := by
  cases synchronizes synchronized with
  | idle complete => exact ⟨rfl, rfl, complete.symm, .inl ⟨rfl, rfl⟩⟩
  | wrote incomplete replaced =>
      obtain ⟨files, place, name, ensured, located, unslashed, free, rfl⟩ :=
        Host.replaceFile_eq_ok replaced
      exact ⟨rfl, rfl, rfl,
        .inr ⟨incomplete, files, place, name, _, _, ensured, located, unslashed, free, rfl⟩⟩

/-- Where the env file was put is where its path leads behind the run, if it leads anywhere. -/
theorem spot?_of_put
    {files : FileTree}
    {place spot : Place}
    {name : String}
    {mode : Nat}
    {text : ByteArray}
    (located : files.locateName host.place path = .ok (place, some name))
    (samePlace : behind.place = host.place)
    (put : behind.files = files.put place name (.file mode text))
    (leads : behind.spot? path = some spot) :
    spot = place ++ [name] := by
  obtain ⟨opened, named, isNamed, opens, rfl⟩ := Host.spot?_eq_some.1 leads
  rw [put, samePlace] at opens
  obtain ⟨rfl, _⟩ := FileTree.place_eq_of_openDirectory located opens
  rw [Path.fileName?_of_getLast? (FileTree.locateName_eq_ok_iff.1 located).1.last] at isNamed
  rw [Option.some.inj isNamed]

/-- A run takes no file away and makes no link. -/
theorem grown_of_synchronize
    (synchronized : (synchronize path descriptors).on host = (.ok report, behind)) :
    host.files.Grown behind.files := by
  obtain ⟨_, _, _, ⟨_, same⟩ | ⟨_, files, place, name, mode, text, ensured, _, _, free, put⟩⟩ :=
    files_of_synchronize synchronized
  · rw [same]
    exact .refl _
  · have made := FileTree.grown_ensureDirectory host.files host.umask host.place path.directory
    rw [ensured] at made
    rw [put]
    exact made.trans (.put free (.inl rfl))

/-- A run leaves every other file as it is. -/
theorem at?_of_synchronize
    {spot : Place}
    {mode : Nat}
    {bytes : ByteArray}
    (synchronized : (synchronize path descriptors).on host = (.ok report, behind))
    (file : host.files.at? spot = some (.file mode bytes))
    (apart : report.added ≠ [] -> ∃ other, behind.spot? path = some other ∧ other ≠ spot) :
    behind.files.at? spot = some (.file mode bytes) := by
  obtain ⟨samePlace, _, _, ⟨_, same⟩ | ⟨something, files, place, name, _, _, ensured, located, _,
    free, put⟩⟩ := files_of_synchronize synchronized
  · rw [same, file]
  · obtain ⟨other, leads, different⟩ := apart something
    rw [spot?_of_put located samePlace put leads] at different
    have there := FileTree.at?_ensureDirectory_of_file file host.umask host.place path.directory
    rw [ensured] at there
    rw [put]
    exact FileTree.at?_put_of_file there (FileTree.not_prefix_of_free there free different)

/-- A run changes no source, unless the env file bears the name of one. -/
theorem differAt_of_synchronize
    {root target : Place}
    {bytes : ByteArray}
    (synchronized : (synchronize path descriptors).on host = (.ok report, behind))
    (here : host.files.shapeAt? root = some .directory)
    (hereBehind : behind.files.shapeAt? root = some .directory)
    (foreign : report.added ≠ [] -> ∀ name, path.fileName? = some name -> isSourceName name = false) :
    DifferAt root target bytes (Project.entriesAt host.files root).sources
      (Project.entriesAt behind.files root).sources := by
  obtain ⟨_, _, _, ⟨_, same⟩ | ⟨something, files, place, name, _, _, ensured, located, _, free,
    put⟩⟩ := files_of_synchronize synchronized
  · rw [same]
    exact .refl _
  · have made := FileTree.differAt_ensureDirectory here target bytes host.umask host.place
      path.directory
    rw [ensured] at made
    obtain ⟨opened, opens⟩ := FileTree.openDirectory_of_ensureDirectory ensured
    obtain rfl := FileTree.eq_of_openDirectory_of_locateName opens located
    rw [put] at hereBehind ⊢
    have named := Path.fileName?_of_getLast? (FileTree.locateName_eq_ok_iff.1 located).1.last
    exact made.2.trans (FileTree.differAt_put_file_of_not_source
      (FileTree.not_prefix_of_put_file (FileTree.openDirectory_eq_ok opens).2 hereBehind) free
      (foreign something name named) _ _)

/-- A run behind another one succeeds, provided that the directory of the env file still opens
if the first run wrote the file.  It changes nothing but the content of that file. -/
theorem exists_synchronize_again
    {after : Host}
    (synchronized : (synchronize path descriptors).on host = (.ok report, behind))
    (files : after.files = behind.files)
    (place : after.place = behind.place)
    (opens : report.added ≠ [] ->
      ∃ opened, behind.files.openDirectory behind.place path.directory = .ok opened) :
    ∃ report' final, (synchronize path descriptors).on after = (.ok report', final) ∧
      final.place = behind.place ∧
        (final.files = behind.files ∨
          report.added ≠ [] ∧ ∃ opened name mode old mode' new,
            path.fileName? = some name ∧
              behind.files.openDirectory behind.place path.directory = .ok opened ∧
              behind.files.at? (opened ++ [name]) = some (.file mode old) ∧
              final.files = behind.files.put opened name (.file mode' new)) := by
  by_cases complete : (mergeOf path descriptors after).added = []
  · exact ⟨_, _, synchronize_of_added_nil complete, place, .inl files⟩
  obtain ⟨samePlace, _, added, ⟨nothing, sameFiles⟩ | ⟨something, before, spot, name, mode, text,
    ensured, located, unslashed, free, put⟩⟩ := files_of_synchronize synchronized
  · -- The second run finds what the first one found, which lacked nothing.
    have idle : IsIdle path descriptors host :=
      ⟨_, _, synchronize_of_added_nil (added.symm.trans nothing), rfl, rfl, rfl⟩
    rw [isIdle_iff, ← load_source_congr (files.trans sameFiles) (place.trans samePlace),
      ← isIdle_iff] at idle
    obtain ⟨report', final, again, addedAgain, _, filesAgain⟩ := idle
    have lacks := (files_of_synchronize again).2.2.1
    exact absurd (lacks.symm.trans addedAgain) complete
  · obtain ⟨opened, opensBehind⟩ := opens something
    have opensPut := opensBehind
    rw [put, samePlace] at opensPut
    obtain ⟨rfl, there⟩ := FileTree.place_eq_of_openDirectory located opensPut
    obtain ⟨ends, _⟩ := FileTree.locateName_eq_ok_iff.1 located
    obtain ⟨outer, entries, thereNode⟩ := FileTree.shapeAt?_eq_directory.1 there
    have stands : behind.files.at? (opened ++ [name]) = some (.file mode text) := by
      rw [put]
      exact FileTree.at?_put thereNode name _
    have freeNow : after.files.shapeAt? (opened ++ [name]) ≠ some .directory := by
      rw [files, FileTree.shapeAt?, stands]
      simp [FileNode.shape]
    have opensNow : after.files.openDirectory after.place path.directory = .ok opened := by
      rw [files, place]
      exact opensBehind
    obtain ⟨report', final, mode', new, again, finalPlace, finalFiles⟩ :=
      exists_synchronize_of_endsIn ends unslashed opensNow freeNow complete
    refine ⟨report', final, again, finalPlace.trans place, .inr ⟨something, opened, name, mode,
      text, mode', new, Path.fileName?_of_getLast? ends.last, opensBehind, stands, ?_⟩⟩
    rw [finalFiles, files]

end EnvFile
end ConfigWiring
