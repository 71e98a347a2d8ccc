import ConfigWiring.Proofs.EnvFile.Repetition
import ConfigWiring.Proofs.Host.Landing

/-!
# Runs on one env file from two hosts

What a run adds and gives to the process depends on the text that it reads and on the variables
of the process.  Two hosts that agree on these see the same report, and the file gets the same
text on both.
-/

namespace ConfigWiring
namespace EnvFile

open FileTree (ChangedOnlyAt)

variable {path : Path} {host behind other behind' : Host} {descriptors : List Descriptor}
  {report report' : SyncReport}

/-- A run that succeeds finds nothing missing and leaves the files as they are, or its file
lands. -/
theorem landed_of_synchronize
    (synchronized : (synchronize path descriptors).on host = (.ok report, behind)) :
    report.added = [] ∧ behind.files = host.files ∨
      report.added ≠ [] ∧ ∃ spot mode, host.landing? path = some spot ∧
        behind.files.at? spot =
          some (.file mode (mergeOf path descriptors host).file.render.toUTF8) ∧
        ChangedOnlyAt (some spot) host.files behind.files := by
  obtain ⟨_, _, complete | ⟨incomplete, written, replaced, files, _⟩⟩ :=
    synchronize_eq_ok synchronized
  · exact .inl complete
  · obtain ⟨spot, landed⟩ := Host.landed_of_replaceFile replaced
    obtain ⟨mode, there⟩ := landed.there
    rw [← files] at there
    have changed := landed.changed
    rw [← files] at changed
    exact .inr ⟨incomplete, spot, mode, landed.lands, there, changed⟩

/-- A run changes no other leaf than the env file. -/
theorem changedOnlyAt_of_synchronize
    (synchronized : (synchronize path descriptors).on host = (.ok report, behind)) :
    ChangedOnlyAt (host.landing? path) host.files behind.files := by
  obtain ⟨_, files⟩ | ⟨_, spot, _, lands, _, changed⟩ := landed_of_synchronize synchronized
  · rw [files]
    exact .refl _ _
  · rwa [lands]

/-- A run makes no other new file than the env file. -/
theorem changedByFiles_of_synchronize
    (synchronized : (synchronize path descriptors).on host = (.ok report, behind)) :
    host.files.ChangedByFiles behind.files := by
  obtain ⟨_, files⟩ | ⟨_, spot, _, _, there, changed⟩ := landed_of_synchronize synchronized
  · rw [files]
    exact .refl _
  · refine changed.changedByFiles ?_
    rw [FileTree.shapeAt?, there]
    rfl

/-- The file that is read depends on its text and on the variables of the process. -/
theorem load_congr
    (read : (other.readOptional path).1 = (host.readOptional path).1)
    (environment : other.environment = host.environment) :
    (load other path).1 = (load host path).1 := by
  rw [load_of_fst_readOptional read, load_of_fst_readOptional rfl, environment]

theorem mergeOf_congr
    (read : (other.readOptional path).1 = (host.readOptional path).1)
    (environment : other.environment = host.environment) :
    mergeOf path descriptors other = mergeOf path descriptors host := by
  rw [mergeOf, mergeOf, load_congr read environment]

/-- What a run that succeeds reports, and the variables that it leaves. -/
theorem report_of_synchronize
    (synchronized : (synchronize path descriptors).on host = (.ok report, behind)) :
    let merge := mergeOf path descriptors host
    let exports := merge.file.exportTo host.environment
    report = ⟨merge.added, exports.exported, !merge.added.isEmpty⟩ ∧
      behind.environment = exports.environment := by
  cases synchronizes synchronized with
  | idle complete => exact ⟨by simp [complete], rfl⟩
  | @wrote written incomplete replaced =>
      obtain ⟨_, landed⟩ := Host.landed_of_replaceFile replaced
      have environment : written.environment = host.environment := landed.environment
      rw [environment]
      exact ⟨by simp [incomplete], rfl⟩

/-- A run that reports that it kept the file as it was has changed no file. -/
theorem files_eq_of_unpersisted
    (synchronized : (synchronize path descriptors).on host = (.ok report, behind))
    (unpersisted : report.persisted = false) :
    behind.files = host.files := by
  obtain ⟨reports, _⟩ := report_of_synchronize synchronized
  obtain ⟨_, files⟩ | ⟨something, _⟩ := landed_of_synchronize synchronized
  · exact files
  · rw [reports] at unpersisted something
    simp [something] at unpersisted

/-- Runs from two hosts that read the same text and have the same variables report the same and
leave the same variables. -/
theorem synchronize_agree
    (read : (other.readOptional path).1 = (host.readOptional path).1)
    (environment : other.environment = host.environment)
    (synchronized : (synchronize path descriptors).on host = (.ok report, behind))
    (synchronized' : (synchronize path descriptors).on other = (.ok report', behind')) :
    report' = report ∧ behind'.environment = behind.environment := by
  obtain ⟨reports, leaves⟩ := report_of_synchronize synchronized
  obtain ⟨reports', leaves'⟩ := report_of_synchronize synchronized'
  rw [mergeOf_congr read environment, environment] at reports' leaves'
  exact ⟨reports'.trans reports.symm, leaves'.trans leaves.symm⟩

/-- Of two such runs let the second one find a file that has landed behind another path.  The files
that they leave have the same bytes everywhere but there. -/
theorem bytesAt?_of_synchronize
    {target : Path}
    {text : String}
    {there spot : Place}
    (landed : Host.Landed target text host other there)
    (read : (other.readOptional path).1 = (host.readOptional path).1)
    (synchronized : (synchronize path descriptors).on host = (.ok report, behind))
    (synchronized' : (synchronize path descriptors).on other = (.ok report', behind'))
    (apart : there ≠ spot) :
    behind'.files.bytesAt? spot = behind.files.bytesAt? spot := by
  have elsewhere : other.files.leafAt? spot = host.files.leafAt? spot :=
    landed.changed.leaf spot (by simpa using apart)
  obtain ⟨sameReport, _⟩ := synchronize_agree read landed.environment synchronized synchronized'
  have first := landed_of_synchronize synchronized
  have second := landed_of_synchronize synchronized'
  rw [sameReport, mergeOf_congr read landed.environment] at second
  rcases first with ⟨nothing, files⟩ | ⟨something, here, mode, lands, wrote, changed⟩
  · rcases second with ⟨_, files'⟩ | ⟨something, _⟩
    · rw [files, files']
      exact FileTree.bytesAt?_eq_of_leafAt?_eq elsewhere
    · exact absurd nothing something
  · rcases second with ⟨nothing, _⟩ | ⟨_, here', mode', lands', wrote', changed'⟩
    · exact absurd nothing something
    · obtain rfl := Host.landing?_eq_of_akin landed.place (landed.akin path) lands lands'
      by_cases same : here' = spot
      · subst same
        rw [FileTree.bytesAt?_of_file wrote, FileTree.bytesAt?_of_file wrote']
      · have kept := changed.leaf spot (by simpa using same)
        have kept' := changed'.leaf spot (by simpa using same)
        exact FileTree.bytesAt?_eq_of_leafAt?_eq (kept'.trans (elsewhere.trans kept.symm))

end EnvFile
end ConfigWiring
