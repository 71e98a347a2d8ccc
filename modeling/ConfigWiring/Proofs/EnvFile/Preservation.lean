import ConfigWiring.Proofs.EnvFile.Continuation
import ConfigWiring.Proofs.EnvFile.Effect
import ConfigWiring.Proofs.Host.Rewriting

/-!
# What a run leaves of the bytes of a file

A file that is a text is kept and continued.  A file that is no text is read as an empty one, so
the lines of the added names take the place of its bytes.
-/

namespace ConfigWiring

namespace FileTree

variable {tree : FileTree} {place : Place} {name : String} {mode : Nat} {bytes new : ByteArray}

/-- Whether a file stands at a place that begins with the given bytes. -/
def BeginsWith (tree : FileTree) (spot : Place) (bytes : ByteArray) : Prop :=
  ∃ mode content, tree.at? spot = some (.file mode content) ∧
    bytes.data.toList <+: content.data.toList

theorem beginsWith_iff
    {spot : Place}
    (there : tree.at? spot = some (.file mode new)) :
    tree.BeginsWith spot bytes ↔ bytes.data.toList <+: new.data.toList := by
  constructor
  · rintro ⟨_, content, present, begins⟩
    rw [there] at present
    cases present
    exact begins
  · exact fun begins => ⟨mode, new, there, begins⟩

/-- Bytes that are no text are not read, whatever their file is called. -/
theorem readNamed_of_not_text
    (there : tree.at? (place ++ [name]) = some (.file mode bytes))
    (undecodable : String.fromUTF8? bytes = none) :
    ∃ fault, tree.readNamed place name = .error fault := by
  have shape : tree.shapeAt? (place ++ [name]) = some .file := by
    rw [shapeAt?, there]
    rfl
  unfold readNamed
  split
  · exact ⟨_, rfl⟩
  · rw [follow_into, shape]
    by_cases long : name.utf8ByteSize > maxNameSize
    · rw [if_pos long]
      exact ⟨_, rfl⟩
    · rw [if_neg long]
      simp only [List.isEmpty_nil, if_true, there, textOf, undecodable]
      exact ⟨_, rfl⟩

end FileTree

namespace EnvFile

open FileTree

variable {path : Path} {host behind : Host} {descriptors : List Descriptor} {place : Place}
  {name : String} {mode : Nat} {bytes : ByteArray} {outcome : Except Failure SyncReport}

/-- A text is where it was when further text stands behind it. -/
theorem prefix_toUTF8_append (text more : String) :
    text.toUTF8.data.toList <+: (text ++ more).toUTF8.data.toList := by
  simp only [String.toUTF8_eq_toByteArray, String.toByteArray_append, ByteArray.data_append,
    Array.toList_append]
  exact List.prefix_append _ _

theorem exists_closedText_eq (text : String) : ∃ feed, closedText text = text ++ feed := by
  unfold closedText
  split
  · exact ⟨"", by simp⟩
  · exact ⟨"\n", rfl⟩

/-- A run leaves a file as it is, or replaces it by the text of the merge and succeeds. -/
theorem file_of_synchronize
    (named : path.fileName? = some name)
    (opens : host.files.openDirectory host.place path.directory = .ok place)
    (synchronized : (synchronize path descriptors).on host = (outcome, behind)) :
    (mergeOf path descriptors host).added = [] ∧ behind.files = host.files ∨
      (∃ failure, outcome = .error failure) ∧ behind.files = host.files ∨
      (mergeOf path descriptors host).added ≠ [] ∧ (∃ report, outcome = .ok report) ∧
        EndsIn path name ∧ ∃ mode, behind.files.at? (place ++ [name]) =
          some (.file mode (mergeOf path descriptors host).file.render.toUTF8) := by
  have ensured : host.files.ensureDirectory host.umask host.place path.directory =
      (host.files, none) := ensureDirectory_of_openDirectory _ opens
  cases synchronizes synchronized with
  | idle complete => exact .inl ⟨complete, rfl⟩
  | @failed failure _ _ replaced =>
      refine .inr (.inl ⟨⟨failure, rfl⟩, ?_⟩)
      unfold Host.replaceFile at replaced
      rw [show (warned path descriptors host).files.ensureDirectory
        (warned path descriptors host).umask (warned path descriptors host).place
          path.directory = (host.files, none) from ensured] at replaced
      dsimp only at replaced
      split at replaced
      · cases replaced
      · cases replaced
        rfl
  | wrote incomplete replaced =>
      obtain ⟨files, spot, key, made, located, _, _, rfl⟩ := Host.replaceFile_eq_ok replaced
      obtain ⟨rfl, _⟩ : host.files = files ∧ (none : Option FileFault) = none := by
        simpa using ensured.symm.trans made
      obtain rfl := eq_of_openDirectory_of_locateName opens located
      obtain ⟨ends, _⟩ := locateName_eq_ok_iff.1 located
      obtain rfl : key = name :=
        Option.some.inj ((Path.fileName?_of_getLast? ends.last).symm.trans named)
      obtain ⟨_, directory⟩ := openDirectory_eq_ok opens
      obtain ⟨_, _, there⟩ := shapeAt?_eq_directory.1 directory
      exact .inr (.inr ⟨incomplete, ⟨_, rfl⟩, ends, _, at?_put there key _⟩)

/-- The merge of a run that finds a text begins with this text. -/
theorem exists_render_of_standing
    {text : String}
    (standing : host.Standing path text)
    (descriptors : List Descriptor) :
    ∃ more, (mergeOf path descriptors host).file.render = text ++ more := by
  obtain ⟨source, _⟩ := load_standing standing
  obtain ⟨_, mergedSource, holds⟩ :=
    merge_eq_missing (holds_load host path) (Descriptor.allFields descriptors)
  obtain ⟨feed, closing⟩ := exists_closedText_eq text
  have render := holds.render_eq
  rw [mergedSource, source, closing, String.append_assoc] at render
  exact ⟨_, render⟩

/-- The merge of a run that finds a file that is no text has the lines of all names that the
fields ask for, and nothing in front of them. -/
theorem merge_of_not_text
    (named : path.fileName? = some name)
    (opens : host.files.openDirectory host.place path.directory = .ok place)
    (there : host.files.at? (place ++ [name]) = some (.file mode bytes))
    (undecodable : String.fromUTF8? bytes = none)
    (descriptors : List Descriptor) :
    (mergeOf path descriptors host).added =
        missingNames (fun _ => false) (Descriptor.allFields descriptors) ∧
      (mergeOf path descriptors host).file.render =
        writeAll (missingEntries (fun _ => false) (Descriptor.allFields descriptors)) := by
  obtain ⟨fault, unread⟩ := readNamed_of_not_text there undecodable
  have nothing : (host.readOptional path).1 = none := by
    unfold Host.readOptional
    simp only [named, opens, unread]
    cases fault <;> rfl
  have loaded : (load host path).1 = empty := load_of_fst_readOptional nothing
  have unknown : empty.contains = fun _ => false := rfl
  obtain ⟨added, source, holds⟩ :=
    merge_eq_missing (holds_load host path) (Descriptor.allFields descriptors)
  rw [loaded, unknown] at added holds
  rw [loaded] at source
  refine ⟨by rw [mergeOf, loaded, added], ?_⟩
  rw [mergeOf, loaded, holds.render_eq, source]
  simp [empty, closedText]

/-- Behind a run the file begins with the bytes that it had exactly if these are a text, the run
failed, no field asks for a name that a variable can have, or the bytes happen to be what the
lines of these names begin with. -/
theorem synchronize_keeps_iff
    (named : path.fileName? = some name)
    (opens : host.files.openDirectory host.place path.directory = .ok place)
    (there : host.files.at? (place ++ [name]) = some (.file mode bytes))
    (synchronized : (synchronize path descriptors).on host = (outcome, behind)) :
    let missing := missingEntries (fun _ => false) (Descriptor.allFields descriptors)
    behind.files.BeginsWith (place ++ [name]) bytes ↔
      (String.fromUTF8? bytes).isSome = true ∨ (∃ failure, outcome = .error failure) ∨
        missing = [] ∨ bytes.data.toList <+: (writeAll missing).toUTF8.data.toList := by
  intro missing
  cases decoded : String.fromUTF8? bytes with
  | some text =>
      refine iff_of_true ?_ (.inl rfl)
      rcases file_of_synchronize named opens synchronized with
        ⟨_, files⟩ | ⟨_, files⟩ | ⟨_, _, ends, mode, written⟩
      · exact ⟨mode, bytes, files ▸ there, List.prefix_refl _⟩
      · exact ⟨mode, bytes, files ▸ there, List.prefix_refl _⟩
      · obtain rfl := toUTF8_of_fromUTF8? decoded
        obtain ⟨more, render⟩ := exists_render_of_standing
          (.file named opens there ends.nameUnended ends.short) descriptors
        rw [beginsWith_iff written, render]
        exact prefix_toUTF8_append text more
  | none =>
      obtain ⟨added, render⟩ := merge_of_not_text named opens there decoded descriptors
      rcases file_of_synchronize named opens synchronized with
        ⟨complete, files⟩ | ⟨failed, files⟩ | ⟨incomplete, ⟨report, rfl⟩, _, mode, written⟩
      · refine iff_of_true ⟨mode, bytes, files ▸ there, List.prefix_refl _⟩
          (.inr (.inr (.inl ?_)))
        rw [added, ← map_fst_missingEntries] at complete
        exact List.map_eq_nil_iff.1 complete
      · exact iff_of_true ⟨mode, bytes, files ▸ there, List.prefix_refl _⟩ (.inr (.inl failed))
      · have something : missing ≠ [] := by
          intro none
          rw [added, ← map_fst_missingEntries] at incomplete
          exact incomplete (List.map_eq_nil_iff.2 none)
        rw [beginsWith_iff written, render]
        simp [something, missing]

/-- A text without a line feed at its end stays in front of the line that is added. -/
theorem synchronize_keeps_of_text :
    let host : Host := { (default : Host) with
      files := ⟨.directory 0o755 (.cons ".env" (.file 0o644 "A=é # kept".toUTF8) .nil)⟩ }
    let descriptors : List Descriptor := [⟨"", "", "", [⟨"A", "2"⟩, ⟨"B", "3"⟩]⟩]
    ∃ report behind, (synchronize ⟨".env"⟩ descriptors).on host = (.ok report, behind) ∧
      behind.files.BeginsWith [".env"] "A=é # kept".toUTF8 := by
  intro host descriptors
  have named : Path.fileName? ⟨".env"⟩ = some ".env" := by decide
  have opens : host.files.openDirectory host.place (Path.directory ⟨".env"⟩) = .ok [] :=
    Host.openDirectory_dot rfl
  have ends : EndsIn ⟨".env"⟩ ".env" := by decide
  obtain ⟨report, behind, synchronized⟩ :=
    exists_synchronize ends (by decide) opens (by decide) descriptors
  have decoded : (String.fromUTF8? "A=é # kept".toUTF8).isSome = true := by
    rw [fromUTF8?_toUTF8]
    rfl
  exact ⟨report, behind, synchronized,
    (synchronize_keeps_iff named opens rfl synchronized).2 (.inl decoded)⟩

/-- One byte that no text has gives way to the line that is added. -/
theorem not_synchronize_keeps_of_stray_byte :
    ¬∀ (host behind : Host) (path : Path) (descriptors : List Descriptor) (place : Place)
      (name : String) (mode : Nat) (bytes : ByteArray) (outcome : Except Failure SyncReport),
      path.fileName? = some name ->
        host.files.openDirectory host.place path.directory = .ok place ->
          host.files.at? (place ++ [name]) = some (.file mode bytes) ->
            (synchronize path descriptors).on host = (outcome, behind) ->
              behind.files.BeginsWith (place ++ [name]) bytes := by
  intro keeps
  let host : Host := { (default : Host) with
    files := ⟨.directory 0o755 (.cons ".env" (.file 0o644 ⟨#[0xff]⟩) .nil)⟩ }
  let descriptors : List Descriptor := [⟨"", "", "", [⟨"A", "1"⟩]⟩]
  have named : Path.fileName? ⟨".env"⟩ = some ".env" := by decide
  have opens : host.files.openDirectory host.place (Path.directory ⟨".env"⟩) = .ok [] :=
    Host.openDirectory_dot rfl
  have undecodable : String.fromUTF8? ⟨#[0xff]⟩ = none := by decide
  obtain ⟨added, render⟩ := merge_of_not_text named opens rfl undecodable descriptors
  have incomplete : (mergeOf ⟨".env"⟩ descriptors host).added ≠ [] := by
    rw [added]
    decide
  obtain ⟨report, behind, mode, synchronized, _, _, files⟩ :=
    exists_synchronize_of_name ".env" (by decide) (by decide) rfl (by decide) incomplete
  have lines : writeAll (missingEntries (fun _ => false) (Descriptor.allFields descriptors)) =
      "A=1\n" := by decide
  have written : behind.files.at? [".env"] = some (.file mode "A=1\n".toUTF8) := by
    rw [files, render, lines]
    rfl
  have begins := keeps _ _ _ _ _ _ _ _ _ named opens rfl synchronized
  rw [List.nil_append, beginsWith_iff written] at begins
  exact absurd begins (by decide)

end EnvFile
end ConfigWiring
