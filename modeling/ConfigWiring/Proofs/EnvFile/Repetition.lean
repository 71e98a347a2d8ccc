import ConfigWiring.EnvFile.Sync
import ConfigWiring.Proofs.EnvFile.Naming
import ConfigWiring.Proofs.Host.ReadBack

/-!
# Synchronising twice

The second of two runs in a row sees of the first one what it reads from the file.  It has
nothing to add exactly if the file is still found and gives every added name a value: each of
them can stand in front of an equals sign, and the text in front of the added lines takes none
of them into a quote that it leaves open.
-/

namespace ConfigWiring
namespace EnvFile

variable {environment : Environment} {file : EnvFile} {path : Path} {host behind : Host}
  {descriptors : List Descriptor}

/-! ## Merging -/

/-- Whether one of the fields asks for a name that a variable can have. -/
def Asked (fields : List FieldDescriptor) (name : String) : Prop :=
  ∃ field ∈ fields, field.key = name ∧ Environment.isName field.key = true

/-- What has been merged into a file: further entries, for the names that were asked for and
had no value. -/
structure Merged
    (environment : Environment)
    (file : EnvFile)
    (fields : List FieldDescriptor)
    (merge : Merge)
    (pairs : List (String × String)) : Prop where
  /-- The entries of the file and the further ones. -/
  holds : Holds environment merge.file pairs
  /-- The text stays. -/
  source : merge.file.source = file.source
  /-- The names of the further entries are reported. -/
  added : merge.added = pairs.map Prod.fst
  /-- The further names were asked for and had no value. -/
  mem_added : ∀ name, name ∈ merge.added ↔ file.contains name = false ∧ Asked fields name

/-- A name has a value behind the merge if it had one or was added. -/
theorem Merged.contains_iff
    {fields : List FieldDescriptor}
    {merge : Merge}
    {pairs : List (String × String)}
    (merged : Merged environment file fields merge pairs)
    (fresh : Holds environment file [])
    (name : String) :
    merge.file.contains name = true ↔ file.contains name = true ∨ name ∈ merge.added := by
  rw [fresh.contains_iff merged.holds merged.source, merged.added, Bool.or_eq_true,
    List.contains_iff_mem]

/-- One more field adds its name unless it is unfit or has a value. -/
theorem Merged.step
    {fields : List FieldDescriptor}
    {merge : Merge}
    {pairs : List (String × String)}
    (merged : Merged environment file fields merge pairs)
    (fresh : Holds environment file [])
    (field : FieldDescriptor) :
    ∃ morePairs, Merged environment file (fields ++ [field]) (merge.step field) morePairs := by
  have asked (name : String) : Asked (fields ++ [field]) name ↔
      Asked fields name ∨ field.key = name ∧ Environment.isName field.key = true := by
    simp [Asked, or_and_right, exists_or]
  unfold Merge.step
  split
  · next unfit =>
      refine ⟨pairs, merged.holds, merged.source, merged.added, fun name => ?_⟩
      rw [asked, merged.mem_added]
      simp_all
  · next fit =>
      have isName : Environment.isName field.key = true := by simpa using fit
      split
      · next present =>
          refine ⟨pairs, merged.holds, merged.source, merged.added, fun name => ?_⟩
          have known := (merged.contains_iff fresh field.key).1 present
          rw [merged.mem_added] at known
          rw [asked, merged.mem_added]
          constructor
          · exact fun ⟨absent, before⟩ => ⟨absent, .inl before⟩
          · rintro ⟨absent, before | ⟨rfl, _⟩⟩
            · exact ⟨absent, before⟩
            · rcases known with contained | added
              · rw [absent] at contained
                cases contained
              · exact added
      · next missing =>
          have absent : merge.file.contains field.key = false := by simpa using missing
          refine ⟨pairs ++ [(field.key, field.fallback)], merged.holds.add absent field.fallback,
            merged.source, by simp [merged.added], fun name => ?_⟩
          have before := merged.contains_iff fresh field.key
          rw [absent] at before
          have unknown : file.contains field.key = false := by
            by_contra contained
            exact absurd (before.2 (.inl (by simpa using contained))) (by simp)
          rw [asked, List.mem_append, List.mem_singleton, merged.mem_added]
          constructor
          · rintro (⟨unheld, earlier⟩ | rfl)
            · exact ⟨unheld, .inl earlier⟩
            · exact ⟨unknown, .inr ⟨rfl, isName⟩⟩
          · rintro ⟨unheld, earlier | ⟨rfl, _⟩⟩
            · exact .inl ⟨unheld, earlier⟩
            · exact .inr rfl

/-- Merging fields into a file that was just read adds what was asked for and missing. -/
theorem merged_merge
    (fresh : Holds environment file [])
    (fields : List FieldDescriptor) :
    ∃ pairs, Merged environment file fields (file.merge fields) pairs := by
  unfold merge
  induction fields using List.reverseRecOn with
  | nil => exact ⟨[], fresh, rfl, rfl, by simp [Asked]⟩
  | append_singleton fields field inductionHypothesis =>
      obtain ⟨pairs, merged⟩ := inductionHypothesis
      rw [List.foldl_append]
      exact merged.step fresh field

/-- Nothing is added exactly if everything that was asked for has a value. -/
theorem added_merge_eq_nil_iff
    (fresh : Holds environment file [])
    (fields : List FieldDescriptor) :
    (file.merge fields).added = [] ↔ ∀ name, Asked fields name -> file.contains name = true := by
  obtain ⟨pairs, merged⟩ := merged_merge fresh fields
  rw [List.eq_nil_iff_forall_not_mem]
  apply forall_congr'
  intro name
  rw [merged.mem_added]
  cases file.contains name <;> simp

namespace Merged

variable {fields : List FieldDescriptor} {merge : Merge} {pairs : List (String × String)}

/-- No name is added twice. -/
theorem distinct
    (merged : Merged environment file fields merge pairs) :
    (pairs.map Prod.fst).Nodup := by
  have names := merged.holds.distinct
  rw [Entries.names, merged.holds.pairs, List.map_append] at names
  exact (List.nodup_append.1 names).2.1

/-- The text of a file gives no name that is added to the file. -/
theorem not_gives
    (merged : Merged environment file fields merge pairs)
    (read : ∀ name, file.contains name = true ↔ Gives file.source name) :
    ∀ pair ∈ pairs, ¬Gives file.source pair.1 := by
  intro pair present
  have added : pair.1 ∈ merge.added := merged.added ▸ List.mem_map_of_mem present
  have absent := ((merged.mem_added pair.1).1 added).1
  rw [← read, absent]
  simp

/-- The text behind the merge gives every name that is asked for exactly if it gives all the
added ones. -/
theorem asked_gives_iff
    (merged : Merged environment file fields merge pairs)
    (read : ∀ name, file.contains name = true ↔ Gives file.source name) :
    (∀ name, Asked fields name -> Gives (closedText file.source ++ writeAll pairs) name) ↔
      ∀ pair ∈ pairs, Gives (closedText file.source ++ writeAll pairs) pair.1 := by
  constructor
  · intro all pair present
    have added : pair.1 ∈ merge.added := merged.added ▸ List.mem_map_of_mem present
    exact all pair.1 ((merged.mem_added pair.1).1 added).2
  · intro all name asked
    by_cases before : Gives file.source name
    · exact before.append _
    · have absent : file.contains name = false := by
        rwa [← read, Bool.not_eq_true] at before
      have added := (merged.mem_added name).2 ⟨absent, asked⟩
      rw [merged.added] at added
      obtain ⟨pair, present, rfl⟩ := List.mem_map.1 added
      exact all pair present

end Merged

/-! ## One run -/

/-- The file that is read is that of its text; an absent or unreadable one is empty. -/
theorem load_of_fst_readOptional
    {text? : Option String}
    (read : (host.readOptional path).1 = text?) :
    (load host path).1 = (text?.map (parse host.environment)).getD empty := by
  unfold load
  cases here : host.readOptional path with
  | mk text? notices =>
      rw [here] at read
      cases read
      cases text? <;> rfl

/-- A file that was just read has added nothing. -/
theorem holds_load (host : Host) (path : Path) :
    Holds host.environment (load host path).1 [] := by
  rw [load_of_fst_readOptional rfl]
  cases (host.readOptional path).1 with
  | none => exact ⟨rfl, rfl, List.nodup_nil⟩
  | some text => exact ⟨by simp [EnvFile.parse], rfl, nodup_names_entriesOf _ _⟩

/-- The names of a file that was just read are those that its text gives. -/
theorem contains_load
    (host : Host)
    (path : Path)
    (name : String) :
    (load host path).1.contains name = true ↔ Gives (load host path).1.source name := by
  rw [load_of_fst_readOptional rfl]
  cases (host.readOptional path).1 with
  | none =>
      have nothing : readLines "" = [] := by decide
      simp [EnvFile.contains, empty, Entries.contains, Gives, nothing]
  | some text => exact contains_parse _ _ name

/-- What a file is read from. -/
theorem load_source (host : Host) (path : Path) :
    (load host path).1.source = (host.readOptional path).1.getD "" := by
  rw [load_of_fst_readOptional rfl]
  cases (host.readOptional path).1 <;> rfl

/-- The merge of a run. -/
def mergeOf (path : Path) (descriptors : List Descriptor) (host : Host) : Merge :=
  (load host path).1.merge (Descriptor.allFields descriptors)

/-- The host of a run behind its warnings. -/
def warned (path : Path) (descriptors : List Descriptor) (host : Host) : Host :=
  (host.tell (load host path).2).tell (mergeOf path descriptors host).notices

/-- A run that finds nothing missing gives the entries to the process and writes nothing. -/
theorem synchronize_of_added_nil
    (complete : (mergeOf path descriptors host).added = []) :
    (synchronize path descriptors).on host =
      let exports := (mergeOf path descriptors host).file.exportTo host.environment
      (.ok ⟨[], exports.exported, false⟩,
        { warned path descriptors host with
          environment := exports.environment
          notices := (warned path descriptors host).notices ++ exports.notices }) := by
  have added := complete
  unfold mergeOf at added
  unfold synchronize
  rw [Procedure.on_bind_ok (show Procedure.on get host = (.ok host, host) from rfl),
    Procedure.on_bind_ok (show (Procedure.tell _).on host = (.ok (), _) from rfl),
    Procedure.on_bind_ok (show (Procedure.tell _).on _ = (.ok (), _) from rfl)]
  simp only [added, List.isEmpty_nil]
  rfl

/-- To write a file is to replace what the path leads to by the text of the file. -/
theorem on_save (file : EnvFile) (path : Path) (host : Host) :
    (file.save path).on host = host.replaceFile path file.render := by
  rw [save, Procedure.on_of]

/-- A run that finds something missing replaces the file, and gives the entries to the process
once this has succeeded. -/
theorem synchronize_of_added
    (incomplete : (mergeOf path descriptors host).added ≠ []) :
    (synchronize path descriptors).on host =
      match (warned path descriptors host).replaceFile path
        (mergeOf path descriptors host).file.render with
      | (.error failure, after) => (.error failure, after)
      | (.ok (), after) =>
          let exports := (mergeOf path descriptors host).file.exportTo after.environment
          (.ok ⟨(mergeOf path descriptors host).added, exports.exported, true⟩,
            { after with
              environment := exports.environment
              notices := after.notices ++
                [.envFileUpdated path (mergeOf path descriptors host).added] ++
                  exports.notices }) := by
  have added : (mergeOf path descriptors host).added.isEmpty = false := by
    simpa using incomplete
  have merged : (load host path).1.merge (Descriptor.allFields descriptors) =
      mergeOf path descriptors host := rfl
  have told : (host.tell (load host path).2).tell (mergeOf path descriptors host).notices =
      warned path descriptors host := rfl
  unfold synchronize
  rw [Procedure.on_bind_ok (show Procedure.on get host = (.ok host, host) from rfl),
    Procedure.on_bind_ok (show (Procedure.tell _).on host = (.ok (), _) from rfl),
    Procedure.on_bind_ok (show (Procedure.tell _).on _ = (.ok (), _) from rfl)]
  simp only [merged, told, added, Bool.not_false]
  rw [if_pos trivial]
  cases replaced : (warned path descriptors host).replaceFile path
    (mergeOf path descriptors host).file.render with
  | mk outcome after =>
      have saved : ((mergeOf path descriptors host).file.save path).on
          (warned path descriptors host) = (outcome, after) :=
        (on_save _ path _).trans replaced
      cases outcome with
      | error failure => rw [Procedure.on_bind_error saved]
      | ok =>
          rw [Procedure.on_bind_ok saved]
          rfl

/-- What a run comes to.  It may find nothing missing; otherwise it replaces the file by the text of
the merged one, and fails if this fails. -/
inductive Synchronizes (path : Path) (descriptors : List Descriptor) (host : Host) :
    Except Failure SyncReport -> Host -> Prop
  /-- Nothing is missing, and nothing is written. -/
  | idle (complete : (mergeOf path descriptors host).added = []) :
      Synchronizes path descriptors host
        (.ok ⟨[], ((mergeOf path descriptors host).file.exportTo host.environment).exported, false⟩)
        { warned path descriptors host with
          environment :=
            ((mergeOf path descriptors host).file.exportTo host.environment).environment
          notices := (warned path descriptors host).notices ++
            ((mergeOf path descriptors host).file.exportTo host.environment).notices }
  /-- The file cannot be replaced. -/
  | failed {failure : Failure} {after : Host}
      (incomplete : (mergeOf path descriptors host).added ≠ [])
      (replaced : (warned path descriptors host).replaceFile path
        (mergeOf path descriptors host).file.render = (.error failure, after)) :
      Synchronizes path descriptors host (.error failure) after
  /-- The file has been replaced. -/
  | wrote {written : Host}
      (incomplete : (mergeOf path descriptors host).added ≠ [])
      (replaced : (warned path descriptors host).replaceFile path
        (mergeOf path descriptors host).file.render = (.ok (), written)) :
      Synchronizes path descriptors host
        (.ok ⟨(mergeOf path descriptors host).added,
          ((mergeOf path descriptors host).file.exportTo written.environment).exported, true⟩)
        { written with
          environment :=
            ((mergeOf path descriptors host).file.exportTo written.environment).environment
          notices := written.notices ++
            [.envFileUpdated path (mergeOf path descriptors host).added] ++
              ((mergeOf path descriptors host).file.exportTo written.environment).notices }

/-- Every run comes to one of these ends. -/
theorem synchronizes
    {outcome : Except Failure SyncReport}
    (synchronized : (synchronize path descriptors).on host = (outcome, behind)) :
    Synchronizes path descriptors host outcome behind := by
  by_cases complete : (mergeOf path descriptors host).added = []
  · rw [synchronize_of_added_nil complete] at synchronized
    cases synchronized
    exact .idle complete
  · rw [synchronize_of_added complete] at synchronized
    split at synchronized
    · next replaced =>
        cases synchronized
        exact .failed complete replaced
    · next replaced =>
        cases synchronized
        exact .wrote complete replaced

/-- A run that succeeds either finds nothing missing or replaces the file by the text of the
merged one. -/
theorem synchronize_eq_ok
    {report : SyncReport}
    (synchronized : (synchronize path descriptors).on host = (.ok report, behind)) :
    report.added = (mergeOf path descriptors host).added ∧ behind.place = host.place ∧
      (report.added = [] ∧ behind.files = host.files ∨
        report.added ≠ [] ∧ ∃ written,
          (warned path descriptors host).replaceFile path
            (mergeOf path descriptors host).file.render = (.ok (), written) ∧
          behind.files = written.files ∧ behind.place = written.place) := by
  cases synchronizes synchronized with
  | idle complete => exact ⟨complete.symm, rfl, .inl ⟨rfl, rfl⟩⟩
  | wrote incomplete replaced =>
      obtain ⟨files, place, name, _, _, _, _, rfl⟩ := Host.replaceFile_eq_ok replaced
      exact ⟨rfl, rfl, .inr ⟨incomplete, _, replaced, rfl, rfl⟩⟩

/-- A run does nothing to the files and reports that it added nothing. -/
def IsIdle (path : Path) (descriptors : List Descriptor) (host : Host) : Prop :=
  ∃ report after, (synchronize path descriptors).on host = (.ok report, after) ∧
    report.added = [] ∧ report.persisted = false ∧ after.files = host.files

/-- A run is idle exactly if every name that is asked for is given a value by the text. -/
theorem isIdle_iff :
    IsIdle path descriptors host ↔
      ∀ name, Asked (Descriptor.allFields descriptors) name ->
        Gives (load host path).1.source name := by
  simp only [← contains_load]
  rw [← added_merge_eq_nil_iff (holds_load host path)]
  constructor
  · rintro ⟨report, after, synchronized, nothing, _, _⟩
    rw [← nothing]
    exact (synchronize_eq_ok synchronized).1.symm
  · intro complete
    exact ⟨_, _, synchronize_of_added_nil complete, rfl, rfl, rfl⟩

/-- A run on a file of the working directory succeeds if it has something to add. -/
theorem exists_synchronize_of_name
    (name : String)
    (spelt : path.nameSteps = [.into name] ∧ path.directory = ⟨"."⟩ ∧ path.isAbsolute = false ∧
      path.endsInSlash = false)
    (allowed : path.text.isEmpty = false ∧ path.text.toList.contains '\x00' = false ∧
      path.text.utf8ByteSize ≤ FileTree.maxPathSize ∧ name.utf8ByteSize ≤ FileTree.maxNameSize)
    (here : host.files.shapeAt? host.place = some .directory)
    (free : host.files.shapeAt? (host.place ++ [name]) ≠ some .directory)
    (incomplete : (mergeOf path descriptors host).added ≠ []) :
    ∃ report behind mode, (synchronize path descriptors).on host = (.ok report, behind) ∧
      report.added = (mergeOf path descriptors host).added ∧ behind.place = host.place ∧
        behind.files = host.files.put host.place name
          (.file mode (mergeOf path descriptors host).file.render.toUTF8) := by
  have warnedHere : (warned path descriptors host).files.shapeAt?
      (warned path descriptors host).place = some .directory := here
  obtain ⟨mode, replaced⟩ := Host.replaceFile_of_name name spelt allowed warnedHere free
    (mergeOf path descriptors host).file.render
  rw [synchronize_of_added incomplete, replaced]
  exact ⟨_, _, mode, rfl, rfl, rfl, rfl⟩

/-! ## Two runs -/

/-- What a file is read from depends on the files and the working directory only. -/
theorem load_source_congr
    (files : behind.files = host.files)
    (place : behind.place = host.place) :
    (load behind path).1.source = (load host path).1.source := by
  rw [load_source, load_source, Host.readOptional, Host.readOptional, files, place]

/-- A file whose directory does not open gives no name. -/
theorem not_gives_of_openDirectory_error
    {fault : FileFault}
    (unopened : host.files.openDirectory host.place path.directory = .error fault)
    (name : String) :
    ¬Gives (load host path).1.source name := by
  rw [load_source, Host.readOptional_of_openDirectory_error unopened]
  rintro ⟨pieces, line⟩
  have empty : readLines "" = [] := by decide
  simp [empty] at line

/-- A file that was replaced is read from the text of the merge wherever its directory still
opens. -/
theorem load_source_of_replaceFile
    {written : Host}
    {opened : Place}
    (replaced : (warned path descriptors host).replaceFile path
      (mergeOf path descriptors host).file.render = (.ok (), written))
    (files : behind.files = written.files)
    (place : behind.place = written.place)
    (opens : behind.files.openDirectory behind.place path.directory = .ok opened) :
    (load behind path).1.source = (mergeOf path descriptors host).file.render := by
  rw [files, place] at opens
  rw [load_source_congr files place, load_source,
    Host.readOptional_of_replaceFile replaced opens]
  rfl

/-- The run behind a successful one is idle exactly if that one added nothing, or the directory
of the file still opens, every added name can stand in front of an equals sign, and the text in
front of the added lines leaves no quote open, or leaves one that the first of these lines ends
in such a way that it gives its own name a value. -/
theorem isIdle_behind_iff
    {report : SyncReport}
    (synchronized : (synchronize path descriptors).on host = (.ok report, behind)) :
    IsIdle path descriptors behind ↔
      report.added = [] ∨
        (∃ place, behind.files.openDirectory behind.place path.directory = .ok place) ∧
          (∀ name ∈ report.added, isEntryName name = true) ∧
            (IsClosed (closedText (load host path).1.source) ∨
              ∀ name ∈ report.added.head?,
                Gives (closedText (load host path).1.source ++
                  (mergeOf path descriptors host).file.lineOf name) name) := by
  obtain ⟨added, place, run⟩ := synchronize_eq_ok synchronized
  have complete_iff := added_merge_eq_nil_iff (holds_load host path)
    (Descriptor.allFields descriptors)
  simp only [contains_load] at complete_iff
  rw [isIdle_iff]
  rcases run with ⟨nothing, files⟩ | ⟨something, written, replaced, files, writtenPlace⟩
  · rw [load_source_congr files place]
    exact iff_of_true (complete_iff.1 (added.symm.trans nothing)) (.inl nothing)
  · rw [or_iff_right something]
    cases opens : behind.files.openDirectory behind.place path.directory with
    | error fault =>
        -- Nothing is read, so whatever was added is missing again.
        refine iff_of_false ?_ (by simp)
        intro all
        apply something
        rw [added]
        exact complete_iff.2 fun name asked =>
          absurd (all name asked) (not_gives_of_openDirectory_error opens name)
    | ok opened =>
        obtain ⟨pairs, merged⟩ :=
          merged_merge (holds_load host path) (Descriptor.allFields descriptors)
        have read := contains_load host path
        have addedPairs : report.added = pairs.map Prod.fst := added.trans merged.added
        cases pairs with
        | nil => exact absurd addedPairs something
        | cons first others =>
            have firstLine : (mergeOf path descriptors host).file.lineOf first.1 =
                Line.write first.1 first.2 := merged.holds.lineOf_of_mem List.mem_cons_self
            have rendered : (mergeOf path descriptors host).file.render =
                closedText (load host path).1.source ++ writeAll (first :: others) := by
              rw [← merged.source]
              exact merged.holds.render_eq
            rw [load_source_of_replaceFile replaced files writtenPlace opens, rendered,
              merged.asked_gives_iff read,
              gives_append_writeAll_iff merged.distinct (merged.not_gives read), addedPairs,
              ← firstLine]
            simp

/-- A default with blanks and quotes is added behind an absent file, and the next run is idle. -/
theorem isIdle_behind_of_quoted :
    let descriptors : List Descriptor := [⟨"", "", "", [⟨"GREETING", "it's \"x y\""⟩]⟩]
    ∃ report behind, (synchronize ⟨".env"⟩ descriptors).on default = (.ok report, behind) ∧
      report.added = ["GREETING"] ∧ IsIdle ⟨".env"⟩ descriptors behind := by
  intro descriptors
  have absent : Host.readOptional default ⟨".env"⟩ = (none, []) :=
    Host.readOptional_of_absent ".env" (by decide) (by decide) rfl rfl
  have loaded : load default ⟨".env"⟩ = (empty, []) := by rw [load, absent]
  have added : (mergeOf ⟨".env"⟩ descriptors default).added = ["GREETING"] := by
    rw [mergeOf, loaded]
    decide
  have incomplete : (mergeOf ⟨".env"⟩ descriptors default).added ≠ [] := by
    rw [added]
    decide
  obtain ⟨report, behind, mode, synchronized, reported, place, files⟩ :=
    exists_synchronize_of_name ".env" (by decide) (by decide) rfl (by decide) incomplete
  rw [added] at reported
  refine ⟨report, behind, synchronized, reported, ?_⟩
  apply (isIdle_behind_iff synchronized).2
  rw [loaded, reported, files, place]
  refine .inr ⟨⟨[], ?_⟩, by decide, .inl (by decide)⟩
  exact Host.openDirectory_dot (by rfl)

/-- A name with a hyphen is added, never read back, and added again by the next run. -/
theorem not_isIdle_behind_of_hyphen :
    ¬∀ (host behind : Host) (path : Path) (descriptors : List Descriptor) (report : SyncReport),
      (synchronize path descriptors).on host = (.ok report, behind) ->
        IsIdle path descriptors behind := by
  intro idle
  let descriptors : List Descriptor := [⟨"", "", "", [⟨"A-B", "1"⟩]⟩]
  have asked : Asked (Descriptor.allFields descriptors) "A-B" :=
    ⟨⟨"A-B", "1"⟩, by decide, rfl, by decide⟩
  have ungiven (text : String) : ¬Gives text "A-B" := by
    intro gives
    exact absurd (isEntryName_of_gives gives) (by decide)
  have incomplete : (mergeOf ⟨".env"⟩ descriptors default).added ≠ [] := by
    intro complete
    have contained := (added_merge_eq_nil_iff (holds_load _ _) _).1 complete "A-B" asked
    exact ungiven _ ((contains_load _ _ _).1 contained)
  obtain ⟨report, behind, mode, synchronized, _⟩ :=
    exists_synchronize_of_name ".env" (by decide) (by decide) rfl (by decide) incomplete
  exact ungiven _ (isIdle_iff.1 (idle _ _ _ _ _ synchronized) "A-B" asked)

end EnvFile
end ConfigWiring
