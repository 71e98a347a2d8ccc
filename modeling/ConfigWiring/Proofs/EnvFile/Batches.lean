import ConfigWiring.Proofs.EnvFile.Continuation
import ConfigWiring.Proofs.EnvFile.Seeding
import ConfigWiring.Proofs.EnvFile.ValueText
import ConfigWiring.Proofs.Host.Rewriting

/-!
# Synchronising in batches

The second of two runs reads the file that the first one wrote, under the variables that the first
one set.  The names that the first run left behind are known to it, in the file and in the process
alike, so it does what is left of one run for the descriptors of both.
-/

namespace ConfigWiring

namespace EnvFile

variable {environment : Environment} {path : Path} {host behind : Host} {text : String}
  {descriptors : List Descriptor} {report : SyncReport}

/-! ## The missing names of two batches -/

/-- Behind some fields further ones add what the names and those fields leave missing. -/
theorem missingEntries_append
    (known : String -> Bool)
    (left right : List FieldDescriptor) :
    missingEntries known (left ++ right) = missingEntries known left ++
      missingEntries (fun name => known name || (missingNames known left).contains name) right := by
  induction right using List.reverseRecOn with
  | nil => simp [missingEntries, missingNames]
  | append_singleton right field inductionHypothesis =>
      have names := congrArg (List.map Prod.fst) inductionHypothesis
      rw [List.map_append, map_fst_missingEntries, map_fst_missingEntries,
        map_fst_missingEntries] at names
      rw [← List.append_assoc, missingEntries_concat, missingEntries_concat, inductionHypothesis,
        names, List.append_assoc]
      simp [Bool.and_assoc]

/-- A missing entry is that of a field whose name a variable can have. -/
theorem exists_field_of_mem_missingEntries
    {known : String -> Bool}
    {fields : List FieldDescriptor}
    {pair : String × String}
    (missing : pair ∈ missingEntries known fields) :
    ∃ field ∈ fields, field.key = pair.1 ∧ field.fallback = pair.2 ∧
      Environment.isName pair.1 = true ∧ known pair.1 = false := by
  obtain ⟨name, among, rfl⟩ := List.mem_map.1 missing
  obtain ⟨⟨asking, asked, rfl, isName⟩, unknown⟩ := mem_missingNames.1 among
  have found : (fields.find? fun field => field.key == asking.key).isSome := by
    rw [List.find?_isSome]
    exact ⟨asking, asked, by simp⟩
  obtain ⟨first, isFirst⟩ := Option.isSome_iff_exists.1 found
  refine ⟨first, List.mem_of_find?_eq_some isFirst, ?_, ?_, isName, unknown⟩
  · simpa using List.find?_some isFirst
  · simp only [firstFallback, isFirst]

/-! ## The text that a run leaves -/

/-- A text with the lines of names and values behind it; it stays as it is if there are none. -/
def continued (text : String) (pairs : List (String × String)) : String :=
  if pairs = [] then text else closedText text ++ writeAll pairs

/-- Closing a text that was continued adds nothing to the lines. -/
theorem closedText_continued (text : String) (pairs : List (String × String)) :
    closedText (continued text pairs) = closedText text ++ writeAll pairs := by
  unfold continued
  split
  · next none => simp [none]
  · exact closedText_of_ended (ended_append_writeAll (ended_closedText text) pairs)

/-- A text that leaves nothing open gives, when it is continued, its own names and the further
ones. -/
theorem gives_continued_iff
    {pairs : List (String × String)}
    {name : String}
    (closed : IsClosed text)
    (named : ∀ pair ∈ pairs, isEntryName pair.1 = true) :
    Gives (continued text pairs) name ↔ Gives text name ∨ name ∈ pairs.map Prod.fst := by
  unfold continued
  split
  · next none => simp [none]
  · have further : namesOf (Pending.start.readAll (keptLines (writeAll pairs).toList)) =
        pairs.map Prod.fst := by
      rw [readAll_start_writeAll named, namesOf, List.filterMap_map]
      exact congrFun List.filterMap_eq_map pairs
    have same : Gives (closedText text) name ↔ Gives text name := by
      rw [Gives, Gives, readLines_closedText closed]
    rw [gives_append_iff (ended_closedText text), pendingOf_eq_start (isClosed_closedText closed),
      further, same]

/-- The files behind the writing of lines to a text: those from before if there are no lines. -/
inductive Writes (path : Path) (host : Host) (text : String) :
    List (String × String) -> FileTree -> Prop
  /-- Nothing is written. -/
  | nothing : Writes path host text [] host.files
  /-- The file is replaced by the text with the lines behind it. -/
  | replaced {pairs : List (String × String)} {files : FileTree}
      (something : pairs ≠ [])
      (replaced : host.replaceFile path (text ++ writeAll pairs) = (.ok (), { host with files })) :
      Writes path host text pairs files

namespace Writes

variable {pairs left right : List (String × String)} {files others : FileTree}

/-- There is one outcome of writing. -/
theorem unique
    (first : Writes path host text pairs files)
    (second : Writes path host text pairs others) :
    files = others := by
  cases first with
  | nothing =>
      cases second with
      | nothing => rfl
      | replaced something => exact absurd rfl something
  | replaced something replacedFirst =>
      cases second with
      | nothing => exact absurd rfl something
      | replaced _ replacedSecond =>
          have same := replacedFirst.symm.trans replacedSecond
          exact congrArg (fun outcome => outcome.2.files) same

/-- Lines that are written behind lines that were written could have been written with them. -/
theorem append
    {middle : Host}
    (first : Writes path host text left middle.files)
    (second : Writes path middle (text ++ writeAll left) right files)
    (place : middle.place = host.place)
    (umask : middle.umask = host.umask) :
    Writes path host text (left ++ right) files := by
  cases second with
  | nothing => rwa [List.append_nil]
  | replaced something again =>
      refine .replaced (List.append_ne_nil_of_right_ne_nil left something) ?_
      rw [writeAll_append, ← String.append_assoc]
      generalize source : middle.files = written at first
      cases first with
      | nothing => exact Host.replaceFile_congr again host source.symm place.symm umask.symm
      | replaced _ once =>
          rw [← source] at once
          have behind := Host.replaceFile_congr again { host with files := middle.files }
            rfl place.symm umask.symm
          exact Host.replaceFile_of_replaceFile once behind

end Writes

/-- What a run does to the files, told by the text that stands there and by what it lacks. -/
theorem writes_of_synchronize
    (standing : host.Standing path text)
    (synchronized : (synchronize path descriptors).on host = (.ok report, behind)) :
    let missing := missingEntries (parse host.environment text).contains
      (Descriptor.allFields descriptors)
    report.added = missing.map Prod.fst ∧ behind.place = host.place ∧ behind.umask = host.umask ∧
      Writes path host (closedText text) missing behind.files := by
  intro missing
  obtain ⟨source, sameNames⟩ := load_standing standing
  obtain ⟨added, mergedSource, holds⟩ :=
    merge_eq_missing (holds_load host path) (Descriptor.allFields descriptors)
  rw [sameNames, ← map_fst_missingEntries] at added
  rw [sameNames] at holds
  rw [source] at mergedSource
  have added : (mergeOf path descriptors host).added = missing.map Prod.fst := added
  cases synchronizes synchronized with
  | idle complete =>
      rw [complete] at added
      have none : missing = [] := List.map_eq_nil_iff.1 added.symm
      rw [none]
      exact ⟨rfl, rfl, rfl, .nothing⟩
  | wrote incomplete replaced =>
      have rendered : (mergeOf path descriptors host).file.render =
          closedText text ++ writeAll missing := by
        rw [← mergedSource]
        exact holds.render_eq
      rw [rendered] at replaced
      have itself := Host.replaceFile_congr replaced host rfl rfl rfl
      obtain ⟨_, _, _, _, _, _, _, rfl⟩ := Host.replaceFile_eq_ok replaced
      refine ⟨added, rfl, rfl, .replaced ?_ itself⟩
      rintro none
      rw [added, none] at incomplete
      exact incomplete rfl

/-- Behind a run the text stands with what it lacked, unless the path of its directory now leads
through the file that was written. -/
theorem standing_of_synchronize
    (standing : host.Standing path text)
    (synchronized : (synchronize path descriptors).on host = (.ok report, behind)) :
    behind.Standing path (continued text (missingEntries (parse host.environment text).contains
        (Descriptor.allFields descriptors))) ∨
      behind.files.openDirectory behind.place path.directory = .error .notDirectory := by
  obtain ⟨_, place, _, writes⟩ := writes_of_synchronize standing synchronized
  generalize source : behind.files = files at writes
  generalize missingEntries (parse host.environment text).contains
    (Descriptor.allFields descriptors) = missing at writes
  cases writes with
  | nothing => exact .inl (standing.congr source place)
  | replaced something replaced =>
    rw [continued, if_neg something]
    rcases Host.openDirectory_of_replaceFile replaced with ⟨opened, opens⟩ | through
    · exact .inl ((Host.standing_of_replaceFile replaced opens).congr source place)
    · rw [place]
      exact .inr through

/-- Where the path of the directory leads through a file, a run succeeds only if no field asks for
a name. -/
theorem not_asked_of_notDirectory
    (through : host.files.openDirectory host.place path.directory = .error .notDirectory)
    (synchronized : (synchronize path descriptors).on host = (.ok report, behind))
    (name : String) :
    ¬Asked (Descriptor.allFields descriptors) name := by
  intro asked
  obtain ⟨_, _, ⟨nothing, _⟩ | ⟨_, written, replaced, _⟩⟩ := synchronize_eq_ok synchronized
  · have idle : IsIdle path descriptors host := by
      refine ⟨_, _, synchronize_of_added_nil ?_, rfl, rfl, rfl⟩
      rw [← nothing]
      exact (synchronize_eq_ok synchronized).1.symm
    exact not_gives_of_openDirectory_error through name (isIdle_iff.1 idle name asked)
  · exact Host.replaceFile_of_notDirectory through
      (Host.replaceFile_congr replaced host rfl rfl rfl)

/-! ## The variables that a run leaves -/

/-- Every entry of a text without a NUL and of fields without one can become a variable. -/
theorem fit_mergedEntries
    {fields : List FieldDescriptor}
    (process : environment.AreValues)
    (unended : '\x00' ∉ text.toList)
    (plain : ∀ field ∈ fields, Environment.isValue field.fallback = true) :
    ∀ pair ∈ mergedEntries environment text fields,
      Environment.isName pair.1 = true ∧ Environment.isValue pair.2 = true := by
  intro pair present
  rcases List.mem_append.1 present with own | missing
  · have given : Gives text pair.1 := by
      rw [← contains_parse environment]
      exact (Entries.contains_iff_mem_names _ _).2 (List.mem_map_of_mem own)
    exact ⟨isName_of_isEntryName (isEntryName_of_gives given),
      areValues_entriesOf process unended pair own⟩
  · obtain ⟨field, among, _, fallback, isName, _⟩ := exists_field_of_mem_missingEntries missing
    exact ⟨isName, fallback ▸ plain field among⟩

/-- Under the variables that a run leaves, the text that it leaves gives the process nothing, and
further fields give it what they would have given it in the same run. -/
theorem grants_mergedEntries_continued
    {first : List FieldDescriptor}
    (process : environment.AreValues)
    (closed : IsClosed text)
    (unended : '\x00' ∉ text.toList)
    (named : ∀ field ∈ first, isEntryName field.key = true)
    (plain : ∀ field ∈ first, Environment.isValue field.fallback = true)
    (second : List FieldDescriptor) :
    let known := (parse environment text).contains
    let granted := grants environment (mergedEntries environment text first)
    let seeded : Environment := ⟨environment.pairs ++ granted⟩
    let later := fun name => known name || (missingNames known first).contains name
    (parse seeded (continued text (missingEntries known first))).contains = later ∧
      grants seeded (mergedEntries seeded (continued text (missingEntries known first)) second) =
        grants environment (missingEntries later second) := by
  intro known granted seeded later
  have missingNamed : ∀ pair ∈ missingEntries known first, isEntryName pair.1 = true := by
    intro pair missing
    obtain ⟨field, among, key, _⟩ := exists_field_of_mem_missingEntries missing
    exact key ▸ named field among
  have names : (parse seeded (continued text (missingEntries known first))).contains = later := by
    funext name
    rw [Bool.eq_iff_iff, contains_parse, gives_continued_iff closed missingNamed,
      map_fst_missingEntries, ← contains_parse environment, Bool.or_eq_true, List.contains_iff_mem]
  -- The names of the first run are those that its file gives, and all of them became variables.
  have merged_iff (name : String) :
      name ∈ (mergedEntries environment text first).map Prod.fst ↔ later name = true := by
    rw [mergedEntries, List.map_append, List.mem_append, map_fst_missingEntries, Bool.or_eq_true,
      List.contains_iff_mem]
    exact or_congr_left (Entries.contains_iff_mem_names _ _).symm
  have live {name : String} (known : later name = true) : seeded.contains name = true := by
    obtain ⟨pair, present, rfl⟩ := List.mem_map.1 ((merged_iff name).2 known)
    rw [contains_append, Bool.or_eq_true, List.contains_iff_mem]
    cases before : environment.contains pair.1 with
    | true => exact .inl rfl
    | false =>
        obtain ⟨isName, isValue⟩ := fit_mergedEntries process unended plain pair present
        exact .inr (List.mem_map_of_mem (mem_grants.2 ⟨present, before, isName, isValue⟩))
  have unmoved {name : String} (unknown : later name = false) :
      seeded.contains name = environment.contains name := by
    rw [contains_append, Bool.or_eq_left_iff_imp, List.contains_iff_mem]
    intro isGranted
    obtain ⟨pair, among, rfl⟩ := List.mem_map.1 isGranted
    have mentioned := (merged_iff pair.1).1 (List.mem_map_of_mem (mem_grants.1 among).1)
    rw [unknown] at mentioned
    cases mentioned
  refine ⟨names, ?_⟩
  rw [mergedEntries, names, grants_append]
  have own : grants seeded (entriesOf seeded
      (continued text (missingEntries known first))).pairs = [] := by
    rw [List.eq_nil_iff_forall_not_mem]
    intro pair isGranted
    obtain ⟨present, absent, _⟩ := mem_grants.1 isGranted
    have given : (parse seeded (continued text (missingEntries known first))).contains pair.1 =
        true := (Entries.contains_iff_mem_names _ _).2 (List.mem_map_of_mem present)
    rw [names] at given
    rw [live given] at absent
    cases absent
  rw [own, List.nil_append]
  apply grants_congr
  intro pair missing
  obtain ⟨_, _, _, _, _, unknown⟩ := exists_field_of_mem_missingEntries missing
  exact unmoved unknown

/-! ## Two runs and one -/

/-- A run takes nothing but the fields of its descriptors into account. -/
theorem synchronize_congr
    {left right : List Descriptor}
    (same : Descriptor.allFields left = Descriptor.allFields right) :
    synchronize path left = synchronize path right := by
  unfold synchronize
  rw [same]

theorem allFields_append (left right : List Descriptor) :
    Descriptor.allFields (left ++ right) =
      Descriptor.allFields left ++ Descriptor.allFields right :=
  List.flatMap_append

/-- Two runs in a row that succeed leave the same files and the same variables as one run for the
descriptors of both, and what they add and export is, in a row, what that run adds and exports.
The text must leave nothing open and hold no NUL, and neither must the variables and the defaults;
the names of the fields must be such as can stand in front of an equals sign. -/
theorem synchronize_append
    {first second : List Descriptor}
    {middle batch : Host}
    {one two whole : SyncReport}
    (standing : host.Standing path text)
    (closed : IsClosed text)
    (unended : '\x00' ∉ text.toList)
    (process : host.environment.AreValues)
    (named : ∀ field ∈ Descriptor.allFields (first ++ second), isEntryName field.key = true)
    (plain : ∀ field ∈ Descriptor.allFields (first ++ second),
      Environment.isValue field.fallback = true)
    (ranFirst : (synchronize path first).on host = (.ok one, middle))
    (ranSecond : (synchronize path second).on middle = (.ok two, behind))
    (ranBoth : (synchronize path (first ++ second)).on host = (.ok whole, batch)) :
    batch.files = behind.files ∧ batch.environment = behind.environment ∧
      whole.added = one.added ++ two.added ∧ whole.exported = one.exported ++ two.exported := by
  rw [allFields_append, List.forall_mem_append] at named plain
  rcases standing_of_synchronize standing ranFirst with standingBehind | through
  · obtain ⟨names, granted⟩ := grants_mergedEntries_continued process closed unended named.1 plain.1
      (Descriptor.allFields second)
    obtain ⟨environmentOne, exportedOne⟩ := environment_of_synchronize standing ranFirst
    obtain ⟨environmentTwo, exportedTwo⟩ := environment_of_synchronize standingBehind ranSecond
    obtain ⟨environmentBoth, exportedBoth⟩ := environment_of_synchronize standing ranBoth
    obtain ⟨addedOne, placeOne, umaskOne, writesOne⟩ := writes_of_synchronize standing ranFirst
    obtain ⟨addedTwo, _, _, writesTwo⟩ := writes_of_synchronize standingBehind ranSecond
    obtain ⟨addedBoth, _, _, writesBoth⟩ := writes_of_synchronize standing ranBoth
    rw [← environmentOne] at names granted
    rw [granted] at environmentTwo exportedTwo
    rw [environmentOne] at environmentTwo
    rw [names] at addedTwo writesTwo
    rw [closedText_continued] at writesTwo
    have entries := missingEntries_append (parse host.environment text).contains
      (Descriptor.allFields first) (Descriptor.allFields second)
    rw [allFields_append, entries] at addedBoth writesBoth
    rw [allFields_append, mergedEntries, entries, ← List.append_assoc, ← mergedEntries,
      grants_append] at environmentBoth exportedBoth
    refine ⟨?_, ?_, ?_, ?_⟩
    · exact writesBoth.unique (writesOne.append writesTwo placeOne umaskOne)
    · rw [environmentBoth, environmentTwo, List.append_assoc]
    · rw [addedBoth, addedOne, addedTwo, List.map_append]
    · rw [exportedBoth, exportedOne, exportedTwo, List.map_append]
  · -- The second run cannot write, so it was asked for nothing.
    have nothing : Descriptor.allFields second = [] := by
      rw [List.eq_nil_iff_forall_not_mem]
      intro field present
      exact not_asked_of_notDirectory through ranSecond field.key
        ⟨field, present, rfl, isName_of_isEntryName (named.2 field present)⟩
    have same : Descriptor.allFields (first ++ second) = Descriptor.allFields first := by
      rw [allFields_append, nothing, List.append_nil]
    rw [synchronize_congr same, ranFirst] at ranBoth
    cases ranBoth
    have absent : middle.Standing path "" := by
      refine .absent fun place name isNamed opens => ?_
      rw [through] at opens
      cases opens
    obtain ⟨added, _, _, writes⟩ := writes_of_synchronize absent ranSecond
    obtain ⟨environment, exported⟩ := environment_of_synchronize absent ranSecond
    have none (known : String -> Bool) : missingEntries known (Descriptor.allFields second) = [] := by
      rw [nothing]
      rfl
    have empty : entriesOf middle.environment "" = .empty := rfl
    rw [none] at added writes
    rw [mergedEntries, none, empty] at environment exported
    have exported : two.exported = [] := exported
    have added : two.added = [] := added
    have environment : behind.environment = ⟨middle.environment.pairs ++ []⟩ := environment
    exact ⟨Writes.unique .nothing writes, by rw [environment, List.append_nil],
      by rw [added, List.append_nil], by rw [exported, List.append_nil]⟩

/-- A file with a substitution, a name that the second batch asks for once more, and one that the
file gives already. -/
theorem synchronize_append_of_substitution :
    let host : Host := { (default : Host) with
      environment := ⟨[("HOME", "/root")]⟩
      files := ⟨.directory 0o755 (.cons ".env" (.file 0o644 "A=$HOME/x".toUTF8) .nil)⟩ }
    let first : List Descriptor := [⟨"", "", "", [⟨"B", "x y"⟩]⟩]
    let second : List Descriptor := [⟨"", "", "", [⟨"A", "2"⟩, ⟨"B", "z"⟩, ⟨"C", "'$B'"⟩]⟩]
    ∃ one two whole middle behind batch,
      (synchronize ⟨".env"⟩ first).on host = (.ok one, middle) ∧
      (synchronize ⟨".env"⟩ second).on middle = (.ok two, behind) ∧
      (synchronize ⟨".env"⟩ (first ++ second)).on host = (.ok whole, batch) ∧
      whole.added = ["B", "C"] ∧ batch.files = behind.files ∧
        batch.environment = behind.environment ∧ whole.added = one.added ++ two.added ∧
        whole.exported = one.exported ++ two.exported := by
  intro host first second
  have named : Path.fileName? ⟨".env"⟩ = some ".env" := by decide
  have opens : host.files.openDirectory host.place (Path.directory ⟨".env"⟩) = .ok [] :=
    Host.openDirectory_dot rfl
  have standing : host.Standing ⟨".env"⟩ "A=$HOME/x" :=
    .file named opens rfl (by decide) (by decide)
  have ends : FileTree.EndsIn ⟨".env"⟩ ".env" := by decide
  have names : missingNames (parse host.environment "A=$HOME/x").contains
      (Descriptor.allFields first) = ["B"] := by decide
  have incomplete : (mergeOf ⟨".env"⟩ first host).added ≠ [] := by
    rw [mergeOf, (merge_eq_missing (holds_load host ⟨".env"⟩) _).1, (load_standing standing).2,
      names]
    simp
  obtain ⟨one, middle, mode, ranFirst, _, place, files⟩ :=
    exists_synchronize_of_name ".env" (by decide) (by decide) rfl (by decide) incomplete
  have here : middle.files.shapeAt? middle.place = some .directory := by
    rw [files, place]
    rfl
  have opensBehind : middle.files.openDirectory middle.place (Path.directory ⟨".env"⟩) =
      .ok middle.place := Host.openDirectory_dot here
  have free : middle.files.shapeAt? (middle.place ++ [".env"]) ≠ some .directory := by
    have shape : middle.files.shapeAt? (middle.place ++ [".env"]) = some .file := by
      rw [files, place]
      rfl
    simp [shape]
  obtain ⟨two, behind, ranSecond⟩ := exists_synchronize ends (by decide) opensBehind free second
  obtain ⟨whole, batch, ranBoth⟩ := exists_synchronize ends (by decide) opens (by decide)
    (first ++ second)
  refine ⟨one, two, whole, middle, behind, batch, ranFirst, ranSecond, ranBoth, ?_,
    synchronize_append standing (by decide) (by decide) (by decide) (by decide) (by decide)
      ranFirst ranSecond ranBoth⟩
  rw [(writes_of_synchronize standing ranBoth).1, map_fst_missingEntries]
  decide

end EnvFile
end ConfigWiring
