import ConfigWiring.Proofs.EnvFile.Repetition
import ConfigWiring.Proofs.Host.ReadBack

/-!
# What synchronising does to the file

A run adds the names that the fields ask for and the text lacks, in the order in which they are
first asked for, each with the default of the first field that asks for it.  It writes the file
exactly if there is such a name; the file then has its text as before, closed by a line feed,
and one line for each of these names.
-/

namespace ConfigWiring
namespace EnvFile

variable {environment : Environment} {file : EnvFile} {path : Path} {host behind : Host}
  {descriptors : List Descriptor}

/-! ## The missing names -/

/-- The names that fields ask for and that are not known, each once, in the order in which they
are first asked for; a name that no variable can have is passed over. -/
def missingNames (known : String -> Bool) (fields : List FieldDescriptor) : List String :=
  ((fields.map FieldDescriptor.key).filter fun name =>
    Environment.isName name && !known name).eraseDups

/-- The default of the first field that asks for a name. -/
def firstFallback (fields : List FieldDescriptor) (name : String) : String :=
  match fields.find? fun field => field.key == name with
  | some field => field.fallback
  | none => ""

/-- The missing names with their first defaults. -/
def missingEntries (known : String -> Bool) (fields : List FieldDescriptor) :
    List (String × String) :=
  (missingNames known fields).map fun name => (name, firstFallback fields name)

theorem map_fst_missingEntries (known : String -> Bool) (fields : List FieldDescriptor) :
    (missingEntries known fields).map Prod.fst = missingNames known fields := by
  simp [missingEntries, Function.comp_def]

theorem mem_missingNames
    {known : String -> Bool}
    {fields : List FieldDescriptor}
    {name : String} :
    name ∈ missingNames known fields ↔ Asked fields name ∧ known name = false := by
  simp only [missingNames, List.mem_eraseDups, List.mem_filter, List.mem_map, Asked,
    Bool.and_eq_true, Bool.not_eq_true']
  constructor
  · rintro ⟨⟨field, present, rfl⟩, isName, unknown⟩
    exact ⟨⟨field, present, rfl, isName⟩, unknown⟩
  · rintro ⟨⟨field, present, rfl, isName⟩, unknown⟩
    exact ⟨⟨field, present, rfl⟩, isName, unknown⟩

/-- A further field adds its name behind the others unless the name is unfit, known or among
them. -/
theorem missingNames_concat
    (known : String -> Bool)
    (fields : List FieldDescriptor)
    (field : FieldDescriptor) :
    missingNames known (fields ++ [field]) =
      missingNames known fields ++
        if Environment.isName field.key && !known field.key &&
            !(missingNames known fields).contains field.key
          then [field.key] else [] := by
  have among (names : List String) (name : String) :
      names.eraseDups.contains name = names.contains name := by
    rw [Bool.eq_iff_iff, List.contains_iff_mem, List.contains_iff_mem, List.mem_eraseDups]
  rw [missingNames, List.map_append, List.filter_append, List.eraseDups_append, missingNames,
    among]
  congr 1
  cases wanted : Environment.isName field.key && !known field.key with
  | false => simp [wanted, List.removeAll]
  | true =>
      cases present : ((fields.map FieldDescriptor.key).filter fun name =>
        Environment.isName name && !known name).contains field.key <;>
      simp_all [List.removeAll, List.eraseDups_cons]

/-- A further field has no say in the default of a name that a field before it asks for. -/
theorem firstFallback_concat_of_asked
    {fields : List FieldDescriptor}
    {name : String}
    (asked : Asked fields name)
    (field : FieldDescriptor) :
    firstFallback (fields ++ [field]) name = firstFallback fields name := by
  obtain ⟨first, present, rfl, _⟩ := asked
  have found : (fields.find? fun other => other.key == first.key).isSome := by
    rw [List.find?_isSome]
    exact ⟨first, present, by simp⟩
  rw [firstFallback, firstFallback, List.find?_append, Option.or_of_isSome found]

/-- A further field gives its own default to a name that no field before it asks for. -/
theorem firstFallback_concat_of_not_asked
    {fields : List FieldDescriptor}
    {field : FieldDescriptor}
    (isName : Environment.isName field.key = true)
    (unasked : ¬Asked fields field.key) :
    firstFallback (fields ++ [field]) field.key = field.fallback := by
  have none : (fields.find? fun other => other.key == field.key) = none := by
    rw [List.find?_eq_none]
    intro other present same
    have equal : other.key = field.key := by simpa using same
    exact unasked ⟨other, present, equal, equal ▸ isName⟩
  rw [firstFallback, List.find?_append, none]
  simp

theorem missingEntries_concat
    (known : String -> Bool)
    (fields : List FieldDescriptor)
    (field : FieldDescriptor) :
    missingEntries known (fields ++ [field]) =
      missingEntries known fields ++
        if Environment.isName field.key && !known field.key &&
            !(missingNames known fields).contains field.key
          then [(field.key, field.fallback)] else [] := by
  rw [missingEntries, missingNames_concat, List.map_append, missingEntries]
  congr 1
  · apply List.map_congr_left
    intro name missing
    rw [firstFallback_concat_of_asked (mem_missingNames.1 missing).1]
  · split
    · next new =>
        simp only [Bool.and_eq_true, Bool.not_eq_true', List.contains_eq_mem,
          decide_eq_false_iff_not] at new
        obtain ⟨⟨isName, unknown⟩, unmentioned⟩ := new
        have unasked : ¬Asked fields field.key := fun asked =>
          unmentioned (mem_missingNames.2 ⟨asked, unknown⟩)
        simp [firstFallback_concat_of_not_asked isName unasked]
    · rfl

/-! ## Merging -/

/-- Merging fields into a file that was just read adds the missing names, in order and with
their first defaults. -/
theorem merge_eq_missing
    (fresh : Holds environment file [])
    (fields : List FieldDescriptor) :
    (file.merge fields).added = missingNames file.contains fields ∧
      (file.merge fields).file.source = file.source ∧
        Holds environment (file.merge fields).file (missingEntries file.contains fields) := by
  induction fields using List.reverseRecOn with
  | nil => exact ⟨rfl, rfl, fresh⟩
  | append_singleton fields field inductionHypothesis =>
      obtain ⟨added, source, holds⟩ := inductionHypothesis
      have step : file.merge (fields ++ [field]) = (file.merge fields).step field := by
        rw [merge, merge, List.foldl_append]
        rfl
      have present := fresh.contains_iff holds source field.key
      rw [map_fst_missingEntries] at present
      rw [step, missingNames_concat, missingEntries_concat, Merge.step, present]
      cases Environment.isName field.key with
      | false => simpa using ⟨added, source, holds⟩
      | true =>
          cases known : file.contains field.key with
          | true => simpa using ⟨added, source, holds⟩
          | false =>
              cases before : (missingNames file.contains fields).contains field.key with
              | true => simpa using ⟨added, source, holds⟩
              | false =>
                  rw [known, before] at present
                  simpa [added] using ⟨source, holds.add present field.fallback⟩

/-! ## Runs -/

/-- The file of a path is read from the text that stands there, and knows the names of that
text. -/
theorem load_standing
    {text : String}
    (standing : host.Standing path text) :
    (load host path).1.source = text ∧
      (load host path).1.contains = (parse host.environment text).contains := by
  have source : (load host path).1.source = text := by
    rw [load_source, standing.getD_readOptional]
  refine ⟨source, ?_⟩
  funext name
  rw [Bool.eq_iff_iff, contains_load, contains_parse, source]

/-- A run that finds a text, or nothing, where the path leads adds exactly the names that the
fields ask for and the text gives no value, each once and in the order in which they are first
asked for.  It writes exactly if there is such a name.  Then the text is kept, closed by a line
feed, and a line with the first default of each of these names follows; otherwise no file is
touched. -/
theorem synchronize_effect
    {text : String}
    {report : SyncReport}
    (standing : host.Standing path text)
    (synchronized : (synchronize path descriptors).on host = (.ok report, behind)) :
    let fields := Descriptor.allFields descriptors
    let known := (parse host.environment text).contains
    report.added = missingNames known fields ∧
      (report.persisted = true ↔ report.added ≠ []) ∧
      (report.persisted = true -> ∃ place name mode,
        host.Replaced path (closedText text ++ writeAll (missingEntries known fields)) behind
          place name mode) ∧
      (report.persisted = false -> behind.files = host.files) := by
  intro fields known
  obtain ⟨source, sameNames⟩ := load_standing standing
  obtain ⟨added, mergedSource, holds⟩ := merge_eq_missing (holds_load host path) fields
  rw [sameNames] at added holds
  rw [source] at mergedSource
  cases synchronizes synchronized with
  | idle complete => exact ⟨complete.symm.trans added, by simp, by simp, fun _ => rfl⟩
  | wrote incomplete replaced =>
      have rendered : (mergeOf path descriptors host).file.render =
          closedText text ++ writeAll (missingEntries known fields) := by
        rw [← mergedSource]
        exact holds.render_eq
      rw [rendered] at replaced
      obtain ⟨_, place, name, mode, done⟩ := Host.replaced_of_replaceFile replaced
      refine ⟨added, by simpa using incomplete, fun _ => ⟨place, name, mode, ?_⟩, by simp⟩
      exact ⟨done.named, done.put, done.there, done.before, done.after⟩

/-- Of two fields with one name the first gives the default, and neither an unfit name nor one
that the text gives is added. -/
theorem synchronize_effect_of_collisions :
    let host : Host := { (default : Host) with
      files := ⟨.directory 0o755 (.cons ".env" (.file 0o644 "A=1".toUTF8) .nil)⟩ }
    let descriptors : List Descriptor :=
      [⟨"", "", "", [⟨"B", "x y"⟩, ⟨"A", "2"⟩, ⟨"C D", ""⟩]⟩, ⟨"", "", "", [⟨"C", "3"⟩, ⟨"B", "z"⟩]⟩]
    ∃ report behind mode, (synchronize ⟨".env"⟩ descriptors).on host = (.ok report, behind) ∧
      report.added = ["B", "C"] ∧ report.persisted = true ∧
        behind.files.at? [".env"] =
          some (.file mode "A=1\nB=\"x y\"\nC=3\n".toUTF8) := by
  intro host descriptors
  have named : Path.fileName? ⟨".env"⟩ = some ".env" := by decide
  have opens : host.files.openDirectory host.place (Path.directory ⟨".env"⟩) = .ok [] :=
    Host.openDirectory_dot rfl
  have standing : host.Standing ⟨".env"⟩ "A=1" :=
    .file (named) opens rfl (by decide) (by decide)
  have names : missingNames (parse host.environment "A=1").contains
      (Descriptor.allFields descriptors) = ["B", "C"] := by decide
  have entries : missingEntries (parse host.environment "A=1").contains
      (Descriptor.allFields descriptors) = [("B", "x y"), ("C", "3")] := by
    rw [missingEntries, names]
    decide
  have incomplete : (mergeOf ⟨".env"⟩ descriptors host).added ≠ [] := by
    rw [mergeOf, (merge_eq_missing (holds_load host ⟨".env"⟩) _).1, (load_standing standing).2,
      names]
    simp
  obtain ⟨report, behind, _, synchronized, _⟩ :=
    exists_synchronize_of_name ".env" (by decide) (by decide) rfl (by decide) incomplete
  obtain ⟨added, persisted, written, _⟩ := synchronize_effect standing synchronized
  rw [names] at added
  have wrote : report.persisted = true := persisted.2 (by simp [added])
  obtain ⟨place, name, mode, replaced⟩ := written wrote
  have text : closedText "A=1" ++ writeAll [("B", "x y"), ("C", "3")] =
      "A=1\nB=\"x y\"\nC=3\n" := by decide
  rw [entries, text] at replaced
  obtain rfl : ".env" = name := Option.some.inj (named.symm.trans replaced.named)
  obtain rfl : [] = place := replaced.before _ opens
  exact ⟨report, behind, mode, synchronized, added, wrote, replaced.there⟩

end EnvFile

/-!
## What the process has no say in

The variables of the process stand in for names in the values of an env file, but they have no
say in which names the file gives a value, and no value is ever written back.  So what a run adds
and writes is the same under all environments.
-/

namespace Host

/-- A host whose process has other variables. -/
def withEnvironment (environment : Environment) (host : Host) : Host := { host with environment }

/-- To replace a file takes no variable of the process into account. -/
theorem replaceFile_withEnvironment
    (path : Path)
    (text : String)
    (environment : Environment)
    (host : Host) :
    (host.withEnvironment environment).replaceFile path text =
      ((host.replaceFile path text).1,
        (host.replaceFile path text).2.withEnvironment environment) := by
  unfold replaceFile
  simp only [withEnvironment]
  cases host.files.ensureDirectory host.umask host.place path.directory with
  | mk files fault? =>
      cases fault? with
      | some fault => rfl
      | none =>
          dsimp only
          cases files.moveInto host.place path
            (FileTree.masked host.umask (files.modeToKeep host.place path)) text.toUTF8 <;> rfl

end Host

namespace EnvFile

variable {path : Path} {host : Host} {descriptors : List Descriptor}

/-- A merge warns of the names that no variable can have, whatever the file holds. -/
theorem notices_merge (file : EnvFile) (fields : List FieldDescriptor) :
    (file.merge fields).notices =
      (fields.filter fun field => !Environment.isName field.key).map fun field =>
        .invalidKey field.key := by
  unfold merge
  induction fields using List.reverseRecOn with
  | nil => rfl
  | append_singleton fields field inductionHypothesis =>
      rw [List.foldl_append, List.foldl_cons, List.foldl_nil, List.filter_append, List.map_append,
        ← inductionHypothesis, Merge.step]
      split
      · next unfit => simp [unfit]
      · next fit => split <;> simp [fit]

/-- What is read of a file under two environments differs in the values of the names only. -/
theorem load_withEnvironment (path : Path) (environment : Environment) (host : Host) :
    (load (host.withEnvironment environment) path).1.source = (load host path).1.source ∧
      (load (host.withEnvironment environment) path).1.contains = (load host path).1.contains ∧
      (load (host.withEnvironment environment) path).2 = (load host path).2 := by
  have source : (load (host.withEnvironment environment) path).1.source =
      (load host path).1.source := load_source_congr rfl rfl
  refine ⟨source, ?_, ?_⟩
  · funext name
    rw [Bool.eq_iff_iff, contains_load, contains_load, source]
  · unfold load
    rw [show (host.withEnvironment environment).readOptional path = host.readOptional path from rfl]
    split <;> rfl

/-- A merge adds the same names, writes the same text and warns of the same names under two
environments. -/
theorem mergeOf_withEnvironment
    (path : Path)
    (descriptors : List Descriptor)
    (environment : Environment)
    (host : Host) :
    (mergeOf path descriptors (host.withEnvironment environment)).added =
        (mergeOf path descriptors host).added ∧
      (mergeOf path descriptors (host.withEnvironment environment)).file.render =
        (mergeOf path descriptors host).file.render ∧
      warned path descriptors (host.withEnvironment environment) =
        (warned path descriptors host).withEnvironment environment := by
  obtain ⟨source, contains, notices⟩ := load_withEnvironment path environment host
  obtain ⟨added, mergedSource, holds⟩ :=
    merge_eq_missing (holds_load host path) (Descriptor.allFields descriptors)
  obtain ⟨addedOther, mergedSourceOther, holdsOther⟩ := merge_eq_missing
    (holds_load (host.withEnvironment environment) path) (Descriptor.allFields descriptors)
  rw [contains] at addedOther holdsOther
  refine ⟨addedOther.trans added.symm, ?_, ?_⟩
  · rw [mergeOf, mergeOf, holdsOther.render_eq, holds.render_eq, mergedSourceOther, mergedSource,
      source]
  · rw [warned, warned, notices, mergeOf, mergeOf, notices_merge, notices_merge]
    rfl

/-- Two runs that begin with the same files have the same outcome, but for the exported names, and
leave the same host behind, but for the variables of the process and the warnings. -/
theorem synchronize_withEnvironment
    (path : Path)
    (descriptors : List Descriptor)
    (host : Host)
    (other : Environment) :
    let first := (synchronize path descriptors).on host
    let second := (synchronize path descriptors).on (host.withEnvironment other)
    first.1.map (fun report => (report.added, report.persisted)) =
        second.1.map (fun report => (report.added, report.persisted)) ∧
      second.2 = { first.2 with
        environment := second.2.environment
        notices := second.2.notices } := by
  obtain ⟨added, render, told⟩ := mergeOf_withEnvironment path descriptors other host
  dsimp only
  by_cases complete : (mergeOf path descriptors host).added = []
  · rw [synchronize_of_added_nil complete, synchronize_of_added_nil (added.trans complete), told]
    simp only [Except.map, Host.withEnvironment, and_self]
  · have incomplete : (mergeOf path descriptors (host.withEnvironment other)).added ≠ [] := by
      rwa [added]
    rw [synchronize_of_added complete, synchronize_of_added incomplete, told, render, added,
      Host.replaceFile_withEnvironment]
    cases (warned path descriptors host).replaceFile path
      (mergeOf path descriptors host).file.render with
    | mk outcome after =>
        cases outcome with
        | error failure => simp only [Except.map, Host.withEnvironment, and_self]
        | ok => simp only [Except.map, Host.withEnvironment, and_self]

end EnvFile
end ConfigWiring
