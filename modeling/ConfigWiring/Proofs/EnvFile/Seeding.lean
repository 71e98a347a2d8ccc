import ConfigWiring.Proofs.EnvFile.Effect

/-!
# What a run gives to the process

A run sets the variables that the process lacks: one for each entry of the text and then one for
each missing name with its first default, provided that a variable can have the name and the
value.  Every variable that the process had keeps its value.
-/

namespace ConfigWiring

namespace Environment

/-- Set a variable, as the system does it: a name that is empty or holds an equals sign or a NUL
is refused, and so is a value that holds a NUL. -/
def set? (environment : Environment) (setting : String × String) : Option Environment :=
  if setting.1.isEmpty || setting.1.toList.contains '=' || setting.1.toList.contains '\x00' ||
      setting.2.toList.contains '\x00' then none
  else some (environment.put setting.1 setting.2)

/-- The system takes what is fit for a variable. -/
theorem set?_of_fit
    {name value : String}
    (isName : isName name = true)
    (isValue : isValue value = true)
    (environment : Environment) :
    environment.set? (name, value) = some (environment.put name value) := by
  simp only [Environment.isName, Bool.and_eq_true, Bool.not_eq_true'] at isName
  simp only [Environment.isValue, Bool.not_eq_true'] at isValue
  obtain ⟨⟨⟨nonempty, unequal⟩, unended⟩, _⟩ := isName
  rw [set?, nonempty, unequal, unended, isValue]
  rfl

/-- Setting variables that a process lacks puts them behind those that it has. -/
theorem foldlM_set?
    {environment : Environment}
    {settings : List (String × String)}
    (distinct : (settings.map Prod.fst).Nodup)
    (new : ∀ setting ∈ settings, environment.contains setting.1 = false)
    (fit : ∀ setting ∈ settings, isName setting.1 = true ∧ isValue setting.2 = true) :
    settings.foldlM set? environment = some ⟨environment.pairs ++ settings⟩ := by
  induction settings generalizing environment with
  | nil => simp
  | cons setting settings inductionHypothesis =>
      obtain ⟨name, value⟩ := setting
      rw [List.map_cons, List.nodup_cons] at distinct
      obtain ⟨absent, newBehind⟩ := List.forall_mem_cons.1 new
      obtain ⟨⟨isName, isValue⟩, fitBehind⟩ := List.forall_mem_cons.1 fit
      have still : ∀ other ∈ settings, (environment.put name value).contains other.1 = false := by
        intro other present
        have apart : other.1 ≠ name := by
          rintro rfl
          exact distinct.1 (List.mem_map.2 ⟨other, present, rfl⟩)
        rw [Entries.contains, Entries.get?_put, if_neg apart]
        exact newBehind other present
      rw [List.foldlM_cons, set?_of_fit isName isValue, Option.bind_eq_bind, Option.bind_some,
        inductionHypothesis distinct.2 still fitBehind, Entries.pairs_put_of_not_contains absent,
        List.append_assoc, List.singleton_append]

end Environment

namespace EnvFile

variable {environment : Environment} {pairs : List (String × String)} {path : Path}
  {host behind : Host} {descriptors : List Descriptor} {report : SyncReport}

/-! ## Giving entries to a process -/

/-- The entries that a process is given: those for which it has no variable and could have one. -/
def grants (environment : Environment) (pairs : List (String × String)) : List (String × String) :=
  pairs.filter fun pair =>
    !environment.contains pair.1 && (Environment.isName pair.1 && Environment.isValue pair.2)

theorem mem_grants
    {pair : String × String} :
    pair ∈ grants environment pairs ↔
      pair ∈ pairs ∧ environment.contains pair.1 = false ∧
        Environment.isName pair.1 = true ∧ Environment.isValue pair.2 = true := by
  simp [grants]

theorem grants_append (environment : Environment) (left right : List (String × String)) :
    grants environment (left ++ right) = grants environment left ++ grants environment right :=
  List.filter_append left right

/-- What is granted depends only on which of the names the process has a variable for. -/
theorem grants_congr
    {other : Environment}
    (same : ∀ pair ∈ pairs, environment.contains pair.1 = other.contains pair.1) :
    grants environment pairs = grants other pairs := by
  apply List.filter_congr
  intro pair present
  rw [same pair present]

theorem nodup_grants
    (distinct : (pairs.map Prod.fst).Nodup)
    (environment : Environment) :
    ((grants environment pairs).map Prod.fst).Nodup :=
  distinct.sublist (List.filter_sublist.map Prod.fst)

theorem contains_append
    (environment : Environment)
    (granted : List (String × String))
    (name : String) :
    Entries.contains ⟨environment.pairs ++ granted⟩ name =
      (environment.contains name || (granted.map Prod.fst).contains name) := by
  rw [Bool.eq_iff_iff, Bool.or_eq_true, List.contains_iff_mem, Entries.contains_iff_mem_names,
    Entries.contains_iff_mem_names, Entries.names, Entries.names, List.map_append, List.mem_append]

/-- One more entry becomes a variable behind the others exactly if it is granted. -/
theorem step_eq_grants (exports : Exports) (pair : String × String) :
    (exports.step pair).environment =
        ⟨exports.environment.pairs ++ grants exports.environment [pair]⟩ ∧
      (exports.step pair).exported =
        exports.exported ++ (grants exports.environment [pair]).map Prod.fst := by
  unfold Exports.step
  split
  · next present => simp [grants, present]
  · next absent =>
      have absent : exports.environment.contains pair.1 = false := by simpa using absent
      split
      · next unfit =>
          have unfit : (Environment.isName pair.1 && Environment.isValue pair.2) = false := by
            rw [← Bool.not_eq_true', Bool.not_and]
            exact unfit
          simp [grants, unfit]
      · next fit =>
          have fit : (Environment.isName pair.1 && Environment.isValue pair.2) = true := by
            simpa [← Bool.not_and] using fit
          have granted : grants exports.environment [pair] = [pair] := by
            simp [grants, absent, fit]
          have put := Entries.pairs_put_of_not_contains absent pair.2
          rw [granted]
          exact ⟨congrArg Entries.mk put, rfl⟩

/-- The process has the variables that it had, and behind them the entries that are granted. -/
theorem foldl_step_eq_grants
    (distinct : (pairs.map Prod.fst).Nodup)
    (exports : Exports) :
    (pairs.foldl Exports.step exports).environment =
        ⟨exports.environment.pairs ++ grants exports.environment pairs⟩ ∧
      (pairs.foldl Exports.step exports).exported =
        exports.exported ++ (grants exports.environment pairs).map Prod.fst := by
  induction pairs generalizing exports with
  | nil => simp [grants]
  | cons pair pairs inductionHypothesis =>
      rw [List.map_cons, List.nodup_cons] at distinct
      obtain ⟨environment, exported⟩ := inductionHypothesis distinct.2 (exports.step pair)
      obtain ⟨stepEnvironment, stepExported⟩ := step_eq_grants exports pair
      -- The entry has another name than those behind it, so it has no say in whether they are granted.
      have unmoved : grants (exports.step pair).environment pairs =
          grants exports.environment pairs := by
        apply grants_congr
        intro other present
        rw [stepEnvironment, contains_append, Bool.or_eq_left_iff_imp, List.contains_iff_mem]
        intro granted
        obtain ⟨own, isGranted, same⟩ := List.mem_map.1 granted
        obtain rfl : own = pair := by simpa using (mem_grants.1 isGranted).1
        exact absurd (List.mem_map.2 ⟨other, present, same.symm⟩) distinct.1
      rw [← List.singleton_append, grants_append, List.singleton_append, List.foldl_cons,
        environment, exported, unmoved, stepEnvironment, stepExported]
      simp

/-- Among the granted entries a name has the value that it has among all, if a variable can have
both. -/
theorem lookup_grants
    {name : String}
    (distinct : (pairs.map Prod.fst).Nodup)
    (absent : environment.contains name = false) :
    (grants environment pairs).lookup name =
      (pairs.lookup name).filter fun value =>
        Environment.isName name && Environment.isValue value := by
  cases granted : (grants environment pairs).lookup name with
  | some value =>
      obtain ⟨before, behind, split, _⟩ := List.lookup_eq_some_iff.1 granted
      have present : (name, value) ∈ grants environment pairs := by simp [split]
      obtain ⟨among, _, isName, isValue⟩ := mem_grants.1 present
      have fit : (Environment.isName name && Environment.isValue value) = true := by
        rw [Bool.and_eq_true]
        exact ⟨isName, isValue⟩
      rw [Entries.lookup_of_mem distinct among, Option.filter_some, if_pos fit]
  | none =>
      symm
      rw [Option.filter_eq_none_iff]
      intro value found fit
      obtain ⟨before, behind, split, _⟩ := List.lookup_eq_some_iff.1 found
      rw [Bool.and_eq_true] at fit
      have present : (name, value) ∈ grants environment pairs :=
        mem_grants.2 ⟨by simp [split], absent, fit⟩
      simpa using List.lookup_eq_none_iff.1 granted (name, value) present

/-- A process keeps its variables, and every other name has the value of its entry, if there is
one and a variable can have both. -/
theorem get?_append_grants
    (distinct : (pairs.map Prod.fst).Nodup)
    (environment : Environment)
    (name : String) :
    Entries.get? ⟨environment.pairs ++ grants environment pairs⟩ name =
      (environment.get? name).or ((pairs.lookup name).filter fun value =>
        Environment.isName name && Environment.isValue value) := by
  rw [Entries.get?, List.lookup_append]
  show (environment.get? name).or _ = _
  cases live : environment.get? name with
  | some value => rfl
  | none => rw [lookup_grants distinct (by rw [Entries.contains, live]; rfl)]

/-- The granted names are those of the entries, in order, that became variables. -/
theorem map_fst_grants
    (distinct : (pairs.map Prod.fst).Nodup)
    (environment : Environment) :
    (grants environment pairs).map Prod.fst = (pairs.map Prod.fst).filter fun name =>
      Entries.contains ⟨environment.pairs ++ grants environment pairs⟩ name &&
        !environment.contains name := by
  rw [List.filter_map]
  apply congrArg (List.map Prod.fst)
  apply List.filter_congr
  intro pair present
  rw [Function.comp_apply, Bool.and_comm]
  cases live : environment.contains pair.1 with
  | true => simp
  | false =>
      have absent : environment.get? pair.1 = none := by simpa [Entries.contains] using live
      rw [Entries.contains, get?_append_grants distinct, absent,
        Entries.lookup_of_mem distinct present]
      cases fit : Environment.isName pair.1 && Environment.isValue pair.2 <;> simp [fit]

/-! ## Runs -/

/-- A run that succeeds gives the entries of the merged file to the process. -/
theorem exports_of_synchronize
    (synchronized : (synchronize path descriptors).on host = (.ok report, behind)) :
    let exports := (mergeOf path descriptors host).file.exportTo host.environment
    behind.environment = exports.environment ∧ report.exported = exports.exported := by
  cases synchronizes synchronized with
  | idle => exact ⟨rfl, rfl⟩
  | wrote _ replaced =>
      obtain ⟨files, place, name, _, _, _, _, rfl⟩ := Host.replaceFile_eq_ok replaced
      exact ⟨rfl, rfl⟩

/-- The entries of a text followed by those that fields ask for and the text lacks. -/
def mergedEntries (environment : Environment) (text : String) (fields : List FieldDescriptor) :
    List (String × String) :=
  (entriesOf environment text).pairs ++
    missingEntries (parse environment text).contains fields

/-- The merge of a run holds the entries of the text and the missing ones. -/
theorem entries_mergeOf
    {text : String}
    (standing : host.Standing path text)
    (descriptors : List Descriptor) :
    (mergeOf path descriptors host).file.entries.pairs =
        mergedEntries host.environment text (Descriptor.allFields descriptors) ∧
      ((mergedEntries host.environment text (Descriptor.allFields descriptors)).map
        Prod.fst).Nodup := by
  obtain ⟨source, sameNames⟩ := load_standing standing
  obtain ⟨_, mergedSource, holds⟩ :=
    merge_eq_missing (holds_load host path) (Descriptor.allFields descriptors)
  have pairs := holds.pairs
  rw [mergedSource, source, sameNames] at pairs
  refine ⟨pairs, ?_⟩
  rw [mergedEntries, ← pairs]
  exact holds.distinct

/-- Behind a run the process has its variables and the granted ones of the merged entries, which
are reported. -/
theorem environment_of_synchronize
    {text : String}
    (standing : host.Standing path text)
    (synchronized : (synchronize path descriptors).on host = (.ok report, behind)) :
    let granted := grants host.environment
      (mergedEntries host.environment text (Descriptor.allFields descriptors))
    behind.environment = ⟨host.environment.pairs ++ granted⟩ ∧
      report.exported = granted.map Prod.fst := by
  obtain ⟨pairs, distinct⟩ := entries_mergeOf standing descriptors
  obtain ⟨environment, exported⟩ := exports_of_synchronize synchronized
  obtain ⟨given, named⟩ := foldl_step_eq_grants distinct ⟨host.environment, [], []⟩
  rw [exportTo, pairs] at environment exported
  exact ⟨environment.trans given, exported.trans named⟩

/-- After a run that succeeds each variable of the process has the value that it had.  Any other
name has the value of its entry in the text, read under the variables from before, or else the
first default of the fields that ask for it, if a variable can have that name and that value.
The run reports the new names, each once and in the order of the entries, and it makes them by
settings of which the system refuses none. -/
theorem synchronize_seeds
    {text : String}
    (standing : host.Standing path text)
    (synchronized : (synchronize path descriptors).on host = (.ok report, behind)) :
    let merged := mergedEntries host.environment text (Descriptor.allFields descriptors)
    (∀ name, behind.environment.get? name =
        (host.environment.get? name).or ((merged.lookup name).filter fun value =>
          Environment.isName name && Environment.isValue value)) ∧
      report.exported = (merged.map Prod.fst).filter (fun name =>
        behind.environment.contains name && !host.environment.contains name) ∧
      report.exported.Nodup ∧
      (∀ name, name ∈ report.exported ↔
        behind.environment.contains name = true ∧ host.environment.contains name = false) ∧
      (grants host.environment merged).foldlM Environment.set? host.environment =
        some behind.environment := by
  intro merged
  obtain ⟨_, distinct⟩ := entries_mergeOf standing descriptors
  obtain ⟨environment, exported⟩ := environment_of_synchronize standing synchronized
  have values := get?_append_grants distinct host.environment
  rw [← environment] at values
  refine ⟨values, ?_, ?_, fun name => ?_, ?_⟩
  · rw [exported, map_fst_grants distinct, environment]
  · rw [exported]
    exact nodup_grants distinct _
  · rw [exported, environment, contains_append, Bool.or_eq_true, List.contains_iff_mem]
    constructor
    · intro granted
      obtain ⟨pair, isGranted, rfl⟩ := List.mem_map.1 granted
      exact ⟨.inr granted, (mem_grants.1 isGranted).2.1⟩
    · rintro ⟨live | granted, absent⟩
      · rw [absent] at live
        cases live
      · exact granted
  · rw [environment]
    apply Environment.foldlM_set? (nodup_grants distinct _)
    · exact fun pair granted => (mem_grants.1 granted).2.1
    · exact fun pair granted => (mem_grants.1 granted).2.2

/-- An empty variable wins over the text, a default with a NUL is added to the file but not to the
process, and a substitution takes the variables from before. -/
theorem synchronize_seeds_of_collisions :
    let host : Host := { (default : Host) with
      environment := ⟨[("HOME", "/root"), ("C", "")]⟩
      files := ⟨.directory 0o755 (.cons ".env" (.file 0o644 "A=1\nB=$HOME/x\nC=kept\n".toUTF8) .nil)⟩ }
    let descriptors : List Descriptor :=
      [⟨"", "", "", [⟨"B", "2"⟩, ⟨"D", "a\x00b"⟩, ⟨"E F", "3"⟩, ⟨"E", ""⟩]⟩]
    ∃ report behind, (synchronize ⟨".env"⟩ descriptors).on host = (.ok report, behind) ∧
      host.Standing ⟨".env"⟩ "A=1\nB=$HOME/x\nC=kept\n" ∧
      report.added = ["D", "E"] ∧ report.exported = ["A", "B", "E"] ∧
      ["A", "B", "C", "D", "E"].map behind.environment.get? =
        [some "1", some "/root/x", some "", none, some ""] := by
  intro host descriptors
  have named : Path.fileName? ⟨".env"⟩ = some ".env" := by decide
  have opens : host.files.openDirectory host.place (Path.directory ⟨".env"⟩) = .ok [] :=
    Host.openDirectory_dot rfl
  have standing : host.Standing ⟨".env"⟩ "A=1\nB=$HOME/x\nC=kept\n" :=
    .file named opens rfl (by decide) (by decide)
  have merged : mergedEntries host.environment "A=1\nB=$HOME/x\nC=kept\n"
      (Descriptor.allFields descriptors) =
        [("A", "1"), ("B", "/root/x"), ("C", "kept"), ("D", "a\x00b"), ("E", "")] := by
    decide
  have added : (mergeOf ⟨".env"⟩ descriptors host).added = ["D", "E"] := by
    rw [mergeOf, (merge_eq_missing (holds_load host ⟨".env"⟩) _).1, (load_standing standing).2]
    decide
  have incomplete : (mergeOf ⟨".env"⟩ descriptors host).added ≠ [] := by
    rw [added]
    decide
  obtain ⟨report, behind, _, synchronized, reported, _⟩ :=
    exists_synchronize_of_name ".env" (by decide) (by decide) rfl (by decide) incomplete
  obtain ⟨values, exported, _, _, _⟩ := synchronize_seeds standing synchronized
  rw [merged] at values exported
  refine ⟨report, behind, synchronized, standing, reported.trans added, ?_, ?_⟩
  · rw [exported]
    simp only [Entries.contains, values]
    decide
  · rw [show behind.environment.get? = _ from funext values]
    decide

end EnvFile
end ConfigWiring
