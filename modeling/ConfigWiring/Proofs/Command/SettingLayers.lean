import ConfigWiring.Proofs.Command.SettingReading
import ConfigWiring.Proofs.Command.SettingVariables
import ConfigWiring.Proofs.Host.Rewriting

/-!
# Settings layer by layer

Each setting is decided alone.  The highest of the layers that mention it gives its value: the
options of the command line, the variables of the process, and the settings file, in this order.
Settings are loaded exactly if all of these values are of the types of their settings.
-/

namespace ConfigWiring

open Config Text

namespace Settings

/-! ## The options -/

/-- The values that are given among some that may be. -/
theorem lookup_given
    {given : List (String × Option Value)}
    (distinct : (given.map Prod.fst).Nodup)
    (name : String) :
    (given.filterMap fun (key, value?) => value?.map (key, ·)).lookup name =
      (given.lookup name).join := by
  induction given with
  | nil => rfl
  | cons field given inductionHypothesis =>
      obtain ⟨key, value?⟩ := field
      rw [List.map_cons, List.nodup_cons] at distinct
      have others := inductionHypothesis distinct.2
      by_cases same : name = key
      · subst same
        rw [lookup_eq_none_of_not_mem distinct.1] at others
        cases value? <;> simp [others]
      · cases value? <;> simp [List.lookup_cons, beq_false_of_ne same, others]

theorem distinct_given
    {given : List (String × Option Value)}
    (distinct : (given.map Prod.fst).Nodup) :
    Distinct (given.filterMap fun (key, value?) => value?.map (key, ·)) := by
  refine distinct.sublist ?_
  clear distinct
  induction given with
  | nil => exact .slnil
  | cons field given inductionHypothesis =>
      obtain ⟨key, value?⟩ := field
      cases value? with
      | none => exact inductionHypothesis.cons _
      | some => exact inductionHypothesis.cons_cons _

theorem distinct_keys : ["ctor_policy", "destination", "dotenv", "env_file", "format", "tag",
    "target", "template"].Nodup := by
  decide

theorem distinct_toTable (overrides : Overrides) : Distinct overrides.toTable :=
  distinct_given distinct_keys

/-- The options of a command line that was read give a setting the value of its option. -/
theorem lookup_toTable
    {line : CommandLine.Line}
    (policies : CommandLine.NamesPolicies line.own)
    {kind : Type}
    (setting : Setting kind) :
    line.overrides.toTable.lookup setting.key =
      setting.option?.bind fun (option, valueOf) => (line.own.lookup option).map valueOf := by
  have chosen : ((line.own.lookup .ctorPolicy).bind CtorNamePolicy.ofWord?).map
      (fun policy => Value.text policy.word) = (line.own.lookup .ctorPolicy).map .text := by
    cases given : line.own.lookup .ctorPolicy with
    | none => rfl
    | some word =>
        obtain ⟨front, back, split, _⟩ := List.lookup_eq_some_iff.1 given
        have present : (.ctorPolicy, word) ∈ line.own := by simp [split]
        obtain ⟨policy, named⟩ := Option.isSome_iff_exists.1 (policies _ present rfl)
        have spelled : policy.word = word := by
          have found := named
          rw [CtorNamePolicy.ofWord?] at found
          simpa using List.find?_some found
        simp [named, spelled]
  rw [Overrides.toTable, lookup_given]
  · cases setting with
    | ctorPolicy => exact chosen
    | sideEffects => rfl
    | _ =>
        simp [Setting.key, Setting.option?, CommandLine.Line.overrides, List.lookup_cons,
          Function.comp_def]
  · exact distinct_keys

/-! ## The settings file -/

/-- A settings file that is found is read. -/
theorem ofFile_of_resolve
    {host : Host}
    {root : Path}
    {place : Place}
    {mode : Nat}
    {text : String}
    {table : Table}
    (leads : host.files.resolve host.place (root / fileName) =
      .ok (place, .file mode text.toUTF8))
    (spelled : Toml.parse? text = some table) :
    ofFile host root = .ok table := by
  have isFile : host.files.isFile host.place (root / fileName) = true := by
    rw [FileTree.isFile, leads]
    rfl
  have read : host.files.readText host.place (root / fileName) = .ok text := by
    rw [FileTree.readText, leads]
    simp only [FileTree.textOf, FileTree.fromUTF8?_toUTF8]
  simp only [ofFile, isFile, if_true, read, Except.toOption, Option.bind_some, spelled]

/-! ## Where settings come from -/

/-- Where settings come from: a command line that was read, and the variables and the settings
file of a host. -/
structure Sources where
  /-- The words of the command line. -/
  words : List String
  /-- What the words say. -/
  line : CommandLine.Line
  /-- What the run can see. -/
  host : Host
  /-- What is in the settings file; nothing if there is none. -/
  file : Table
  parsed : CommandLine.read words = .ok line
  found : ofFile host line.root = .ok file
  pointFree : ∀ pair ∈ host.environment.pairs, PointFree pair.1

namespace Sources

variable {sources others : Sources} {kind : Type} {setting : Setting kind} {value : Value}
  {result : kind}

/-- The settings of a run. -/
def load (sources : Sources) : Except Config.Error Settings :=
  Settings.load sources.host sources.line.root sources.line.overrides

/-- What the options say of a setting. -/
def option? (sources : Sources) (setting : Setting kind) : Option Value :=
  setting.option?.bind fun (option, valueOf) => (sources.line.own.lookup option).map valueOf

/-- What the last variable for a setting says. -/
def Speaks (sources : Sources) (setting : Setting kind) (text : String) : Prop :=
  Settings.Speaks sources.host.environment.pairs setting.key text

/-- The value that the highest of the layers that mention a setting gives it. -/
inductive Highest (sources : Sources) (setting : Setting kind) : Value -> Prop
  | option {value : Value} (given : sources.option? setting = some value) :
      Highest sources setting value
  | environment {text : String}
      (ungiven : sources.option? setting = none)
      (speaks : sources.Speaks setting text) :
      Highest sources setting (Literal.parse text)
  | file {value : Value}
      (ungiven : sources.option? setting = none)
      (silent : ∀ text, ¬sources.Speaks setting text)
      (holds : sources.file.lookup setting.key = some value) :
      Highest sources setting value

/-- What a setting is: what its highest value stands for, or the built-in value. -/
inductive Decides (sources : Sources) (setting : Setting kind) : kind -> Prop
  | stated {value : Value} {result : kind}
      (highest : sources.Highest setting value)
      (stands : setting.Stands value result) :
      Decides sources setting result
  | standard
      (unmentioned : ∀ value, ¬sources.Highest setting value) :
      Decides sources setting (setting.of standard)

/-- Sources in which every layer says the same of a setting. -/
structure Agree (sources others : Sources) (setting : Setting kind) : Prop where
  option : sources.option? setting = others.option? setting
  environment (text : String) : sources.Speaks setting text ↔ others.Speaks setting text
  file : sources.file.lookup setting.key = others.file.lookup setting.key

/-- The table that settings are read from. -/
def table (sources : Sources) : Table :=
  layers sources.file sources.host.environment sources.line.overrides

theorem load_eq_ofTable (sources : Sources) : sources.load = ofTable sources.table := by
  rw [load, Settings.load, sources.found]
  rfl

theorem key_ne_empty (setting : Setting kind) : setting.key ≠ "" := by
  cases setting <;> decide

/-- The highest value stays on top. -/
theorem Highest.exists_lookup
    (highest : sources.Highest setting value) :
    ∃ laid, sources.table.lookup setting.key = some laid ∧ laid.Alike value := by
  have options := lookup_toTable (CommandLine.namesPolicies_of_read sources.parsed) setting
  have distinct : Distinct (ofVariables sources.host.environment) :=
    (ascending_ofVariables sources.pointFree).distinct
  cases highest with
  | option given =>
      exact exists_lookup_layFields (distinct_toTable _) (options.trans given)
  | environment ungiven speaks =>
      rw [table, layers, lookup_layFields_of_none (options.trans ungiven)]
      obtain ⟨said, there, alike⟩ :=
        exists_lookup_ofVariables sources.pointFree (key_ne_empty setting) speaks
      obtain ⟨laid, holds, above⟩ := exists_lookup_layFields distinct there
      exact ⟨laid, holds, above.trans alike⟩
  | file ungiven silent holds =>
      have nothing : Silent sources.host.environment.pairs setting.key :=
        (exists_speaks_or_silent _ _).resolve_left fun ⟨text, speaks⟩ => silent text speaks
      rw [table, layers, lookup_layFields_of_none (options.trans ungiven),
        lookup_layFields_of_none
          (lookup_ofVariables_of_silent sources.pointFree (key_ne_empty setting) nothing)]
      exact ⟨value, holds, .refl value⟩

/-- Where no layer mentions a setting there is nothing under its key. -/
theorem lookup_table_of_unmentioned
    (unmentioned : ∀ value, ¬sources.Highest setting value) :
    sources.table.lookup setting.key = none := by
  have ungiven : sources.option? setting = none :=
    Option.eq_none_iff_forall_ne_some.2 fun value given => unmentioned value (.option given)
  have silent (text : String) : ¬sources.Speaks setting text := fun speaks =>
    unmentioned _ (.environment ungiven speaks)
  have nothing : Silent sources.host.environment.pairs setting.key :=
    (exists_speaks_or_silent _ _).resolve_left fun ⟨text, speaks⟩ => silent text speaks
  have options := lookup_toTable (CommandLine.namesPolicies_of_read sources.parsed) setting
  rw [table, layers, lookup_layFields_of_none (options.trans ungiven),
    lookup_layFields_of_none
      (lookup_ofVariables_of_silent sources.pointFree (key_ne_empty setting) nothing)]
  exact Option.eq_none_iff_forall_ne_some.2 fun value holds =>
    unmentioned value (.file ungiven silent holds)

/-- Tables are of no setting's type, so tables that are joined make no difference. -/
theorem stands_iff_of_alike
    {laid : Value}
    (alike : laid.Alike value) :
    setting.Stands laid result ↔ setting.Stands value result := by
  have none (fields : Table) : ¬setting.Stands (.table fields) result := by
    intro stands
    cases stands <;> contradiction
  cases alike with
  | refl => exact .rfl
  | tables fields others => exact iff_of_false (none fields) (none others)

theorem decides_iff_reads :
    sources.Decides setting result ↔ setting.Reads sources.table result := by
  constructor
  · intro decides
    cases decides with
    | stated highest stands =>
        obtain ⟨laid, holds, alike⟩ := highest.exists_lookup
        exact (Setting.reads_of_lookup holds).2 ((stands_iff_of_alike alike).2 stands)
    | standard unmentioned =>
        exact (Setting.reads_of_lookup_none (lookup_table_of_unmentioned unmentioned)).2 rfl
  · intro reads
    by_cases mentioned : ∃ value, sources.Highest setting value
    · obtain ⟨value, highest⟩ := mentioned
      obtain ⟨laid, holds, alike⟩ := highest.exists_lookup
      have stands := (stands_iff_of_alike alike).1 ((Setting.reads_of_lookup holds).1 reads)
      exact .stated highest stands
    · have unmentioned := not_exists.1 mentioned
      obtain rfl :=
        (Setting.reads_of_lookup_none (lookup_table_of_unmentioned unmentioned)).1 reads
      exact .standard unmentioned

/-- A setting is one thing at most. -/
theorem Decides.unique
    {result' : kind}
    (decides : sources.Decides setting result)
    (decides' : sources.Decides setting result') :
    result = result' :=
  Except.ok.inj ((decides_iff_reads.1 decides).symm.trans (decides_iff_reads.1 decides'))

theorem Agree.highest
    (agree : sources.Agree others setting)
    (highest : sources.Highest setting value) :
    others.Highest setting value := by
  cases highest with
  | option given => exact .option (agree.option ▸ given)
  | environment ungiven speaks =>
      exact .environment (agree.option ▸ ungiven) ((agree.environment _).1 speaks)
  | file ungiven silent holds =>
      exact .file (agree.option ▸ ungiven)
        (fun text speaks => silent text ((agree.environment text).2 speaks)) (agree.file ▸ holds)

theorem Agree.symm
    (agree : sources.Agree others setting) :
    others.Agree sources setting :=
  ⟨agree.option.symm, fun text => (agree.environment text).symm, agree.file.symm⟩

theorem Agree.decides
    (agree : sources.Agree others setting)
    (decides : sources.Decides setting result) :
    others.Decides setting result := by
  cases decides with
  | stated highest stands => exact .stated (agree.highest highest) stands
  | standard unmentioned =>
      exact .standard fun value highest => unmentioned value (agree.symm.highest highest)

/-- A setting that no layer mentions has its built-in value. -/
theorem decides_standard
    (ungiven : sources.option? setting = none)
    (silent : Silent sources.host.environment.pairs setting.key)
    (absent : sources.file.lookup setting.key = none) :
    sources.Decides setting (setting.of standard) := by
  refine .standard fun value highest => ?_
  cases highest with
  | option given => exact absurd (ungiven.symm.trans given) nofun
  | environment _ speaks => exact silent.not_speaks speaks
  | file _ _ holds => exact absurd (absent.symm.trans holds) nofun

theorem load_eq_ok_iff
    {settings : Settings} :
    sources.load = .ok settings ↔
      ∀ {kind : Type} (setting : Setting kind), sources.Decides setting (setting.of settings) := by
  rw [load_eq_ofTable, ofTable_eq_ok_iff]
  simp only [decides_iff_reads]

theorem exists_load_eq_ok_iff :
    (∃ settings, sources.load = .ok settings) ↔
      ∀ {kind : Type} (setting : Setting kind) (value : Value),
        sources.Highest setting value -> ∃ result, setting.Stands value result := by
  rw [load_eq_ofTable, exists_ofTable_eq_ok_iff]
  constructor
  · intro reads kind setting value highest
    obtain ⟨result, read⟩ := reads setting
    obtain ⟨laid, holds, alike⟩ := highest.exists_lookup
    exact ⟨result, (stands_iff_of_alike alike).1 ((Setting.reads_of_lookup holds).1 read)⟩
  · intro stands kind setting
    simp only [← decides_iff_reads]
    by_cases mentioned : ∃ value, sources.Highest setting value
    · obtain ⟨value, highest⟩ := mentioned
      exact (stands setting value highest).imp fun result stands => .stated highest stands
    · exact ⟨_, .standard (not_exists.1 mentioned)⟩

/-- Settings are loaded exactly if the highest values of all settings are of their types; then
each setting is what its highest value stands for, or the built-in value.  Other sources that
say the same of a setting give the same setting, and sources that say the same of all settings
give the same settings. -/
theorem each_setting_decided_alone (sources : Sources) :
    (∀ settings, sources.load = .ok settings ↔
      ∀ {kind : Type} (setting : Setting kind), sources.Decides setting (setting.of settings)) ∧
    ((∃ settings, sources.load = .ok settings) ↔
      ∀ {kind : Type} (setting : Setting kind) (value : Value),
        sources.Highest setting value -> ∃ result, setting.Stands value result) ∧
    (∀ (others : Sources) (settings otherSettings : Settings) {kind : Type}
        (setting : Setting kind),
      sources.Agree others setting -> sources.load = .ok settings ->
        others.load = .ok otherSettings -> setting.of settings = setting.of otherSettings) ∧
    ∀ others : Sources,
      (∀ {kind : Type} (setting : Setting kind), sources.Agree others setting) ->
        ∀ settings, sources.load = .ok settings ↔ others.load = .ok settings := by
  refine ⟨fun settings => load_eq_ok_iff, exists_load_eq_ok_iff, ?_, ?_⟩
  · intro others settings otherSettings kind setting agree loads othersLoad
    exact (agree.decides (load_eq_ok_iff.1 loads setting)).unique
      (load_eq_ok_iff.1 othersLoad setting)
  · intro others agree settings
    rw [load_eq_ok_iff, load_eq_ok_iff]
    exact ⟨fun decides kind setting => (agree setting).decides (decides setting),
      fun decides kind setting => (agree setting).symm.decides (decides setting)⟩

/-- A settings file may give `dotenv` a text where `--no-dotenv` is given; the file still gives
another setting, and a variable a third one. -/
theorem each_setting_decided_alone_of_mistyped_file :
    ∃ sources : Sources, sources.words = ["generate", "--no-dotenv"] ∧
      sources.host.environment.pairs = [("wiregen_Tag", "Service")] ∧
      sources.file = [("destination", .text "gen"), ("dotenv", .text "no")] ∧
      sources.load = .ok { standard with
        tag := "Service"
        destination := ⟨"gen"⟩
        dotenv := false } := by
  let spelling : List Char :=
    ['d', 'e', 's', 't', 'i', 'n', 'a', 't', 'i', 'o', 'n', '=', '\'', 'g', 'e', 'n', '\'', '\n',
      'd', 'o', 't', 'e', 'n', 'v', '=', '\'', 'n', 'o', '\'', '\n']
  have spelled : Toml.parse? (String.ofList spelling) =
      some [("destination", .text "gen"), ("dotenv", .text "no")] := by
    have statements : Toml.statements? 62 62 [] [] spelling =
        some [("destination", .value (.text "gen")), ("dotenv", .value (.text "no"))] := rfl
    have before : "destination" < "dotenv" := by decide
    rw [Toml.parse?, String.toList_ofList]
    show (Toml.statements? 62 62 [] [] spelling).map Toml.finishFields = _
    rw [statements, Option.map_some]
    simp only [Toml.finishFields, Toml.Item.finish, putField, if_pos before]
  let host : Host := { (default : Host) with
    files := ⟨.directory 0o755
      (.cons fileName (.file 0o644 (String.ofList spelling).toUTF8) .nil)⟩
    environment := ⟨[("wiregen_Tag", "Service")]⟩ }
  let path : Path := Path.mk "." / fileName
  have leads : host.files.resolve host.place path =
      .ok ([fileName], .file 0o644 (String.ofList spelling).toUTF8) := by
    have ends : FileTree.EndsIn path fileName := by decide
    have relative : path.isAbsolute = false := by decide
    have front : path.nameSteps.dropLast = [.stay] := by decide
    have followed : host.files.follow none FileTree.maxLinks
        (if path.isAbsolute then [] else host.place) (path.nameSteps.dropLast ++ [.stay]) =
          .ok [] := by
      rw [front, relative]
      exact (FileTree.Leads.stay (.stay (.done _ _))).follow
    exact FileTree.resolve_of_file ends (by decide) followed rfl
  let sources : Sources := {
    words := ["generate", "--no-dotenv"]
    line := ⟨[], .generate, [(.noDotenv, "")]⟩
    host
    file := [("destination", .text "gen"), ("dotenv", .text "no")]
    parsed := rfl
    found := ofFile_of_resolve leads spelled
    pointFree := by
      intro pair present rest behind
      obtain rfl := List.mem_singleton.1 present
      rw [(behind_iff.1 behind).2]
      decide }
  have silent (key : String) (other : ¬Names "wiregen_Tag" key) :
      Silent host.environment.pairs key :=
    List.forall_mem_singleton.2 other
  refine ⟨sources, rfl, rfl, rfl, ((each_setting_decided_alone sources).1 _).2 ?_⟩
  intro kind setting
  cases setting with
  | tag =>
      have speaks : sources.Speaks .tag "Service" := ⟨[], _, [], rfl, by decide, List.forall_mem_nil _⟩
      exact .stated (.environment rfl speaks) (.tag (.text "Service"))
  | destination =>
      have unset (text : String) : ¬sources.Speaks .destination text :=
        (silent "destination" (by decide)).not_speaks
      exact .stated (.file rfl unset rfl) (.destination (.text "gen"))
  | dotenv => exact .stated (.option rfl) (.dotenv false)
  | _ => exact decides_standard rfl (silent _ (by decide)) rfl

end Sources
end Settings
end ConfigWiring
