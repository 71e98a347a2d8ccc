import ConfigWiring.Proofs.Command.GivenOptions
import Mathlib.Data.List.Forall2

/-!
# Reading settings

A setting is read from the values of its type, and settings are read from a table setting by
setting, each from the value under its key.
-/

namespace ConfigWiring

open Config Text

namespace Settings

/-! ## The settings and their types -/

/-- The settings, each with the type of its field. -/
inductive Setting : Type -> Type
  | tag : Setting String
  | template : Setting (Option Path)
  | destination : Setting Path
  | target : Setting (Option Path)
  | envFile : Setting Path
  | dotenv : Setting Bool
  | format : Setting Bool
  | ctorPolicy : Setting CtorNamePolicy
  | sideEffects : Setting (List String)

/-- The values that are texts: a single character is one, too. -/
inductive IsText : Value -> String -> Prop
  | text (word : String) : IsText (.text word) word
  | char (char : Char) : IsText (.char char) char.toString

namespace Setting

/-- The key of a setting. -/
def key {kind : Type} : Setting kind -> String
  | tag => "tag"
  | template => "template"
  | destination => "destination"
  | target => "target"
  | envFile => "env_file"
  | dotenv => "dotenv"
  | format => "format"
  | ctorPolicy => "ctor_policy"
  | sideEffects => "side_effects"

/-- The field of a setting. -/
def of {kind : Type} : Setting kind -> Settings -> kind
  | tag, settings => settings.tag
  | template, settings => settings.template?
  | destination, settings => settings.destination
  | target, settings => settings.target?
  | envFile, settings => settings.envFile
  | dotenv, settings => settings.dotenv
  | format, settings => settings.format
  | ctorPolicy, settings => settings.ctorPolicy
  | sideEffects, settings => settings.sideEffects

/-- The option that gives a setting, and the value that it gives with a word. -/
def option? {kind : Type} : Setting kind -> Option (CommandLine.OptionName × (String -> Value))
  | tag => some (.tag, .text)
  | template => some (.template, .text)
  | destination => some (.destination, .text)
  | target => some (.target, .text)
  | envFile => some (.envFile, .text)
  | dotenv => some (.noDotenv, fun _ => .bool false)
  | format => some (.noFormat, fun _ => .bool false)
  | ctorPolicy => some (.ctorPolicy, .text)
  | sideEffects => none

/-- The values of the type of a setting, with what they stand for. -/
inductive Stands : {kind : Type} -> Setting kind -> Value -> kind -> Prop
  | tag {value : Value} {word : String} (text : IsText value word) : Stands .tag value word
  | template {value : Value} {word : String} (text : IsText value word) :
      Stands .template value (some ⟨word⟩)
  | destination {value : Value} {word : String} (text : IsText value word) :
      Stands .destination value ⟨word⟩
  | target {value : Value} {word : String} (text : IsText value word) :
      Stands .target value (some ⟨word⟩)
  | envFile {value : Value} {word : String} (text : IsText value word) :
      Stands .envFile value ⟨word⟩
  | dotenv (flag : Bool) : Stands .dotenv (.bool flag) flag
  | format (flag : Bool) : Stands .format (.bool flag) flag
  | ctorPolicy (policy : CtorNamePolicy) : Stands .ctorPolicy (.text policy.word) policy
  | sideEffects {values : List Value} {words : List String}
      (texts : List.Forall₂ IsText values words) : Stands .sideEffects (.list values) words

/-- What reads a setting. -/
def reader {kind : Type} : Setting kind -> Reader kind
  | tag => Reader.text "a string"
  | template => fun value => some <$> readPath value
  | destination => readPath
  | target => fun value => some <$> readPath value
  | envFile => readPath
  | dotenv => Reader.flag
  | format => Reader.flag
  | ctorPolicy => readPolicy
  | sideEffects => Reader.list (Reader.text "a string")

end Setting

/-! ## Reading a value -/

theorem under_eq_ok_iff
    {result : Type}
    {key : String}
    {outcome : Except Error result}
    {value : result} :
    Reader.under key outcome = .ok value ↔ outcome = .ok value := by
  cases outcome <;> simp [Reader.under]

theorem text_eq_ok_iff
    (expected : String)
    {value : Value}
    {word : String} :
    Reader.text expected value = .ok word ↔ IsText value word := by
  constructor
  · intro reads
    cases value with
    | text | char =>
        cases reads
        constructor
    | _ => cases reads
  · intro text
    cases text <;> rfl

theorem readPath_eq_ok_iff
    {value : Value}
    {path : Path} :
    readPath value = .ok path ↔ IsText value path.text := by
  unfold readPath
  rw [← text_eq_ok_iff "a UTF-8 path string"]
  cases Reader.text "a UTF-8 path string" value with
  | error => simp [Except.map]
  | ok word =>
      obtain ⟨text⟩ := path
      simp [Except.map]

theorem flag_eq_ok_iff
    {value : Value}
    {flag : Bool} :
    Reader.flag value = .ok flag ↔ value = .bool flag := by
  cases value <;> simp [Reader.flag, Reader.mistyped]

theorem itemsFrom_eq_ok_iff
    {index : Nat}
    {values : List Value}
    {words : List String} :
    Reader.itemsFrom (Reader.text "a string") index values = .ok words ↔
      List.Forall₂ IsText values words := by
  induction values generalizing index words with
  | nil =>
      rw [Reader.itemsFrom, List.forall₂_nil_left_iff]
      exact ⟨fun same => by cases same; rfl, fun same => by rw [same]⟩
  | cons value values inductionHypothesis =>
      simp only [Reader.itemsFrom, bind_eq_ok_iff, under_eq_ok_iff, text_eq_ok_iff,
        inductionHypothesis, List.forall₂_cons_left_iff]
      constructor
      · rintro ⟨word, text, others, texts, same⟩
        cases same
        exact ⟨word, others, text, texts, rfl⟩
      · rintro ⟨word, others, text, texts, rfl⟩
        exact ⟨word, text, others, texts, rfl⟩

theorem lookup_words_eq_some_iff
    {word : String}
    {policy : CtorNamePolicy} :
    (CtorNamePolicy.all.map fun policy => (policy.word, policy)).lookup word = some policy ↔
      word = policy.word := by
  constructor
  · intro found
    obtain ⟨front, back, split, _⟩ := List.lookup_eq_some_iff.1 found
    have present : (word, policy) ∈ CtorNamePolicy.all.map fun policy => (policy.word, policy) := by
      simp [split]
    obtain ⟨other, _, same⟩ := List.mem_map.1 present
    cases same
    rfl
  · rintro rfl
    cases policy <;> decide

/-- A policy is read from its word alone. -/
theorem readPolicy_eq_ok_iff
    {value : Value}
    {policy : CtorNamePolicy} :
    readPolicy value = .ok policy ↔ value = .text policy.word := by
  unfold readPolicy Reader.word
  cases value with
  | text word =>
      simp only [Value.text.injEq]
      rw [← lookup_words_eq_some_iff]
      cases (CtorNamePolicy.all.map fun policy => (policy.word, policy)).lookup word <;> simp
  | table fields =>
      cases fields with
      | nil => simp [Reader.mistyped]
      | cons field fields => simp [bind_eq_ok_iff, under_eq_ok_iff, Reader.mistyped]
  | _ => simp [Reader.mistyped]

namespace Setting

variable {kind : Type} {setting : Setting kind} {value other : Value} {result : kind}

/-- A setting is read from the values of its type. -/
theorem reader_eq_ok_iff : setting.reader value = .ok result ↔ setting.Stands value result := by
  have optional {path? : Option Path} :
      (some <$> readPath value) = .ok path? ↔
        ∃ path, IsText value path.text ∧ some path = path? := by
    simp only [← readPath_eq_ok_iff]
    cases readPath value <;> simp [Functor.map, Except.map]
  constructor
  · intro reads
    cases setting with
    | tag => exact .tag ((text_eq_ok_iff _).1 reads)
    | template | target =>
        obtain ⟨path, text, rfl⟩ := optional.1 reads
        obtain ⟨word⟩ := path
        constructor
        exact text
    | destination | envFile =>
        obtain ⟨word⟩ := result
        constructor
        exact readPath_eq_ok_iff.1 reads
    | dotenv | format =>
        obtain rfl := flag_eq_ok_iff.1 reads
        constructor
    | ctorPolicy =>
        obtain rfl := readPolicy_eq_ok_iff.1 reads
        constructor
    | sideEffects =>
        cases value with
        | list values => exact .sideEffects (itemsFrom_eq_ok_iff.1 reads)
        | _ => cases reads
  · intro stands
    cases stands with
    | tag text => exact (text_eq_ok_iff _).2 text
    | template text | target text => exact optional.2 ⟨_, text, rfl⟩
    | destination text | envFile text => exact readPath_eq_ok_iff.2 text
    | dotenv flag | format flag => rfl
    | ctorPolicy policy => exact readPolicy_eq_ok_iff.2 rfl
    | sideEffects texts => exact itemsFrom_eq_ok_iff.2 texts

/-- What a table says of a setting, if it says anything. -/
def Reads (setting : Setting kind) (table : Table) (result : kind) : Prop :=
  Reader.field table setting.key setting.reader (setting.of standard) = .ok result

theorem reads_of_lookup
    {table : Table}
    (holds : table.lookup setting.key = some value) :
    setting.Reads table result ↔ setting.Stands value result := by
  rw [Reads, Reader.field, holds, under_eq_ok_iff, reader_eq_ok_iff]

theorem reads_of_lookup_none
    {table : Table}
    (absent : table.lookup setting.key = none) :
    setting.Reads table result ↔ result = setting.of standard := by
  rw [Reads, Reader.field_of_lookup_none absent, Except.ok.injEq, eq_comm]

end Setting

/-- Settings are read from a table setting by setting. -/
theorem ofTable_eq_ok_iff
    {table : Table}
    {settings : Settings} :
    ofTable table = .ok settings ↔
      ∀ {kind : Type} (setting : Setting kind), setting.Reads table (setting.of settings) := by
  simp only [ofTable, bind_eq_ok_iff]
  constructor
  · rintro ⟨ctorPolicy, policyRead, destination, destinationRead, dotenv, dotenvRead, envFile,
      envFileRead, format, formatRead, sideEffects, sideEffectsRead, tag, tagRead, target,
      targetRead, template, templateRead, same⟩ kind setting
    cases same
    cases setting <;> assumption
  · intro reads
    exact ⟨_, reads .ctorPolicy, _, reads .destination, _, reads .dotenv, _, reads .envFile,
      _, reads .format, _, reads .sideEffects, _, reads .tag, _, reads .target,
      _, reads .template, rfl⟩

/-- Settings can be read from a table exactly if each of them can. -/
theorem exists_ofTable_eq_ok_iff
    {table : Table} :
    (∃ settings, ofTable table = .ok settings) ↔
      ∀ {kind : Type} (setting : Setting kind), ∃ result, setting.Reads table result := by
  simp only [ofTable_eq_ok_iff]
  constructor
  · rintro ⟨settings, reads⟩ kind setting
    exact ⟨_, reads setting⟩
  · intro reads
    obtain ⟨tag, tagRead⟩ := reads .tag
    obtain ⟨template, templateRead⟩ := reads .template
    obtain ⟨destination, destinationRead⟩ := reads .destination
    obtain ⟨target, targetRead⟩ := reads .target
    obtain ⟨envFile, envFileRead⟩ := reads .envFile
    obtain ⟨dotenv, dotenvRead⟩ := reads .dotenv
    obtain ⟨format, formatRead⟩ := reads .format
    obtain ⟨ctorPolicy, ctorPolicyRead⟩ := reads .ctorPolicy
    obtain ⟨sideEffects, sideEffectsRead⟩ := reads .sideEffects
    refine ⟨⟨tag, template, destination, target, envFile, dotenv, format, ctorPolicy, sideEffects⟩,
      fun setting => ?_⟩
    cases setting <;> assumption

end Settings
end ConfigWiring
