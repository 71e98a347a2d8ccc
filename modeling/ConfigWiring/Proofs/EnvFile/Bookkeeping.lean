import ConfigWiring.Proofs.EnvFile.Naming

/-!
# The parts of an env file stay in step

An env file keeps its text, its entries and its added names apart.  However it comes about and
whatever is offered to it later, no name is added twice, the entries are those of the text and
behind them those of the added names, each in the order in which its name first came, and what is
written is the text and one line for each added name.
-/

namespace ConfigWiring
namespace EnvFile

variable {environment : Environment} {file : EnvFile} {text name : String} {offered : List String}

/-! ## Names in the order in which they first come -/

/-- A further name stands behind the others unless it is among them. -/
theorem eraseDups_concat (names : List String) (name : String) :
    (names ++ [name]).eraseDups = names.eraseDups ++ if name ∈ names then [] else [name] := by
  rw [List.eraseDups_append]
  congr 1
  by_cases present : name ∈ names <;> simp [List.removeAll, present, List.eraseDups_cons]

/-- The names that a text gives a value, in the order in which it first gives them one. -/
def givenNames (text : String) : List String := (namesOf (readLines text)).eraseDups

theorem mem_givenNames : name ∈ givenNames text ↔ Gives text name := by
  rw [givenNames, List.mem_eraseDups, gives_iff_mem_namesOf]

/-- The names that are offered and that a text does not give, in the order in which they are first
offered. -/
def newNames (text : String) (offered : List String) : List String :=
  (offered.filter fun name => name ∉ givenNames text).eraseDups

/-- One more offer brings a name unless the text or an offer before it did. -/
theorem newNames_concat (text : String) (offered : List String) (name : String) :
    newNames text (offered ++ [name]) = newNames text offered ++
      if name ∈ givenNames text ++ newNames text offered then [] else [name] := by
  rw [newNames, List.filter_append]
  by_cases given : name ∈ givenNames text
  · simp [given, newNames]
  · have kept : [name].filter (fun name => name ∉ givenNames text) = [name] := by simp [given]
    rw [kept, eraseDups_concat, ← newNames]
    simp [given, newNames, List.mem_eraseDups]

/-! ## The names of entries -/

theorem names_put (entries : Entries) (name value : String) :
    (entries.put name value).names =
      entries.names ++ if name ∈ entries.names then [] else [name] := by
  cases present : entries.contains name with
  | true =>
      rw [Entries.names_put_of_contains present, if_pos, List.append_nil]
      exact (Entries.contains_iff_mem_names entries name).1 present
  | false =>
      rw [Entries.names_put_of_not_contains present, if_neg]
      rw [← Entries.contains_iff_mem_names, present]
      exact Bool.false_ne_true

/-- The entries of a text are in the order in which it first gives their names a value. -/
theorem names_entriesOf (environment : Environment) (text : String) :
    (entriesOf environment text).names = givenNames text := by
  unfold entriesOf givenNames
  generalize readLines text = lines
  induction lines using List.reverseRecOn with
  | nil => rfl
  | append_singleton lines line inductionHypothesis =>
      rw [List.foldl_append, namesOf_append]
      match line with
      | none => simpa [addLine, namesOf] using inductionHypothesis
      | some .idle => simpa [addLine, namesOf] using inductionHypothesis
      | some (.assignment name pieces) =>
          have own : namesOf [some (.assignment name pieces)] = [name] := rfl
          rw [own, eraseDups_concat, ← inductionHypothesis]
          simp only [List.foldl_cons, List.foldl_nil, addLine, names_put, inductionHypothesis,
            List.mem_eraseDups]

/-- The names of a file are those that its text gives, and then the added ones. -/
theorem Holds.names_eq
    {added : List (String × String)}
    (holds : Holds environment file added) :
    file.entries.names = givenNames file.source ++ file.appended := by
  rw [Entries.names, holds.pairs, List.map_append, holds.appended, ← names_entriesOf environment]
  rfl

/-! ## Histories -/

/-- Where an env file comes from. -/
inductive Origin where
  /-- Nothing. -/
  | blank
  /-- A text that is read. -/
  | text (contents : String)
  /-- Pairs of a name and a value; the last value of a name counts. -/
  | pairs (all : List (String × String))

namespace Origin

/-- The text of an origin. -/
def source : Origin -> String
  | .text contents => contents
  | _ => ""

/-- The names that an origin offers besides its text. -/
def names : Origin -> List String
  | .pairs all => all.map Prod.fst
  | _ => []

/-- The file that comes from an origin. -/
def start (environment : Environment) : Origin -> EnvFile
  | .blank => .empty
  | .text contents => .parse environment contents
  | .pairs all => .ofPairs all

end Origin

/-- The file to which pairs are offered one after the other. -/
def insertAll (file : EnvFile) (offers : List (String × String)) : EnvFile :=
  offers.foldl (fun file (name, value) => (file.insertMissing name value).1) file

theorem insertMissing_of_not_contains
    (absent : file.contains name = false)
    (value : String) :
    file.insertMissing name value = (file.add name value, true) := by
  rw [EnvFile.insertMissing, if_neg (Bool.eq_false_iff.1 absent)]

/-- Offers leave the text as it is. -/
theorem source_insertAll (file : EnvFile) (offers : List (String × String)) :
    (file.insertAll offers).source = file.source := by
  induction offers generalizing file with
  | nil => rfl
  | cons offer offers inductionHypothesis =>
      obtain ⟨name, value⟩ := offer
      have kept : (file.insertMissing name value).1.source = file.source := by
        cases present : file.contains name with
        | true => rw [insertMissing_of_contains present]
        | false => rw [insertMissing_of_not_contains present, add]
      exact (inductionHypothesis _).trans kept

/-- A file whose entries are those of its text and then those of the new names among the offered
ones. -/
structure Records (environment : Environment) (offered : List String) (file : EnvFile) : Prop where
  /-- The added entries stand behind those of the text. -/
  holds : ∃ added, Holds environment file added
  /-- The new names are added. -/
  appended : file.appended = newNames file.source offered

theorem Records.contains_iff
    (records : Records environment offered file)
    (name : String) :
    file.contains name = true ↔ name ∈ givenNames file.source ++ newNames file.source offered := by
  obtain ⟨added, holds⟩ := records.holds
  rw [EnvFile.contains, Entries.contains_iff_mem_names, holds.names_eq, records.appended]

/-- An offer keeps the record. -/
theorem Records.insertMissing
    (records : Records environment offered file)
    (name value : String) :
    Records environment (offered ++ [name]) (file.insertMissing name value).1 := by
  have known := records.contains_iff name
  obtain ⟨added, holds⟩ := records.holds
  cases present : file.contains name with
  | true =>
      rw [insertMissing_of_contains present]
      refine ⟨⟨added, holds⟩, ?_⟩
      rw [newNames_concat, if_pos (known.1 present), List.append_nil]
      exact records.appended
  | false =>
      have absent : name ∉ givenNames file.source ++ newNames file.source offered := by
        rw [← known, present]
        exact Bool.false_ne_true
      rw [insertMissing_of_not_contains present]
      refine ⟨⟨_, holds.add present value⟩, ?_⟩
      show file.appended ++ [name] = newNames file.source (offered ++ [name])
      rw [newNames_concat, if_neg absent, records.appended]

/-- However many pairs are offered, the record is kept. -/
theorem Records.insertAll
    (records : Records environment offered file)
    (offers : List (String × String)) :
    Records environment (offered ++ offers.map Prod.fst) (file.insertAll offers) := by
  induction offers generalizing file offered with
  | nil => rwa [List.map_nil, List.append_nil]
  | cons offer offers inductionHypothesis =>
      obtain ⟨name, value⟩ := offer
      have step := inductionHypothesis (records.insertMissing name value)
      rwa [List.append_assoc] at step

/-- Of pairs every name is added that comes for the first time. -/
theorem appended_ofPairs (pairs : List (String × String)) :
    (ofPairs pairs).appended = (pairs.map Prod.fst).eraseDups := by
  induction pairs using List.reverseRecOn with
  | nil => rfl
  | append_singleton pairs pair inductionHypothesis =>
      obtain ⟨name, value⟩ := pair
      have known : (ofPairs pairs).entries.contains name = true ↔ name ∈ pairs.map Prod.fst := by
        rw [Entries.contains_iff_mem_names, ← (ofPairs_fields pairs).2.1, inductionHypothesis,
          List.mem_eraseDups]
      rw [ofPairs_concat, List.map_append, List.map_singleton, eraseDups_concat]
      simp only [known, inductionHypothesis]
      split <;> simp

theorem newNames_of_source_empty (offered : List String) :
    newNames "" offered = offered.eraseDups := by
  have none : givenNames "" = [] := rfl
  simp [newNames, none]

theorem Origin.built (environment : Environment) (origin : Origin) :
    Built environment (origin.start environment) :=
  match origin with
  | .blank => .empty
  | .text contents => .parse contents
  | .pairs all => .ofPairs all

/-- Nothing but its text and the names of its pairs goes into a file at its origin. -/
theorem Origin.records (environment : Environment) (origin : Origin) :
    Records environment origin.names (origin.start environment) where
  holds := (origin.built environment).exists_holds
  appended :=
    match origin with
    | .blank => rfl
    | .text _ => rfl
    | .pairs all => by
        have source : (EnvFile.ofPairs all).source = "" := (ofPairs_fields all).1
        show (EnvFile.ofPairs all).appended = newNames (EnvFile.ofPairs all).source _
        rw [source, newNames_of_source_empty, appended_ofPairs]
        rfl

/-! ## The parts of a file -/

/-- The text, the entries and the added names of a file are in step, where the given names were
offered to it besides its text. -/
structure InStep (environment : Environment) (offered : List String) (file : EnvFile) : Prop where
  /-- No name is added twice. -/
  nodup_appended : file.appended.Nodup
  /-- Every added name has an entry. -/
  contains_of_appended : ∀ name ∈ file.appended, file.contains name = true
  /-- The entries are in the order in which the text first gives their names a value, and then in
  the order in which their names were added. -/
  names : file.entries.names = givenNames file.source ++ file.appended
  /-- Names were added in the order in which they were first offered. -/
  appended : file.appended = newNames file.source offered
  /-- Every entry is either given by the text or added, and none is both. -/
  given_xor_appended : ∀ name,
    file.contains name = true ↔ Xor (Gives file.source name) (name ∈ file.appended)
  /-- A name that the text gives has the value that the text gives it. -/
  get?_of_gives : ∀ name, Gives file.source name ->
    file.get? name = (entriesOf environment file.source).get? name
  /-- An offer that is turned down changes nothing. -/
  refused : ∀ name value, (file.insertMissing name value).2 = false ->
    (file.insertMissing name value).1 = file
  /-- An offer that is taken puts one entry behind all others, and its name behind the added
  ones. -/
  taken : ∀ name value, (file.insertMissing name value).2 = true ->
    (file.insertMissing name value).1 = {
      file with
      entries := ⟨file.entries.pairs ++ [(name, value)]⟩
      appended := file.appended ++ [name] }
  /-- The written text is the source, closed by a line feed, and a line for each added name: the
  name, an equals sign and its value, in whose writing there is no line feed. -/
  rendered : ∃ lines, file.render = closedText file.source ++ String.join lines ∧
    List.Forall₂ (fun name line => ∃ value, file.get? name = some value ∧
      line = Line.write name value ∧ '\n' ∉ writeValue value.toList) file.appended lines

namespace Records

theorem names_eq (records : Records environment offered file) :
    file.entries.names = givenNames file.source ++ file.appended := by
  obtain ⟨added, holds⟩ := records.holds
  exact holds.names_eq

theorem nodup_names (records : Records environment offered file) :
    (givenNames file.source ++ file.appended).Nodup := by
  obtain ⟨added, holds⟩ := records.holds
  rw [← holds.names_eq]
  exact holds.distinct

/-- No text gives a name that was added. -/
theorem given_xor_appended
    (records : Records environment offered file)
    (name : String) :
    file.contains name = true ↔ Xor (Gives file.source name) (name ∈ file.appended) := by
  have apart := (List.nodup_append.1 records.nodup_names).2.2
  rw [records.contains_iff, ← records.appended, List.mem_append, mem_givenNames, Xor]
  constructor
  · rintro (given | added)
    · exact .inl ⟨given, fun added => apart name (mem_givenNames.2 given) name added rfl⟩
    · exact .inr ⟨added, fun given => apart name (mem_givenNames.2 given) name added rfl⟩
  · rintro (⟨given, _⟩ | ⟨added, _⟩)
    · exact .inl given
    · exact .inr added

theorem get?_of_gives
    (records : Records environment offered file)
    (gives : Gives file.source name) :
    file.get? name = (entriesOf environment file.source).get? name := by
  obtain ⟨added, holds⟩ := records.holds
  have known : ((entriesOf environment file.source).pairs.lookup name).isSome = true := by
    show (entriesOf environment file.source).contains name = true
    rwa [Entries.contains_iff_mem_names, names_entriesOf, mem_givenNames]
  rw [EnvFile.get?, Entries.get?, holds.pairs, List.lookup_append, Option.or_of_isSome known,
    Entries.get?]

/-- Every added name has a line of its own. -/
theorem exists_lines (records : Records environment offered file) :
    ∃ lines, file.render = closedText file.source ++ String.join lines ∧
      List.Forall₂ (fun name line => ∃ value, file.get? name = some value ∧
        line = Line.write name value ∧ '\n' ∉ writeValue value.toList) file.appended lines := by
  obtain ⟨added, holds⟩ := records.holds
  refine ⟨added.map fun pair => Line.write pair.1 pair.2, ?_, ?_⟩
  · rw [holds.render_eq, writeAll]
  rw [holds.appended, List.forall₂_map_left_iff, List.forall₂_map_right_iff, List.forall₂_same]
  intro pair present
  refine ⟨pair.2, ?_, rfl, feed_not_mem_writeValue pair.2.toList⟩
  apply Entries.lookup_of_mem holds.distinct
  rw [holds.pairs]
  exact List.mem_append_right _ present

end Records

theorem insertMissing_of_false
    {value : String}
    (refused : (file.insertMissing name value).2 = false) :
    (file.insertMissing name value).1 = file := by
  cases present : file.contains name with
  | true => rw [insertMissing_of_contains present]
  | false =>
      rw [insertMissing_of_not_contains present] at refused
      cases refused

theorem insertMissing_of_true
    {value : String}
    (taken : (file.insertMissing name value).2 = true) :
    (file.insertMissing name value).1 = {
      file with
      entries := ⟨file.entries.pairs ++ [(name, value)]⟩
      appended := file.appended ++ [name] } := by
  cases present : file.contains name with
  | true =>
      rw [insertMissing_of_contains present] at taken
      cases taken
  | false =>
      rw [insertMissing_of_not_contains present, add,
        ← Entries.pairs_put_of_not_contains present value]

/-- **The parts of an env file stay in step.**  Wherever a file comes from and whatever is offered
to it one after the other, its source stays the text that it comes from, and its entries, its added
names and the lines that are written for them agree. -/
theorem inStep_insertAll
    (environment : Environment)
    (origin : Origin)
    (offers : List (String × String)) :
    ((origin.start environment).insertAll offers).source = origin.source ∧
      InStep environment (origin.names ++ offers.map Prod.fst)
        ((origin.start environment).insertAll offers) := by
  have records := (origin.records environment).insertAll offers
  constructor
  · rw [source_insertAll]
    cases origin with
    | blank => rfl
    | text contents => rfl
    | pairs all => exact (ofPairs_fields all).1
  · exact {
      nodup_appended := records.nodup_names.of_append_right
      contains_of_appended := fun name added => by
        rw [records.contains_iff, ← records.appended]
        exact List.mem_append_right _ added
      names := records.names_eq
      appended := records.appended
      given_xor_appended := records.given_xor_appended
      get?_of_gives := fun _ => records.get?_of_gives
      refused := fun _ _ => insertMissing_of_false
      taken := fun _ _ => insertMissing_of_true
      rendered := records.exists_lines }

example :
    (((Origin.pairs [("B", "1"), ("A", "2"), ("B", "3")]).start .empty).insertAll
      [("A", "4"), ("C", "5 6")]).render = "B=3\nA=2\nC=\"5 6\"\n" := by
  decide

end EnvFile
end ConfigWiring
