import ConfigWiring.Proofs.EnvFile.WrittenLine
import Mathlib.Data.List.Induction
import Mathlib.Data.List.Nodup

/-!
# How env files come about

An env file is empty, read from a text or made of pairs, and names are added to it.  In every
file that comes about in this way the entries of the text stand in front and the added names
behind them, each once.  The text of the file is therefore its source, closed by a line feed,
and one line for each added entry.
-/

namespace ConfigWiring

namespace Entries

theorem lookup_of_mem
    {pairs : List (String × String)}
    (distinct : (pairs.map Prod.fst).Nodup)
    {name value : String}
    (present : (name, value) ∈ pairs) :
    pairs.lookup name = some value := by
  induction pairs with
  | nil => simp at present
  | cons pair pairs inductionHypothesis =>
      obtain ⟨key, held⟩ := pair
      rw [List.map_cons, List.nodup_cons] at distinct
      rcases List.mem_cons.1 present with same | further
      · cases same
        exact List.lookup_cons_self
      · have apart : name ≠ key := by
          intro same
          subst same
          exact distinct.1 (List.mem_map.2 ⟨(name, value), further, rfl⟩)
        rw [List.lookup_cons, beq_false_of_ne apart]
        exact inductionHypothesis distinct.2 further

/-- Giving a name a value never makes a name occur twice. -/
theorem nodup_names_put
    {entries : Entries}
    (distinct : entries.names.Nodup)
    (name value : String) :
    (entries.put name value).names.Nodup := by
  cases present : entries.contains name with
  | true => rwa [names_put_of_contains present]
  | false =>
      rw [names_put_of_not_contains present]
      have missing : name ∉ entries.names := by
        rw [← contains_iff_mem_names, present]
        simp
      rw [← List.concat_eq_append]
      exact distinct.concat missing

end Entries

namespace EnvFile

variable {environment : Environment} {file : EnvFile}

/-- The files that reading and adding make in an environment. -/
inductive Built (environment : Environment) : EnvFile -> Prop
  /-- The file without text. -/
  | empty : Built environment .empty
  /-- A file that is read from a text. -/
  | parse (text : String) : Built environment (.parse environment text)
  /-- A file that is made of pairs. -/
  | ofPairs (pairs : List (String × String)) : Built environment (.ofPairs pairs)
  /-- A file to which a name is added unless it has a value. -/
  | insertMissing {file : EnvFile} (built : Built environment file) (name value : String) :
      Built environment (file.insertMissing name value).1

/-- The entries that the text of a file does not give are the given ones, and they stand
behind the entries of the text. -/
structure Holds
    (environment : Environment)
    (file : EnvFile)
    (added : List (String × String)) : Prop where
  /-- The entries of the text, then the added ones. -/
  pairs : file.entries.pairs = (entriesOf environment file.source).pairs ++ added
  /-- The added names, in the order of their entries. -/
  appended : file.appended = added.map Prod.fst
  /-- No name has two entries. -/
  distinct : file.entries.names.Nodup

/-- No line makes a name occur twice. -/
theorem nodup_names_addLine
    {entries : Entries}
    (distinct : entries.names.Nodup)
    (line : Option Line) :
    (addLine environment entries line).names.Nodup := by
  match line with
  | none => exact distinct
  | some .idle => exact distinct
  | some (.assignment name pieces) => exact Entries.nodup_names_put distinct _ _

theorem nodup_names_foldl_addLine
    {entries : Entries}
    (distinct : entries.names.Nodup)
    (lines : List (Option Line)) :
    (lines.foldl (addLine environment) entries).names.Nodup := by
  induction lines generalizing entries with
  | nil => exact distinct
  | cons line lines inductionHypothesis =>
      exact inductionHypothesis (nodup_names_addLine distinct line)

theorem nodup_names_entriesOf (environment : Environment) (text : String) :
    (entriesOf environment text).names.Nodup := by
  apply nodup_names_foldl_addLine
  exact List.nodup_nil

theorem ofPairs_concat (pairs : List (String × String)) (name value : String) :
    ofPairs (pairs ++ [(name, value)]) = {
      ofPairs pairs with
      entries := (ofPairs pairs).entries.put name value
      appended :=
        if (ofPairs pairs).entries.contains name then (ofPairs pairs).appended
        else (ofPairs pairs).appended ++ [name] } := by
  unfold ofPairs
  rw [List.foldl_append]
  rfl

/-- A file that is made of pairs has no text, and has added all of its names. -/
theorem ofPairs_fields (pairs : List (String × String)) :
    (ofPairs pairs).source = "" ∧ (ofPairs pairs).appended = (ofPairs pairs).entries.names ∧
      (ofPairs pairs).entries.names.Nodup := by
  induction pairs using List.reverseRecOn with
  | nil => exact ⟨rfl, rfl, List.nodup_nil⟩
  | append_singleton pairs pair inductionHypothesis =>
      obtain ⟨source, appended, distinct⟩ := inductionHypothesis
      obtain ⟨name, value⟩ := pair
      rw [ofPairs_concat]
      refine ⟨source, ?_, Entries.nodup_names_put distinct name value⟩
      show (if _ then _ else _) = _
      split
      · next present => rw [appended, Entries.names_put_of_contains present]
      · next absent =>
          rw [appended, Entries.names_put_of_not_contains (by simpa using absent)]

/-- Adding a name that has no value puts its entry behind all others. -/
theorem Holds.add
    {added : List (String × String)}
    (holds : Holds environment file added)
    {name : String}
    (absent : file.contains name = false)
    (value : String) :
    Holds environment (file.add name value) (added ++ [(name, value)]) where
  pairs := by
    show (file.entries.put name value).pairs = _
    rw [Entries.pairs_put_of_not_contains absent, holds.pairs, List.append_assoc]
    rfl
  appended := by
    show file.appended ++ [name] = _
    rw [holds.appended, List.map_append]
    rfl
  distinct := Entries.nodup_names_put holds.distinct name value

/-- A name has a value in a file exactly if it had one or is among the further entries. -/
theorem Holds.contains_iff
    {merged : EnvFile}
    {added : List (String × String)}
    (fresh : Holds environment file [])
    (holds : Holds environment merged added)
    (source : merged.source = file.source)
    (name : String) :
    merged.contains name = (file.contains name || (added.map Prod.fst).contains name) := by
  rw [Bool.eq_iff_iff, EnvFile.contains, EnvFile.contains, Bool.or_eq_true,
    Entries.contains_iff_mem_names, Entries.contains_iff_mem_names, Entries.names, Entries.names,
    holds.pairs, source, fresh.pairs]
  simp

/-- Every file that comes about has its added entries behind those of its text. -/
theorem Built.exists_holds
    (built : Built environment file) :
    ∃ added, Holds environment file added := by
  induction built with
  | empty => exact ⟨[], rfl, rfl, List.nodup_nil⟩
  | parse text => exact ⟨[], by simp [EnvFile.parse], rfl, nodup_names_entriesOf environment text⟩
  | ofPairs pairs =>
      obtain ⟨source, appended, distinct⟩ := ofPairs_fields pairs
      exact ⟨(EnvFile.ofPairs pairs).entries.pairs, by rw [source]; rfl, appended, distinct⟩
  | @insertMissing file built name value inductionHypothesis =>
      obtain ⟨added, holds⟩ := inductionHypothesis
      cases present : file.contains name with
      | true =>
          rw [insertMissing_of_contains present]
          exact ⟨added, holds⟩
      | false =>
          have inserted : (file.insertMissing name value).1 = file.add name value := by
            simp [EnvFile.insertMissing, present]
          rw [inserted]
          exact ⟨_, holds.add present value⟩

/-- The line of an added name is that of its entry. -/
theorem Holds.lineOf_of_mem
    {added : List (String × String)}
    (holds : Holds environment file added)
    {name value : String}
    (present : (name, value) ∈ added) :
    file.lineOf name = Line.write name value := by
  have known : file.get? name = some value := by
    apply Entries.lookup_of_mem holds.distinct
    rw [holds.pairs]
    exact List.mem_append_right _ present
  rw [lineOf, known]

/-- The text of a file is its source, closed by a line feed, and the lines of its added
entries. -/
theorem Holds.render_eq
    {added : List (String × String)}
    (holds : Holds environment file added) :
    file.render = closedText file.source ++ writeAll added := by
  rw [render, writeAll, holds.appended, List.map_map]
  congr 2
  apply List.map_congr_left
  intro pair present
  exact holds.lineOf_of_mem present

/-- The lines of entries end in a line feed. -/
theorem ended_append_writeAll
    {text : String}
    (ended : text = "" ∨ text.toList.getLast? = some '\n')
    (pairs : List (String × String)) :
    text ++ writeAll pairs = "" ∨ (text ++ writeAll pairs).toList.getLast? = some '\n' := by
  induction pairs generalizing text with
  | nil => simpa using ended
  | cons pair pairs inductionHypothesis =>
      rw [writeAll_cons, ← String.append_assoc]
      apply inductionHypothesis
      right
      rw [String.toList_append, List.getLast?_append, getLast?_write]
      rfl

/-- A text of a file ends in a line feed unless it is empty. -/
theorem Holds.ended_render
    {added : List (String × String)}
    (holds : Holds environment file added) :
    file.render = "" ∨ file.render.toList.getLast? = some '\n' := by
  rw [holds.render_eq]
  exact ended_append_writeAll (ended_closedText file.source) added

end EnvFile

/-!
## Writing an env file and reading it again

The text of an env file is read as the entries of the file wherever its source leaves nothing
open and every added name can stand in front of an equals sign.  What stands in the values
makes no difference, and neither does the environment, from which the added lines take
nothing.
-/

namespace EnvFile

variable {environment : Environment} {file : EnvFile}

/-- Reading the lines of new names puts their entries behind all others. -/
theorem foldl_addLine_assignments
    {entries : Entries}
    {added : List (String × String)}
    (distinct : (entries.names ++ added.map Prod.fst).Nodup) :
    ((added.map fun pair => some (Line.assignment pair.1 (pair.2.toList.map Piece.char))).foldl
        (addLine environment) entries).pairs = entries.pairs ++ added := by
  induction added generalizing entries with
  | nil => simp
  | cons pair added inductionHypothesis =>
      obtain ⟨name, value⟩ := pair
      have absent : entries.contains name = false := by
        rw [Bool.eq_false_iff, Ne, Entries.contains_iff_mem_names]
        intro present
        exact (List.nodup_append.1 distinct).2.2 name present name (by simp) rfl
      have assigned : addLine environment entries
          (some (.assignment name (value.toList.map Piece.char))) = entries.put name value := by
        rw [addLine, expandAll_chars]
      rw [List.map_cons, List.foldl_cons, assigned, inductionHypothesis,
        Entries.pairs_put_of_not_contains absent, List.append_assoc]
      · rfl
      · rw [Entries.names_put_of_not_contains absent]
        simpa using distinct

/-- The text of a file gives the entries of its source and then the added ones. -/
theorem Holds.entriesOf_render
    {added : List (String × String)}
    (holds : Holds environment file added)
    (closed : IsClosed file.source)
    (named : ∀ pair ∈ added, isEntryName pair.1 = true) :
    entriesOf environment file.render = file.entries := by
  have ended := ended_closedText file.source
  have lines : readLines file.render = readLines file.source ++
      added.map fun pair => some (.assignment pair.1 (pair.2.toList.map Piece.char)) := by
    rw [holds.render_eq, readLines_append_of_isClosed ended (isClosed_closedText closed),
      readLines_closedText closed, readLines_eq_readAll (writeAll added),
      readAll_start_writeAll named]
  have distinct := holds.distinct
  rw [Entries.names, holds.pairs, List.map_append] at distinct
  have pairs : (entriesOf environment file.render).pairs = file.entries.pairs := by
    rw [entriesOf, lines, List.foldl_append, holds.pairs]
    exact foldl_addLine_assignments distinct
  cases left : entriesOf environment file.render
  cases right : file.entries
  rw [left, right] at pairs
  congr

/-- A file that is written and read again has the same entries in the same order, and is
written in the same way. -/
theorem parse_render
    (built : Built environment file)
    (closed : IsClosed file.source)
    (named : ∀ name ∈ file.appended, isEntryName name = true) :
    (parse environment file.render).entries = file.entries ∧
      (parse environment file.render).render = file.render := by
  obtain ⟨added, holds⟩ := built.exists_holds
  rw [holds.appended] at named
  constructor
  · exact holds.entriesOf_render closed fun pair present =>
      named pair.1 (List.mem_map_of_mem present)
  · rw [render_parse, closedText_of_ended holds.ended_render]

/-- A file with a substitution, quotes and a comment in its source, and an added value that
holds every character with a meaning of its own. -/
theorem parse_render_of_special_characters :
    let environment : Environment := ⟨[("HOME", "/root")]⟩
    let file := ((parse environment "A=$HOME/x # it's\nexport B='x y'").insertMissing "C_1.d"
      "a \"b\" \\ '$HOME' \n\r#").1
    IsClosed file.source ∧ (∀ name ∈ file.appended, isEntryName name = true) ∧
      (parse environment file.render).entries = file.entries ∧
      (parse environment file.render).render = file.render := by
  intro environment file
  have closed : IsClosed file.source := by decide +kernel
  have named : ∀ name ∈ file.appended, isEntryName name = true := by decide +kernel
  exact ⟨closed, named, parse_render (.insertMissing (.parse _) _ _) closed named⟩

end EnvFile
end ConfigWiring
