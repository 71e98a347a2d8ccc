import ConfigWiring.Proofs.EnvFile.Naming

/-!
# What values are made of

The characters of a value come from the text of the file, from variables and from earlier values;
what is escaped never stands for a NUL.  So a text without a NUL gives values without a NUL to
every process whose variables have none, and all of its entries can become variables.
-/

namespace ConfigWiring

open Text

namespace EnvFile

/-! ## Pieces of values -/

namespace ValueState

/-- Only a NUL of the text completes a piece that is a NUL. -/
theorem nul_of_next?
    {state behind : ValueState}
    {char : Char}
    {pieces : List Piece}
    (follows : state.next? char = some (behind, pieces))
    (present : Piece.char '\x00' ∈ pieces) :
    char = '\x00' := by
  cases state with
  | plain | weak | strong | ended =>
      simp only [next?] at follows
      split at follows <;> cases follows <;> grind
  | comment =>
      cases follows
      cases present
  | escape quoted =>
      obtain ⟨meant, escaped, made⟩ := Option.map_eq_some_iff.1 follows
      cases made
      obtain rfl : '\x00' = meant := by simpa using present
      unfold unescape? at escaped
      split at escaped <;> cases escaped
  | name quoted letters =>
      simp only [next?] at follows
      split at follows
      · cases follows
        cases present
      · split at follows
        · cases follows
          cases present
        · split at follows <;> cases follows <;> grind [variableOf]
  | braces quoted letters =>
      simp only [next?] at follows
      split at follows <;> cases follows <;> simp [variableOf] at present

/-- Only a NUL of the text becomes a piece that is a NUL. -/
theorem nul_mem_of_run?
    {state : ValueState}
    {text : List Char}
    {pieces : List Piece}
    (read : state.run? text = some pieces)
    (present : Piece.char '\x00' ∈ pieces) :
    '\x00' ∈ text := by
  induction text generalizing state pieces with
  | nil =>
      simp only [run?] at read
      unfold finish? at read
      split at read <;> cases read <;> simp [variableOf] at present
  | cons char rest inductionHypothesis =>
      rw [run?] at read
      cases follows : state.next? char with
      | none => simp [follows] at read
      | some step =>
          obtain ⟨behind, first⟩ := step
          cases others : behind.run? rest with
          | none => simp [follows, others] at read
          | some further =>
              obtain rfl : first ++ further = pieces := by simpa [follows, others] using read
              rcases List.mem_append.1 present with here | there
              · rw [nul_of_next? follows here]
                exact List.mem_cons_self
              · exact List.mem_cons_of_mem _ (inductionHypothesis others there)

end ValueState

/-! ## Lines -/

/-- What stands behind an equals sign is part of the text. -/
theorem subset_of_readTarget?
    {text name rest : List Char}
    (taken : readTarget? text = some (name, rest)) :
    rest ⊆ text := by
  unfold readTarget? at taken
  cases named : readName? text with
  | none => simp [named] at taken
  | some head =>
      obtain ⟨key, behind⟩ := head
      cases equals : behindEquals? behind with
      | none => simp [named, equals] at taken
      | some value =>
          obtain ⟨_, rfl⟩ : key = name ∧ value = rest := by simpa [named, equals] using taken
          have within : behind ⊆ text := by
            unfold readName? at named
            split at named
            · cases named
              exact (List.dropWhile_sublist isNameChar).subset
            · cases named
          have trimmed := subset_of_trimStart behind
          rw [eq_append_of_behind? equals] at trimmed
          exact fun char present => within (trimmed (List.mem_append_right _ present))

theorem subset_of_readHead?
    {text name rest : List Char}
    (taken : readHead? text = some (name, rest)) :
    rest ⊆ text := by
  unfold readHead? at taken
  split at taken
  · next found =>
      cases taken
      exact subset_of_readTarget? found
  · next key behind _ found =>
      split at taken
      · have within : behind ⊆ text := by
          unfold readName? at found
          split at found
          · cases found
            exact (List.dropWhile_sublist isNameChar).subset
          · cases found
        exact fun char present =>
          within (subset_of_trimStart _ (subset_of_readTarget? taken present))
      · cases taken
  · cases taken

/-- Only a line with a NUL gives a value with a NUL of its own. -/
theorem nul_mem_of_read?
    {text : List Char}
    {name : String}
    {pieces : List Piece}
    (read : Line.read? text = some (.assignment name pieces))
    (present : Piece.char '\x00' ∈ pieces) :
    '\x00' ∈ text := by
  obtain ⟨key, rest, head, _, rfl | value⟩ := Line.exists_readHead?_of_read? read
  · cases present
  · have inValue := ValueState.nul_mem_of_run? value present
    have inHead := subset_of_readHead? head (subset_of_trimStart rest inValue)
    exact subset_of_trimEnd text (subset_of_trimStart _ inHead)

/-- What stands in front of a comment is part of the line. -/
theorem LineState.subset_of_run
    {state : LineState}
    {line text : List Char}
    (reached : state.run line = .beforeComment text) :
    text ⊆ line := by
  induction line generalizing state text with
  | nil => cases reached
  | cons char rest inductionHypothesis =>
      cases follows : state.next? char with
      | none =>
          rw [run_cons_of_comment follows] at reached
          cases reached
          exact List.nil_subset _
      | some next =>
          rw [run_cons_of_next follows] at reached
          cases further : next.run rest with
          | inState last => simp [further, LineEnd.behind] at reached
          | beforeComment front =>
              obtain rfl : char :: front = text := by
                simpa [further, LineEnd.behind] using reached
              exact List.cons_subset_cons char (inductionHypothesis further)

/-- Logical lines are made of the physical ones. -/
theorem subset_of_mem_logicalLinesFrom
    {begun line : List Char}
    {state : LineState}
    {lines : List (List Char)}
    (present : some line ∈ logicalLinesFrom begun state lines) :
    line ⊆ begun ++ lines.flatten := by
  induction lines generalizing begun state with
  | nil => cases state <;> simp [logicalLinesFrom] at present
  | cons first others inductionHypothesis =>
      have later {front : List Char} (within : line ⊆ [] ++ others.flatten) :
          line ⊆ front ++ (first :: others).flatten := by
        intro char inLine
        have inOthers : char ∈ others.flatten := within inLine
        simp [inOthers]
      rw [logicalLinesFrom] at present
      split at present
      · exact later (inductionHypothesis present)
      · split at present
        · next text reached =>
            rcases List.mem_cons.1 present with here | there
            · cases here
              intro char inLine
              rcases List.mem_append.1 inLine with inBegun | inText
              · exact List.mem_append_left _ inBegun
              · have inFirst := LineState.subset_of_run reached inText
                simp [inFirst]
            · exact later (inductionHypothesis there)
        · rcases List.mem_cons.1 present with here | there
          · cases here
            intro char inLine
            rw [List.flatten_cons, ← List.append_assoc]
            exact List.mem_append_left _ inLine
          · exact later (inductionHypothesis there)
        · have within := inductionHypothesis present
          rwa [List.append_assoc, ← List.flatten_cons] at within

/-- Only a text with a NUL has a line that gives a value with a NUL of its own. -/
theorem nul_mem_of_readLines
    {text name : String}
    {pieces : List Piece}
    (given : some (.assignment name pieces) ∈ readLines text)
    (present : Piece.char '\x00' ∈ pieces) :
    '\x00' ∈ text.toList := by
  obtain ⟨line?, isLine, read⟩ := List.mem_map.1 given
  cases line? with
  | none => cases read
  | some line =>
      have within := subset_of_mem_logicalLinesFrom isLine (nul_mem_of_read? read present)
      rwa [List.nil_append, flatten_keptLines] at within

end EnvFile

/-! ## Entries -/

namespace Entries

/-- Whether every value is one that a variable can have. -/
def AreValues (entries : Entries) : Prop :=
  ∀ pair ∈ entries.pairs, Environment.isValue pair.2 = true

instance (entries : Entries) : Decidable entries.AreValues := by
  unfold AreValues
  infer_instance

variable {entries : Entries} {name value : String}

theorem AreValues.get?
    (values : entries.AreValues)
    (found : entries.get? name = some value) :
    Environment.isValue value = true := by
  obtain ⟨before, behind, split, _⟩ := List.lookup_eq_some_iff.1 found
  exact values (name, value) (by simp [split])

theorem AreValues.put
    (values : entries.AreValues)
    (isValue : Environment.isValue value = true) :
    (entries.put name value).AreValues := by
  obtain ⟨pairs⟩ := entries
  unfold AreValues Entries.put at *
  induction pairs with
  | nil => simpa [putIn] using isValue
  | cons pair pairs inductionHypothesis =>
      obtain ⟨here, there⟩ := List.forall_mem_cons.1 values
      rw [putIn]
      split
      · exact List.forall_mem_cons.2 ⟨isValue, there⟩
      · exact List.forall_mem_cons.2 ⟨here, inductionHypothesis there⟩

end Entries

namespace EnvFile

variable {environment : Environment} {entries : Entries} {text name : String}

/-- A name that can stand in an env file is fit for a variable. -/
theorem isName_of_isEntryName
    (named : isEntryName name = true) :
    Environment.isName name = true := by
  obtain ⟨first, rest, letters, _⟩ := exists_cons_of_isEntryName named
  have nonempty : name.isEmpty = false := by
    rw [Bool.eq_false_iff]
    intro empty
    rw [String.isEmpty_iff.1 empty] at letters
    cases letters
  simp only [isEntryName, Bool.and_eq_true, List.all_eq_true] at named
  have ordinary (char : Char) (present : char ∈ name.toList) :=
    isOrdinary_of_isNameChar (named.2 char present)
  have unequal : '=' ∉ name.toList := fun present => (ordinary _ present).2 rfl
  have unended : '\x00' ∉ name.toList := fun present =>
    absurd (named.2 _ present) (by decide)
  have unblank : name.toList.any isBlank = false := by
    rw [List.any_eq_false]
    intro char present
    rw [(ordinary char present).1.1]
    simp
  simp [Environment.isName, nonempty, unequal, unended, unblank]

/-- Names stand for values that variables can have. -/
theorem isValue_valueOf
    (process : environment.AreValues)
    (values : entries.AreValues)
    (name : String) :
    Environment.isValue (valueOf environment entries name) = true := by
  unfold valueOf
  cases live : environment.get? name with
  | some value => exact process.get? live
  | none =>
      cases stored : entries.get? name with
      | some value => exact values.get? stored
      | none => rfl

/-- Pieces without a NUL stand for a value that a variable can have. -/
theorem isValue_expandAll
    {valueOf : String -> String}
    {pieces : List Piece}
    (values : ∀ name, Environment.isValue (valueOf name) = true)
    (plain : Piece.char '\x00' ∉ pieces) :
    Environment.isValue (expandAll valueOf pieces) = true := by
  have unended : '\x00' ∉ pieces.flatMap (Piece.expand valueOf) := by
    intro present
    obtain ⟨piece, among, inPiece⟩ := List.mem_flatMap.1 present
    match piece with
    | .char char =>
        obtain rfl : '\x00' = char := by simpa [Piece.expand] using inPiece
        exact plain among
    | .variable name =>
        have isValue := values name
        simp only [Environment.isValue, Bool.not_eq_true', List.contains_eq_mem,
          decide_eq_false_iff_not] at isValue
        exact isValue inPiece
  simp [Environment.isValue, expandAll, unended]

/-- A text without a NUL gives values that variables can have. -/
theorem areValues_entriesOf
    (process : environment.AreValues)
    (unended : '\x00' ∉ text.toList) :
    (entriesOf environment text).AreValues := by
  have plain : ∀ line ∈ readLines text, ∀ name pieces,
      line = some (.assignment name pieces) -> Piece.char '\x00' ∉ pieces := by
    rintro line given name pieces rfl present
    exact unended (nul_mem_of_readLines given present)
  have values : Entries.AreValues .empty := by simp [Entries.AreValues, Entries.empty]
  unfold entriesOf
  generalize Entries.empty = entries at values
  generalize readLines text = lines at plain
  induction lines generalizing entries with
  | nil => exact values
  | cons line lines inductionHypothesis =>
      obtain ⟨here, there⟩ := List.forall_mem_cons.1 plain
      rw [List.foldl_cons]
      refine inductionHypothesis _ ?_ there
      match line with
      | none => exact values
      | some .idle => exact values
      | some (.assignment name pieces) =>
          exact values.put (isValue_expandAll (isValue_valueOf process values)
            (here name pieces rfl))

end EnvFile
end ConfigWiring
