import ConfigWiring.Proofs.EnvFile.Built

/-!
# The names that a text gives a value

Which names a text gives a value does not depend on the environment, and only names of a
certain form can be given one.  Lines that are appended to a text that leaves a quote open are
taken into its last logical line, and come back only if the first of them ends that line and
gives its own name a value.
-/

namespace ConfigWiring
namespace EnvFile

open Text

/-- Whether a text gives a name a value. -/
def Gives (text name : String) : Prop :=
  ∃ pieces, some (.assignment name pieces) ∈ readLines text

/-- A name has a value behind a line exactly if it had one or the line gives it one. -/
theorem contains_addLine
    (environment : Environment)
    (entries : Entries)
    (line : Option Line)
    (name : String) :
    (addLine environment entries line).contains name = true ↔
      entries.contains name = true ∨ ∃ pieces, line = some (.assignment name pieces) := by
  match line with
  | none => simp [addLine]
  | some .idle => simp [addLine]
  | some (.assignment other pieces) =>
      rw [addLine, Entries.contains, Entries.get?_put]
      by_cases same : name = other
      · simp [same]
      · simp [same, Ne.symm same, Entries.contains]

theorem contains_foldl_addLine
    (environment : Environment)
    (entries : Entries)
    (lines : List (Option Line))
    (name : String) :
    (lines.foldl (addLine environment) entries).contains name = true ↔
      entries.contains name = true ∨ ∃ pieces, some (.assignment name pieces) ∈ lines := by
  induction lines generalizing entries with
  | nil => simp
  | cons line lines inductionHypothesis =>
      rw [List.foldl_cons, inductionHypothesis, contains_addLine, or_assoc]
      apply or_congr_right
      simp only [List.mem_cons, exists_or, eq_comm]

/-- The names with values are those that the text gives one, in every environment. -/
theorem contains_parse
    (environment : Environment)
    (text name : String) :
    (parse environment text).contains name = true ↔ Gives text name := by
  have lines := contains_foldl_addLine environment .empty (readLines text) name
  rw [EnvFile.contains, parse, entriesOf, lines, Gives]
  simp [Entries.contains]

/-! ## The form of a name -/

/-- What is taken for a name begins with what may begin a name and goes on with what may stand
in one. -/
theorem readName?_eq_some
    {text name rest : List Char}
    (taken : readName? text = some (name, rest)) :
    isEntryName (String.ofList name) = true := by
  unfold readName? at taken
  split at taken
  · next starts =>
      cases taken
      cases text with
      | nil => simp at starts
      | cons first others =>
          have begins : isNameStart first = true := by simpa using starts
          have named := isNameChar_of_isNameStart begins
          have letters : (others.takeWhile isNameChar).all isNameChar = true := List.all_takeWhile
          simp [isEntryName, named, begins]
  · cases taken

theorem readTarget?_eq_some
    {text name rest : List Char}
    (taken : readTarget? text = some (name, rest)) :
    isEntryName (String.ofList name) = true := by
  unfold readTarget? at taken
  cases named : readName? text with
  | none => simp [named] at taken
  | some head =>
      obtain ⟨key, behind⟩ := head
      have form := readName?_eq_some named
      cases equals : behindEquals? behind with
      | none => simp [named, equals] at taken
      | some value =>
          obtain ⟨rfl, _⟩ : key = name ∧ value = rest := by simpa [named, equals] using taken
          exact form

theorem readHead?_eq_some
    {text name rest : List Char}
    (taken : readHead? text = some (name, rest)) :
    isEntryName (String.ofList name) = true := by
  unfold readHead? at taken
  split at taken
  · next found =>
      cases taken
      exact readTarget?_eq_some found
  · split at taken
    · exact readTarget?_eq_some taken
    · cases taken
  · cases taken

/-- A line that gives a name a value has the name in its head; the value is empty or stands behind
the head. -/
theorem Line.exists_readHead?_of_read?
    {text : List Char}
    {name : String}
    {pieces : List Piece}
    (read : Line.read? text = some (.assignment name pieces)) :
    ∃ key rest, readHead? (trimStart (trimEnd text)) = some (key, rest) ∧
      name = String.ofList key ∧ (pieces = [] ∨ readValue? (trimStart rest) = some pieces) := by
  unfold Line.read? at read
  dsimp only at read
  split at read
  · cases read
  · cases head : readHead? (trimStart (trimEnd text)) with
    | none => simp [head] at read
    | some target =>
        obtain ⟨key, rest⟩ := target
        rw [head] at read
        simp only [Option.bind_eq_bind, Option.bind_some] at read
        split at read
        · cases read
          exact ⟨key, rest, rfl, rfl, .inl rfl⟩
        · cases value : readValue? (trimStart rest) with
          | none => simp [value] at read
          | some found =>
              simp only [value] at read
              cases read
              exact ⟨key, rest, rfl, rfl, .inr value⟩

/-- Only a name of an entry is ever given a value. -/
theorem isEntryName_of_read?
    {text : List Char}
    {name : String}
    {pieces : List Piece}
    (read : Line.read? text = some (.assignment name pieces)) :
    isEntryName name = true := by
  obtain ⟨key, rest, head, rfl, _⟩ := Line.exists_readHead?_of_read? read
  exact readHead?_eq_some head

theorem isEntryName_of_gives
    {text name : String}
    (gives : Gives text name) :
    isEntryName name = true := by
  obtain ⟨pieces, present⟩ := gives
  obtain ⟨line, _, read⟩ := List.mem_map.1 present
  cases line with
  | none => cases read
  | some line => exact isEntryName_of_read? read

/-! ## Appended lines -/

/-- The names that lines give a value, in order. -/
def namesOf (lines : List (Option Line)) : List String :=
  lines.filterMap fun
    | some (.assignment name _) => some name
    | _ => none

theorem mem_namesOf
    {lines : List (Option Line)}
    {name : String} :
    name ∈ namesOf lines ↔ ∃ pieces, some (.assignment name pieces) ∈ lines := by
  unfold namesOf
  rw [List.mem_filterMap]
  constructor
  · rintro ⟨line, present, named⟩
    match line with
    | none => cases named
    | some .idle => cases named
    | some (.assignment key pieces) =>
        cases named
        exact ⟨pieces, present⟩
  · rintro ⟨pieces, present⟩
    exact ⟨_, present, rfl⟩

theorem gives_iff_mem_namesOf
    {text name : String} :
    Gives text name ↔ name ∈ namesOf (readLines text) :=
  mem_namesOf.symm

theorem namesOf_append (left right : List (Option Line)) :
    namesOf (left ++ right) = namesOf left ++ namesOf right :=
  List.filterMap_append

namespace Pending

/-- The lines of a text end with nothing said, whatever is open. -/
theorem namesOf_readAll_nil (pending : Pending) : namesOf (pending.readAll []) = [] := by
  rw [readAll_nil]
  split <;> rfl

/-- Physical lines give the names of the logical lines that they complete. -/
theorem namesOf_readAll
    (pending : Pending)
    (lines : List (List Char)) :
    namesOf (pending.readAll lines) =
      namesOf ((pending.completedAll lines).map Line.read?) := by
  have split := readAll_append pending lines []
  rw [List.append_nil] at split
  rw [split, namesOf_append, namesOf_readAll_nil, List.append_nil]

theorem length_completed_le (pending : Pending) (line : List Char) :
    (pending.completed line).length ≤ 1 := by
  unfold completed
  split
  · exact Nat.zero_le 1
  · split <;> simp

theorem length_completedAll_le (pending : Pending) (lines : List (List Char)) :
    (pending.completedAll lines).length ≤ lines.length := by
  induction lines generalizing pending with
  | nil => exact Nat.le_refl 0
  | cons line lines inductionHypothesis =>
      rw [completedAll, List.length_append, List.length_cons, Nat.add_comm]
      exact Nat.add_le_add (inductionHypothesis (pending.step line)) (pending.length_completed_le line)

/-- A physical line that completes something leaves nothing open. -/
theorem step_of_completed_ne_nil
    {pending : Pending}
    {line : List Char}
    (complete : pending.completed line ≠ []) :
    pending.step line = start := by
  by_cases closed : (pending.step line).state = .plain
  · exact step_eq_start closed
  · exact absurd (completed_eq_nil closed) complete

/-- Lines cannot give more names than there are lines. -/
theorem length_le_of_subset_namesOf
    {pending : Pending}
    {lines : List (List Char)}
    {names : List String}
    (distinct : names.Nodup)
    (included : names ⊆ namesOf (pending.readAll lines)) :
    names.length ≤ lines.length := by
  rw [namesOf_readAll] at included
  calc names.length
      ≤ (namesOf ((pending.completedAll lines).map Line.read?)).length :=
        distinct.length_le_of_subset included
    _ ≤ ((pending.completedAll lines).map Line.read?).length := List.length_filterMap_le _ _
    _ = (pending.completedAll lines).length := List.length_map _
    _ ≤ lines.length := length_completedAll_le pending lines

/-- A line that completes something is followed by lines that are read on their own. -/
theorem namesOf_readAll_cons
    {pending : Pending}
    {line : List Char}
    (complete : pending.completed line ≠ [])
    (lines : List (List Char)) :
    namesOf (pending.readAll (line :: lines)) =
      namesOf (pending.readAll [line]) ++ namesOf (start.readAll lines) := by
  rw [← List.singleton_append, readAll_append, namesOf_append, List.foldl_cons, List.foldl_nil,
    step_of_completed_ne_nil complete, namesOf_readAll pending [line]]

/-- The lines of names with values give all of these names, whatever is open in front of them,
exactly if the first line gives its own. -/
theorem subset_namesOf_readAll_iff
    (pending : Pending)
    {first : String × String}
    {others : List (String × String)}
    (named : ∀ pair ∈ first :: others, isEntryName pair.1 = true)
    (distinct : ((first :: others).map Prod.fst).Nodup) :
    (∀ pair ∈ first :: others,
        pair.1 ∈ namesOf (pending.readAll (keptLines (writeAll (first :: others)).toList))) ↔
      first.1 ∈ namesOf (pending.readAll (keptLines (Line.write first.1 first.2).toList)) := by
  obtain ⟨firstNamed, othersNamed⟩ := List.forall_mem_cons.1 named
  have lines : keptLines (writeAll (first :: others)).toList =
      (writtenLine first.1 first.2 ++ ['\n']) :: keptLines (writeAll others).toList := by
    rw [writeAll_cons, String.toList_append, keptLines_append (getLast?_write _ _),
      keptLines_write firstNamed]
    rfl
  rw [lines, keptLines_write firstNamed]
  by_cases complete : pending.completed (writtenLine first.1 first.2 ++ ['\n']) = []
  · -- Too few logical lines are completed to give every name.
    have nothing : first.1 ∉
        namesOf (pending.readAll [writtenLine first.1 first.2 ++ ['\n']]) := by
      rw [namesOf_readAll, completedAll, complete]
      simp [completedAll, namesOf]
    refine iff_of_false ?_ nothing
    intro all
    rw [namesOf_readAll, completedAll, complete, List.nil_append, ← namesOf_readAll] at all
    have least := length_le_of_subset_namesOf distinct fun name present => by
      obtain ⟨pair, member, rfl⟩ := List.mem_map.1 present
      exact all pair member
    rw [keptLines_writeAll othersNamed, List.length_map, List.length_map] at least
    exact absurd least (Nat.not_succ_le_self _)
  · have othersRead : namesOf (start.readAll (keptLines (writeAll others).toList)) =
        others.map Prod.fst := by
      rw [readAll_start_writeAll othersNamed, namesOf, List.filterMap_map]
      exact congrFun List.filterMap_eq_map others
    rw [namesOf_readAll_cons complete, othersRead]
    constructor
    · intro all
      rcases List.mem_append.1 (all first List.mem_cons_self) with own | behind
      · exact own
      · exact absurd behind (List.nodup_cons.1 distinct).1
    · intro own pair present
      rcases List.mem_cons.1 present with rfl | further
      · exact List.mem_append_left _ own
      · exact List.mem_append_right _ (List.mem_map_of_mem further)

end Pending

/-- A text that is followed by further text gives what its completed lines give, and what the
further lines give behind what it leaves open. -/
theorem gives_append_iff
    {text name : String}
    (ended : text = "" ∨ text.toList.getLast? = some '\n')
    (more : String) :
    Gives (text ++ more) name ↔
      Gives text name ∨ name ∈ namesOf ((pendingOf text).readAll (keptLines more.toList)) := by
  have alone := readLines_append ended ""
  rw [String.append_empty] at alone
  rw [gives_iff_mem_namesOf, gives_iff_mem_namesOf, readLines_append ended, alone, namesOf_append,
    namesOf_append, List.mem_append, List.mem_append]
  have nothing : namesOf ((pendingOf text).readAll (keptLines "".toList)) = [] :=
    Pending.namesOf_readAll_nil _
  rw [nothing]
  simp

/-- A name that a text gives is still given behind whatever is appended to the text. -/
theorem Gives.append
    {text name : String}
    (gives : Gives text name)
    (more : String) :
    Gives (closedText text ++ more) name := by
  obtain ⟨pieces, present⟩ := gives
  exact (gives_append_iff (ended_closedText text) more).2
    (.inl ⟨pieces, mem_readLines_closedText present⟩)

/-- Lines that are appended to a text give all their names exactly if each of these can be given
a value, and the text leaves no quote open or the first line gives its own name all the same. -/
theorem gives_append_writeAll_iff
    {text : String}
    {first : String × String}
    {others : List (String × String)}
    (distinct : ((first :: others).map Prod.fst).Nodup)
    (fresh : ∀ pair ∈ first :: others, ¬Gives text pair.1) :
    (∀ pair ∈ first :: others, Gives (closedText text ++ writeAll (first :: others)) pair.1) ↔
      (∀ pair ∈ first :: others, isEntryName pair.1 = true) ∧
        (IsClosed (closedText text) ∨
          Gives (closedText text ++ Line.write first.1 first.2) first.1) := by
  have ended := ended_closedText text
  by_cases named : ∀ pair ∈ first :: others, isEntryName pair.1 = true
  · by_cases closed : IsClosed (closedText text)
    · refine iff_of_true ?_ ⟨named, .inl closed⟩
      intro pair present
      rw [gives_append_iff ended, pendingOf_eq_start closed, readAll_start_writeAll named,
        mem_namesOf]
      exact .inr ⟨_, List.mem_map.2 ⟨pair, present, rfl⟩⟩
    · -- The text gives no more names for being closed, so each name comes from the new lines.
      have given (more : String) : ∀ pair ∈ first :: others,
          Gives (closedText text ++ more) pair.1 ↔
            pair.1 ∈ namesOf ((pendingOf (closedText text)).readAll (keptLines more.toList)) := by
        intro pair present
        have unheld : ¬Gives (closedText text) pair.1 := by
          rw [Gives, readLines_closedText_of_not_isClosed closed]
          exact fresh pair present
        rw [gives_append_iff ended, or_iff_right unheld]
      rw [or_iff_right closed, and_iff_right named, given _ first List.mem_cons_self,
        ← Pending.subset_namesOf_readAll_iff (pendingOf (closedText text)) named distinct]
      exact forall₂_congr (given _)
  · refine iff_of_false ?_ fun right => named right.1
    intro all
    exact named fun pair present => isEntryName_of_gives (all pair present)

end EnvFile
end ConfigWiring
