import ConfigWiring.Tag.Params

/-!
# Printing tag parameters

A list of pairs is printed with blanks between its pairs.  Whatever the values hold, reading
what was printed gives the same pairs back, and every list that was read can be printed: its
keys are not empty, and nothing in them ends a key.
-/

namespace ConfigWiring
namespace Tag
namespace Params

open Text

/-- A key that reads as itself: it is not empty, and none of its characters ends a key. -/
def IsKey (key : String) : Prop :=
  key ≠ "" ∧ ∀ char ∈ key.toList, isKeyChar char = true

instance (key : String) : Decidable (IsKey key) :=
  decidable_of_iff (key ≠ "" ∧ key.toList.all isKeyChar = true) (by rw [IsKey, List.all_eq_true])

/-- The texts that a list of pairs is printed as: the pairs in order, with blanks between them. -/
inductive Printed : List (String × String) -> List Char -> Prop
  /-- Nothing, for no pairs. -/
  | none : Printed [] []
  /-- The last pair. -/
  | last (pair : String × String) : Printed [pair] (writePair pair)
  /-- A pair, blanks, and what the further pairs are printed as. -/
  | more (pair next : String × String) {blanks text : List Char} {pairs : List (String × String)}
      (nonempty : blanks ≠ []) (blank : ∀ char ∈ blanks, isBlank char = true)
      (others : Printed (next :: pairs) text) :
      Printed (pair :: next :: pairs) (writePair pair ++ (blanks ++ text))

theorem writePairs_singleton (pair : String × String) : writePairs [pair] = writePair pair := by
  simp [writePairs, List.intercalate]

/-- One space stands between two pairs. -/
theorem writePairs_cons_cons (pair next : String × String) (pairs : List (String × String)) :
    writePairs (pair :: next :: pairs) =
      writePair pair ++ ([' '] ++ writePairs (next :: pairs)) := by
  simp [writePairs, List.intercalate]

/-- Printing puts one space between two pairs. -/
theorem printed_writePairs (pairs : List (String × String)) :
    Printed pairs (writePairs pairs) := by
  induction pairs with
  | nil => exact .none
  | cons pair pairs inductionHypothesis =>
      cases pairs with
      | nil =>
          rw [writePairs_singleton]
          exact .last pair
      | cons next pairs =>
          rw [writePairs_cons_cons]
          exact .more pair next (by simp) (List.all_eq_true.1 (by decide)) inductionHypothesis

/-! ## One pair -/

theorem isBlank_eq_false_of_isKeyChar
    {char : Char}
    (fits : isKeyChar char = true) :
    isBlank char = false := by
  simp only [isKeyChar, Bool.and_eq_true, Bool.not_eq_true'] at fits
  exact fits.2

/-- The key of a printed pair begins it. -/
theorem exists_cons_of_isKey
    {pair : String × String}
    (key : IsKey pair.1) :
    ∃ first rest, writePair pair = first :: rest ∧ isBlank first = false := by
  obtain ⟨nonempty, fits⟩ := key
  cases letters : pair.1.toList with
  | nil => exact absurd (String.toList_eq_nil_iff.1 letters) nonempty
  | cons first rest =>
      rw [letters] at fits
      exact ⟨first, _, by rw [writePair, letters]; rfl,
        isBlank_eq_false_of_isKeyChar (fits first List.mem_cons_self)⟩

/-- Reading a printed pair gives it back, with the text behind it. -/
theorem readPair_writePair
    {pair : String × String}
    (key : IsKey pair.1)
    (after : List Char) :
    readPair (writePair pair ++ after) = .ok (pair, after) := by
  obtain ⟨nonempty, fits⟩ := key
  have text : writePair pair ++ after =
      pair.1.toList ++ ':' :: '"' :: (escapeValue pair.2.toList ++ '"' :: after) := by
    simp [writePair]
  have taken : (writePair pair ++ after).takeWhile isKeyChar = pair.1.toList := by
    rw [text, List.takeWhile_append_of_pos fits]
    simp [show isKeyChar ':' = false from rfl]
  have dropped : (writePair pair ++ after).dropWhile isKeyChar =
      ':' :: '"' :: (escapeValue pair.2.toList ++ '"' :: after) := by
    rw [text, List.dropWhile_append_of_pos fits]
    rfl
  have quoted : readQuoted (String.ofList pair.1.toList)
      ('"' :: (escapeValue pair.2.toList ++ '"' :: after)) = .ok (pair.2.toList, after) := by
    unfold readQuoted
    simp only [trimStart, List.dropWhile_cons_of_neg (show ¬isBlank '"' = true by decide),
      readValue_escapeValue]
  unfold readPair
  rw [taken, dropped]
  simp only [trimStart, List.dropWhile_cons_of_neg (show ¬isBlank ':' = true by decide)]
  cases letters : pair.1.toList with
  | nil => exact absurd (String.toList_eq_nil_iff.1 letters) nonempty
  | cons first rest =>
      have spelt : String.ofList (first :: rest) = pair.1 := by
        rw [← letters, String.ofList_toList]
      rw [letters, spelt] at quoted
      simp only [spelt, quoted, String.ofList_toList]

/-- A pair that was read has a key that reads as itself. -/
theorem isKey_of_readPair
    {text after : List Char}
    {pair : String × String}
    (read : readPair text = .ok (pair, after)) :
    IsKey pair.1 := by
  unfold readPair at read
  split at read
  · cases read
  · next behindColon _ nonempty =>
      split at read
      · cases read
        refine ⟨fun empty => nonempty (String.ofList_eq_empty_iff.1 empty), ?_⟩
        rw [String.toList_ofList]
        exact List.all_eq_true.1 List.all_takeWhile
      · cases read
  · cases read

/-! ## All pairs -/

/-- What is read of a text depends on what follows its leading blanks. -/
theorem readPairs_eq (text : List Char) :
    readPairs text =
      match trimStart text with
      | [] => .ok []
      | char :: rest =>
          match readPair (char :: rest) with
          | .error error => .error error
          | .ok (pair, after) => (readPairs after).map (pair :: ·) := by
  rw [readPairs]
  split
  · next empty => rw [empty]
  · next char rest begins =>
      rw [begins]
      split
      · next failed => simp only [failed]
      · next read => simp only [read]

theorem readPairs_nil : readPairs [] = .ok [] := by
  rw [readPairs_eq]
  rfl

/-- A printed pair is read first, and then what stands behind it. -/
theorem readPairs_writePair_append
    {pair : String × String}
    (key : IsKey pair.1)
    {blanks : List Char}
    (blank : ∀ char ∈ blanks, isBlank char = true)
    (after : List Char) :
    readPairs (blanks ++ (writePair pair ++ after)) = (readPairs after).map (pair :: ·) := by
  obtain ⟨first, rest, begins, visible⟩ := exists_cons_of_isKey key
  have trimmed : trimStart (blanks ++ (writePair pair ++ after)) = first :: (rest ++ after) := by
    rw [trimStart, List.dropWhile_append_of_pos blank, begins, List.cons_append,
      List.dropWhile_cons_of_neg (by simp [visible])]
  have read := readPair_writePair key after
  rw [begins, List.cons_append] at read
  rw [readPairs_eq, trimmed]
  simp only [read]

/-- Reading what a list of pairs was printed as gives the list. -/
theorem Printed.readPairs_eq
    {pairs : List (String × String)}
    {text : List Char}
    (printed : Printed pairs text)
    (keys : ∀ pair ∈ pairs, IsKey pair.1)
    {blanks : List Char}
    (blank : ∀ char ∈ blanks, isBlank char = true) :
    readPairs (blanks ++ text) = .ok pairs := by
  induction printed generalizing blanks with
  | none =>
      have trimmed : trimStart (blanks ++ []) = [] := by
        rw [trimStart, List.dropWhile_append_of_pos blank]
        rfl
      rw [Params.readPairs_eq, trimmed]
  | last pair =>
      have read := readPairs_writePair_append (keys pair List.mem_cons_self) blank []
      rw [List.append_nil, readPairs_nil] at read
      exact read
  | more pair next _ between others inductionHypothesis =>
      rw [readPairs_writePair_append (keys pair List.mem_cons_self) blank,
        inductionHypothesis (fun other present => keys other (List.mem_cons_of_mem _ present))
          between]
      rfl

/-- The parameters that a text was printed from are read from it. -/
theorem parse_of_printed
    {params : Params}
    {text : String}
    (printed : Printed params.entries text.toList)
    (keys : ∀ pair ∈ params.entries, IsKey pair.1) :
    parse text = .ok params := by
  have read : readPairs ([] ++ text.toList) = .ok params.entries :=
    printed.readPairs_eq keys (by simp)
  rw [List.nil_append] at read
  rw [parse, read]
  rfl

/-- The keys that are read from a text read as themselves. -/
theorem isKey_of_readPairs
    {text : List Char}
    {pairs : List (String × String)}
    (read : readPairs text = .ok pairs) :
    ∀ pair ∈ pairs, IsKey pair.1 := by
  induction pairs generalizing text with
  | nil => simp
  | cons pair pairs inductionHypothesis =>
      rw [readPairs_eq] at read
      split at read
      · cases read
      · split at read
        · cases read
        · next first after found =>
            cases rest : readPairs after with
            | error fault =>
                rw [rest] at read
                cases read
            | ok others =>
                rw [rest] at read
                cases read
                exact List.forall_mem_cons.2 ⟨isKey_of_readPair found, inductionHypothesis rest⟩

theorem isKey_of_parse
    {params : Params}
    {text : String}
    (read : parse text = .ok params) :
    ∀ pair ∈ params.entries, IsKey pair.1 := by
  unfold parse at read
  cases found : readPairs text.toList with
  | error fault =>
      rw [found] at read
      cases read
  | ok pairs =>
      rw [found] at read
      cases read
      exact isKey_of_readPairs found

end Params
end Tag
end ConfigWiring
