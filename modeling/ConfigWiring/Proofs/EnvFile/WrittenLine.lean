import ConfigWiring.Proofs.EnvFile.Pending

/-!
# Lines as they are written

The line that is written for a name and a value is one logical line, leaves nothing open,
and is read as an assignment of that value to that name.  Quotes, backslashes, dollar signs
and line feeds of the value come back because the two readers agree on them: the one that
looks for the end of the line, and the one that reads the value.
-/

namespace ConfigWiring
namespace EnvFile

open Text

/-- Whether a name can be given a value by a line of an env file. -/
def isEntryName (name : String) : Bool :=
  name.toList.head?.any isNameStart && name.toList.all isNameChar

/-- A character that is no blank and has no meaning of its own in a line. -/
def IsOrdinary (char : Char) : Prop :=
  isBlank char = false ∧ char ∉ ['#', '"', '\'', '\\', '$']

theorem toNat_lt_of_isNameChar
    {char : Char}
    (named : isNameChar char = true) :
    char.toNat < 128 := by
  unfold isNameChar Char.isAlphanum Char.isAlpha Char.isUpper Char.isLower Char.isDigit at named
  simp only [Bool.or_eq_true, Bool.and_eq_true, decide_eq_true_eq, beq_iff_eq,
    UInt32.le_iff_toNat_le] at named
  rcases named with (((⟨_, upper⟩ | ⟨_, lower⟩) | ⟨_, digit⟩) | rfl) | rfl
  · exact Nat.lt_of_le_of_lt upper (by decide)
  · exact Nat.lt_of_le_of_lt lower (by decide)
  · exact Nat.lt_of_le_of_lt digit (by decide)
  · decide
  · decide

private theorem nameCodes_ordinary :
    ∀ code : Fin 128, isNameChar (Char.ofNat code) = true ->
      isBlank (Char.ofNat code) = false ∧
        Char.ofNat code ∉ ['#', '"', '\'', '\\', '$', '='] := by
  decide

theorem isOrdinary_of_isNameChar
    {char : Char}
    (named : isNameChar char = true) :
    IsOrdinary char ∧ char ≠ '=' := by
  have low := toNat_lt_of_isNameChar named
  have code : Char.ofNat char.toNat = char := Char.ofNat_toNat char
  have facts := nameCodes_ordinary ⟨char.toNat, low⟩
  simp only [code] at facts
  obtain ⟨unblank, plain⟩ := facts named
  simp only [List.mem_cons, List.not_mem_nil, or_false, not_or] at plain
  refine ⟨⟨unblank, ?_⟩, plain.2.2.2.2.2⟩
  simp only [List.mem_cons, List.not_mem_nil, or_false, not_or]
  exact ⟨plain.1, plain.2.1, plain.2.2.1, plain.2.2.2.1, plain.2.2.2.2.1⟩

theorem isNameChar_of_isNameStart
    {char : Char}
    (start : isNameStart char = true) :
    isNameChar char = true := by
  simp only [isNameStart, isNameChar, Char.isAlphanum, Bool.or_eq_true] at start ⊢
  rcases start with alpha | underscore
  · exact .inl (.inl (.inl alpha))
  · exact .inl (.inr underscore)

/-- A value that is written without quotes holds ordinary characters only. -/
theorem isOrdinary_of_not_needsQuotes
    {value : List Char}
    (bare : needsQuotes value = false) :
    ∀ char ∈ value, IsOrdinary char := by
  intro char present
  simp only [needsQuotes, Bool.or_eq_false_iff, List.any_eq_false] at bare
  refine ⟨by simpa using bare.1 char present, ?_⟩
  have plain := bare.2 char present
  rwa [List.contains_iff_mem] at plain

theorem feed_not_mem_of_isOrdinary
    {text : List Char}
    (ordinary : ∀ char ∈ text, IsOrdinary char) :
    '\n' ∉ text := by
  intro present
  have unblank := (ordinary _ present).1
  exact absurd unblank (by decide)

/-! ## Reading a written value -/

namespace ValueState

theorem run?_cons
    {state next : ValueState}
    {char : Char}
    {pieces : List Piece}
    (follows : state.next? char = some (next, pieces))
    (rest : List Char) :
    state.run? (char :: rest) = (next.run? rest).map (pieces ++ ·) := by
  rw [run?, follows]
  cases reached : next.run? rest <;> simp [reached]

/-- Ordinary characters stand for themselves. -/
theorem run?_plain
    {value : List Char}
    (ordinary : ∀ char ∈ value, IsOrdinary char) :
    plain.run? value = some (value.map Piece.char) := by
  induction value with
  | nil => rfl
  | cons char rest inductionHypothesis =>
      obtain ⟨unblank, special⟩ := ordinary char List.mem_cons_self
      have follows : plain.next? char = some (plain, [Piece.char char]) := by
        have noSpace : char ≠ ' ' := by rintro rfl; exact absurd unblank (by decide)
        have noTab : char ≠ '\t' := by rintro rfl; exact absurd unblank (by decide)
        simp only [List.mem_cons, List.not_mem_nil, or_false, not_or] at special
        simp [next?, special]
      rw [run?_cons follows,
        inductionHypothesis fun other member => ordinary other (List.mem_cons_of_mem _ member)]
      rfl

/-- What is escaped between double quotes stands for itself. -/
theorem run?_weak (value : List Char) :
    weak.run? (value.flatMap escapeChar ++ ['"']) = some (value.map Piece.char) := by
  induction value with
  | nil => rfl
  | cons char rest inductionHypothesis =>
      rw [List.flatMap_cons, List.append_assoc]
      by_cases quote : char = '"'
      · subst quote
        simp [escapeChar, run?, next?, unescape?, base, inductionHypothesis]
      by_cases backslash : char = '\\'
      · subst backslash
        simp [escapeChar, run?, next?, unescape?, base, inductionHypothesis]
      by_cases feed : char = '\n'
      · subst feed
        simp [escapeChar, run?, next?, unescape?, base, inductionHypothesis]
      by_cases dollar : char = '$'
      · subst dollar
        simp [escapeChar, run?, next?, unescape?, base, inductionHypothesis]
      have escaped : escapeChar char = [char] := by
        simp [escapeChar]
      have follows : weak.next? char = some (weak, [Piece.char char]) := by
        simp [next?]
      rw [escaped, List.singleton_append, run?_cons follows, inductionHypothesis]
      rfl

end ValueState

/-- A written value is read as the characters that it was written for. -/
theorem readValue?_writeValue (value : List Char) :
    readValue? (writeValue value) = some (value.map Piece.char) := by
  unfold writeValue readValue?
  split
  · rw [List.cons_append, ValueState.run?_cons (show ValueState.plain.next? '"' = _ from rfl),
      ValueState.run?_weak]
    rfl
  · next bare => exact ValueState.run?_plain (isOrdinary_of_not_needsQuotes (by simpa using bare))

/-- Characters that stand for themselves expand to their text in every environment. -/
theorem expandAll_chars
    (valueOf : String -> String)
    (value : String) :
    expandAll valueOf (value.toList.map Piece.char) = value := by
  have chars : (value.toList.map Piece.char).flatMap (Piece.expand valueOf) = value.toList := by
    rw [List.flatMap_map]
    exact List.flatMap_singleton' value.toList
  rw [expandAll, chars, String.ofList_toList]

/-! ## Following a written line -/

namespace LineState

theorem run_plain
    {text : List Char}
    (ordinary : ∀ char ∈ text, IsOrdinary char) :
    plain.run text = .inState plain := by
  induction text with
  | nil => rfl
  | cons char rest inductionHypothesis =>
      obtain ⟨unblank, special⟩ := ordinary char List.mem_cons_self
      have follows : plain.next? char = some plain := by
        simp only [List.mem_cons, List.not_mem_nil, or_false, not_or] at special
        simp [next?, unblank, opening, special]
      rw [run_cons_of_next follows,
        inductionHypothesis fun other member => ordinary other (List.mem_cons_of_mem _ member)]
      rfl

/-- What is escaped between double quotes never closes them. -/
theorem run_weak (value : List Char) : weak.run (value.flatMap escapeChar) = .inState weak := by
  induction value with
  | nil => rfl
  | cons char rest inductionHypothesis =>
      have stays : weak.run (escapeChar char) = .inState weak := by
        by_cases quote : char = '"'
        · subst quote
          decide
        by_cases backslash : char = '\\'
        · subst backslash
          decide
        by_cases feed : char = '\n'
        · subst feed
          decide
        by_cases dollar : char = '$'
        · subst dollar
          decide
        have escaped : escapeChar char = [char] := by simp [escapeChar]
        have follows : weak.next? char = some weak := by simp [next?, quote, backslash]
        rw [escaped, run_cons_of_next follows, run_nil]
        rfl
      rw [List.flatMap_cons, run_append, stays]
      show LineEnd.behind _ (weak.run (rest.flatMap escapeChar)) = _
      rw [inductionHypothesis]
      rfl

/-- A written value leaves nothing open. -/
theorem run_writeValue (value : List Char) :
    plain.run (writeValue value) = .inState plain := by
  unfold writeValue
  split
  · rw [List.cons_append, run_cons_of_next (show plain.next? '"' = some weak by decide),
      run_append, run_weak]
    rfl
  · next bare => exact run_plain (isOrdinary_of_not_needsQuotes (by simpa using bare))

end LineState

/-- A written value holds no line feed. -/
theorem feed_not_mem_writeValue (value : List Char) : '\n' ∉ writeValue value := by
  unfold writeValue
  split
  · have escaped : ∀ char : Char, '\n' ∉ escapeChar char := by
      intro char
      by_cases feed : char = '\n'
      · subst feed
        decide
      · unfold escapeChar
        split
        · decide
        · decide
        · decide
        · decide
        · simpa using Ne.symm feed
    simp [escaped]
  · next bare =>
      exact feed_not_mem_of_isOrdinary (isOrdinary_of_not_needsQuotes (by simpa using bare))

/-! ## The line of a name and a value -/

/-- The characters of the line that gives a name a value, without its line feed. -/
def writtenLine (name value : String) : List Char :=
  name.toList ++ '=' :: writeValue value.toList

theorem toList_write (name value : String) :
    (Line.write name value).toList = writtenLine name value ++ ['\n'] := by
  simp [Line.write, writtenLine]

theorem isOrdinary_of_isEntryName
    {name : String}
    (named : isEntryName name = true) :
    ∀ char ∈ name.toList, IsOrdinary char := by
  intro char present
  simp only [isEntryName, Bool.and_eq_true, List.all_eq_true] at named
  exact (isOrdinary_of_isNameChar (named.2 char present)).1

/-- A name of an entry is not empty, and its first character may begin a name. -/
theorem exists_cons_of_isEntryName
    {name : String}
    (named : isEntryName name = true) :
    ∃ first rest, name.toList = first :: rest ∧ isNameStart first = true := by
  simp only [isEntryName, Bool.and_eq_true] at named
  cases letters : name.toList with
  | nil => simp [letters] at named
  | cons first rest => exact ⟨first, rest, rfl, by simpa [letters] using named.1⟩

/-- The line of a name is one physical line that leaves nothing open. -/
theorem keptLines_write
    {name : String}
    (named : isEntryName name = true)
    (value : String) :
    keptLines (Line.write name value).toList = [writtenLine name value ++ ['\n']] := by
  rw [toList_write]
  apply keptLines_line
  have nameFeed := feed_not_mem_of_isOrdinary (isOrdinary_of_isEntryName named)
  simp [writtenLine, nameFeed, feed_not_mem_writeValue]

theorem run_writtenLine
    {name : String}
    (named : isEntryName name = true)
    (value : String) :
    LineState.plain.run (writtenLine name value) = .inState .plain := by
  rw [writtenLine, LineState.run_append,
    LineState.run_plain (isOrdinary_of_isEntryName named)]
  show LineEnd.behind _ (LineState.plain.run ('=' :: writeValue value.toList)) = _
  rw [LineState.run_cons_of_next (show LineState.plain.next? '=' = some .plain by decide),
    LineState.run_writeValue]
  rfl

theorem trimStart_cons
    {first : Char}
    (unblank : isBlank first = false)
    (rest : List Char) :
    trimStart (first :: rest) = first :: rest := by
  simp [trimStart, unblank]

theorem trimEnd_concat
    {last : Char}
    (unblank : isBlank last = false)
    (front : List Char) :
    trimEnd (front ++ [last]) = front ++ [last] := by
  simp [trimEnd, dropEndWhile, unblank]

/-- Nothing is trimmed at the end of a written line. -/
theorem trimEnd_writtenLine (name value : String) :
    trimEnd (writtenLine name value) = writtenLine name value := by
  unfold writtenLine writeValue
  split
  · rw [← List.cons_append, ← List.append_assoc]
    exact trimEnd_concat (by decide) _
  · next bare =>
      have ordinary := isOrdinary_of_not_needsQuotes (by simpa using bare)
      rcases List.eq_nil_or_concat value.toList with none | ⟨front, last, split⟩
      · rw [none]
        exact trimEnd_concat (by decide) _
      · rw [split, List.concat_eq_append, ← List.cons_append, ← List.append_assoc]
        apply trimEnd_concat
        exact (ordinary last (by simp [split])).1

/-- A written value begins with no blank, so it is where its line is trimmed to. -/
theorem trimStart_writeValue (value : List Char) :
    trimStart (writeValue value) = writeValue value := by
  unfold writeValue
  split
  · exact trimStart_cons (by decide) _
  · next bare =>
      have ordinary := isOrdinary_of_not_needsQuotes (by simpa using bare)
      cases value with
      | nil => rfl
      | cons first rest => exact trimStart_cons (ordinary first List.mem_cons_self).1 rest

/-- A written value is no comment, and it is empty only for the empty value. -/
theorem saysNothing_writeValue (value : List Char) :
    saysNothing (writeValue value) = value.isEmpty := by
  unfold writeValue
  split
  · next quoted =>
      cases value with
      | nil => exact absurd quoted (by decide)
      | cons first rest => rfl
  · next bare =>
      have ordinary := isOrdinary_of_not_needsQuotes (by simpa using bare)
      cases value with
      | nil => rfl
      | cons first rest =>
          have special := (ordinary first List.mem_cons_self).2
          simp only [List.mem_cons, not_or] at special
          simp [saysNothing, special.1]

theorem readName?_writtenLine
    {name : String}
    (named : isEntryName name = true)
    (value : String) :
    readName? (writtenLine name value) = some (name.toList, '=' :: writeValue value.toList) := by
  obtain ⟨first, rest, letters, start⟩ := exists_cons_of_isEntryName named
  simp only [isEntryName, Bool.and_eq_true, List.all_eq_true] at named
  have equals : isNameChar '=' = false := by decide
  unfold readName? writtenLine
  rw [if_pos (by simp [letters, start]), List.takeWhile_append_of_pos named.2,
    List.dropWhile_append_of_pos named.2]
  simp [equals]

/-- The line of a name and a value says that the name has that value. -/
theorem read?_write
    {name : String}
    (named : isEntryName name = true)
    (value : String) :
    Line.read? (writtenLine name value) =
      some (.assignment name (value.toList.map Piece.char)) := by
  obtain ⟨first, rest, letters, start⟩ := exists_cons_of_isEntryName named
  have ordinary := (isOrdinary_of_isNameChar (isNameChar_of_isNameStart start)).1
  have begins : writtenLine name value = first :: (rest ++ '=' :: writeValue value.toList) := by
    rw [writtenLine, letters, List.cons_append]
  have trimmed : trimStart (trimEnd (writtenLine name value)) = writtenLine name value := by
    rw [trimEnd_writtenLine, begins, trimStart_cons ordinary.1]
  have speaks : saysNothing (writtenLine name value) = false := by
    have special := ordinary.2
    rw [begins]
    simp only [List.mem_cons, not_or] at special
    simp [saysNothing, special.1]
  have head : readHead? (writtenLine name value) =
      some (name.toList, writeValue value.toList) := by
    have equals : isBlank '=' = false := by decide
    have target : readTarget? (writtenLine name value) =
        some (name.toList, writeValue value.toList) := by
      simp [readTarget?, readName?_writtenLine named, behindEquals?, trimStart_cons equals, behind?]
    rw [readHead?, target]
  rw [Line.read?, trimmed, speaks, head]
  show (if saysNothing (trimStart (writeValue value.toList)) then _ else _) = _
  rw [trimStart_writeValue, saysNothing_writeValue, readValue?_writeValue]
  cases letters : value.toList with
  | nil => simp [String.ofList_toList]
  | cons char others => simp [String.ofList_toList]

/-! ## Lines of several entries -/

/-- The lines of names with values, in order. -/
def writeAll (pairs : List (String × String)) : String :=
  String.join (pairs.map fun pair => Line.write pair.1 pair.2)

@[simp] theorem writeAll_nil : writeAll [] = "" := rfl

theorem writeAll_cons (pair : String × String) (pairs : List (String × String)) :
    writeAll (pair :: pairs) = Line.write pair.1 pair.2 ++ writeAll pairs := by
  simp [writeAll, String.join_cons]

theorem writeAll_append (left right : List (String × String)) :
    writeAll (left ++ right) = writeAll left ++ writeAll right := by
  induction left with
  | nil => simp
  | cons pair left inductionHypothesis =>
      rw [List.cons_append, writeAll_cons, writeAll_cons, inductionHypothesis, String.append_assoc]

theorem getLast?_write (name value : String) :
    (Line.write name value).toList.getLast? = some '\n' := by
  rw [toList_write]
  simp

theorem keptLines_writeAll
    {pairs : List (String × String)}
    (named : ∀ pair ∈ pairs, isEntryName pair.1 = true) :
    keptLines (writeAll pairs).toList =
      pairs.map fun pair => writtenLine pair.1 pair.2 ++ ['\n'] := by
  induction pairs with
  | nil => rfl
  | cons pair pairs inductionHypothesis =>
      rw [writeAll_cons, String.toList_append, keptLines_append (getLast?_write _ _),
        keptLines_write (named pair List.mem_cons_self),
        inductionHypothesis fun other present => named other (List.mem_cons_of_mem _ present)]
      rfl

namespace Pending

/-- A written line behind nothing open is complete on its own. -/
theorem step_start_write
    {name : String}
    (named : isEntryName name = true)
    (value : String) :
    start.step (writtenLine name value ++ ['\n']) = start ∧
      (start.completed (writtenLine name value ++ ['\n'])).map Line.read? =
        [some (.assignment name (value.toList.map Piece.char))] := by
  obtain ⟨first, rest, letters, begins⟩ := exists_cons_of_isEntryName named
  have ordinary := (isOrdinary_of_isNameChar (isNameChar_of_isNameStart begins)).1
  have speaks : isComment (writtenLine name value ++ ['\n']) = false := by
    have special := ordinary.2
    simp only [List.mem_cons, not_or] at special
    rw [isComment_feed, isComment, writtenLine, letters, List.cons_append,
      trimStart_cons ordinary.1]
    simp [special.1]
  have ends := LineState.run_feed (run_writtenLine named value)
  constructor
  · simp [step, start, speaks, ends, LineState.behindFeed]
  · simp only [completed, start, List.nil_append, speaks, ends, LineState.behindFeed]
    simp [Line.read?_feed, read?_write named]

end Pending

/-- The lines of names with values say what they were written for. -/
theorem readAll_start_writeAll
    {pairs : List (String × String)}
    (named : ∀ pair ∈ pairs, isEntryName pair.1 = true) :
    Pending.start.readAll (keptLines (writeAll pairs).toList) =
      pairs.map fun pair => some (.assignment pair.1 (pair.2.toList.map Piece.char)) := by
  rw [keptLines_writeAll named]
  induction pairs with
  | nil => simp [Pending.readAll_nil, Pending.start]
  | cons pair pairs inductionHypothesis =>
      obtain ⟨closes, reads⟩ :=
        Pending.step_start_write (named pair List.mem_cons_self) pair.2
      have others := inductionHypothesis fun other present =>
        named other (List.mem_cons_of_mem _ present)
      rw [List.map_cons, ← List.singleton_append, Pending.readAll_append]
      simp only [Pending.completedAll, List.append_nil, List.foldl_cons, List.foldl_nil,
        closes, reads, others]
      rfl

end EnvFile
end ConfigWiring
