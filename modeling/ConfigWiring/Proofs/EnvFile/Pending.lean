import ConfigWiring.EnvFile.Basic

/-!
# What an env file leaves open

Physical lines are read one after another; each either completes logical lines or leaves
one open.  A text that leaves nothing open can be followed by further text without any
effect on how it is read, and a line feed at its end changes nothing.  A text that leaves
a quote open takes what follows it into its last logical line.
-/

namespace ConfigWiring
namespace EnvFile

open Text

/-! ## Following a line -/

/-- The end of a line that has a further text in front. -/
def LineEnd.behind (front : List Char) : LineEnd -> LineEnd
  | .inState state => .inState state
  | .beforeComment text => .beforeComment (front ++ text)

namespace LineState

theorem run_cons_of_next
    {state next : LineState}
    {char : Char}
    (follows : state.next? char = some next)
    (rest : List Char) :
    state.run (char :: rest) = (next.run rest).behind [char] := by
  rw [run, follows]
  cases reached : next.run rest <;> simp [reached, LineEnd.behind]

theorem run_cons_of_comment
    {state : LineState}
    {char : Char}
    (begins : state.next? char = none)
    (rest : List Char) :
    state.run (char :: rest) = .beforeComment [] := by
  rw [run, begins]

/-- Following two texts in a row goes on from the state behind the first. -/
theorem run_append
    (state : LineState)
    (left right : List Char) :
    state.run (left ++ right) =
      match state.run left with
      | .inState last => (last.run right).behind left
      | .beforeComment text => .beforeComment text := by
  induction left generalizing state with
  | nil =>
      cases reached : state.run right <;> simp [reached, LineEnd.behind]
  | cons char rest inductionHypothesis =>
      rw [List.cons_append]
      cases follows : state.next? char with
      | none => rw [run_cons_of_comment follows, run_cons_of_comment follows]
      | some next =>
          rw [run_cons_of_next follows, run_cons_of_next follows, inductionHypothesis]
          cases next.run rest with
          | inState last => cases reached : last.run right <;> simp [LineEnd.behind, reached]
          | beforeComment text => rfl

/-- What is open behind a line feed: only quotes stay open. -/
def behindFeed : LineState -> LineState
  | plain | blank | escape => plain
  | weak | weakEscape => weak
  | strong | strongEscape => strong

/-- A line feed never begins a comment. -/
theorem next?_feed (state : LineState) : state.next? '\n' = some state.behindFeed := by
  cases state <;> decide

theorem run_feed
    {state last : LineState}
    {line : List Char}
    (reached : state.run line = .inState last) :
    state.run (line ++ ['\n']) = .inState last.behindFeed := by
  rw [run_append, reached]
  show LineEnd.behind line (last.run ['\n']) = _
  rw [run_cons_of_next last.next?_feed]
  rfl

theorem run_feed_of_comment
    {state : LineState}
    {line text : List Char}
    (reached : state.run line = .beforeComment text) :
    state.run (line ++ ['\n']) = .beforeComment text := by
  rw [run_append, reached]

end LineState

/-! ## Physical lines -/

theorem keptLines_ne_nil
    {text : List Char}
    (nonempty : text ≠ []) :
    keptLines text ≠ [] := by
  intro none
  have flat := flatten_keptLines text
  rw [none] at flat
  exact nonempty flat.symm

/-- A text that ends in a line feed keeps its lines whatever follows. -/
theorem keptLines_append
    {left : List Char}
    (ended : left.getLast? = some '\n')
    (right : List Char) :
    keptLines (left ++ right) = keptLines left ++ keptLines right := by
  induction left with
  | nil => simp at ended
  | cons char rest inductionHypothesis =>
      by_cases single : rest = []
      · subst single
        obtain rfl : char = '\n' := by simpa using ended
        simp [keptLines]
      · have restEnded : rest.getLast? = some '\n' := by
          rwa [List.getLast?_cons_of_ne_nil single] at ended
        obtain ⟨line, lines, split⟩ := List.exists_cons_of_ne_nil (keptLines_ne_nil single)
        rw [List.cons_append, keptLines, keptLines, inductionHypothesis restEnded, split]
        by_cases feed : char = '\n' <;> simp [feed]

/-- A line that holds no line feed is one physical line with the line feed behind it. -/
theorem keptLines_line
    {line : List Char}
    (noFeed : '\n' ∉ line) :
    keptLines (line ++ ['\n']) = [line ++ ['\n']] := by
  induction line with
  | nil => rfl
  | cons char rest inductionHypothesis =>
      simp only [List.mem_cons, not_or] at noFeed
      rw [List.cons_append, keptLines, if_neg (Ne.symm noFeed.1), inductionHypothesis noFeed.2]

/-- A line feed behind a text that lacks one lengthens the last line only. -/
theorem exists_lastLine
    {text : List Char}
    (nonempty : text ≠ [])
    (unended : text.getLast? ≠ some '\n') :
    ∃ lines last,
      keptLines text = lines ++ [last] ∧
        keptLines (text ++ ['\n']) = lines ++ [last ++ ['\n']] := by
  induction text with
  | nil => exact absurd rfl nonempty
  | cons char rest inductionHypothesis =>
      by_cases single : rest = []
      · subst single
        have other : char ≠ '\n' := by simpa using unended
        exact ⟨[], [char], by simp [keptLines, other], by simp [keptLines, other]⟩
      · rw [List.getLast?_cons_of_ne_nil single] at unended
        obtain ⟨lines, last, split, lengthened⟩ := inductionHypothesis single unended
        rw [List.cons_append, keptLines, keptLines, split, lengthened]
        by_cases feed : char = '\n'
        · exact ⟨['\n'] :: lines, last, by simp [feed], by simp [feed]⟩
        · cases lines with
          | nil => exact ⟨[], char :: last, by simp [feed], by simp [feed]⟩
          | cons line others =>
              exact ⟨(char :: line) :: others, last, by simp [feed], by simp [feed]⟩

/-! ## Pending logical lines -/

/-- A logical line that is still open: its text so far and what is open at its end. -/
structure Pending where
  /-- The text so far. -/
  begun : List Char
  /-- What is open. -/
  state : LineState
  deriving DecidableEq, Repr

namespace Pending

/-- Nothing is open. -/
def start : Pending := ⟨[], .plain⟩

/-- What is open behind one more physical line. -/
def step (pending : Pending) (line : List Char) : Pending :=
  if isComment (pending.begun ++ line) then start
  else
    match pending.state.run line with
    | .beforeComment _ | .inState .plain => start
    | .inState state => ⟨pending.begun ++ line, state⟩

/-- The logical line that one more physical line completes. -/
def completed (pending : Pending) (line : List Char) : List (List Char) :=
  if isComment (pending.begun ++ line) then []
  else
    match pending.state.run line with
    | .beforeComment text => [pending.begun ++ text]
    | .inState .plain => [pending.begun ++ line]
    | .inState _ => []

/-- The logical lines that physical lines complete. -/
def completedAll : Pending -> List (List Char) -> List (List Char)
  | _, [] => []
  | pending, line :: lines => pending.completed line ++ (pending.step line).completedAll lines

/-- The logical lines of physical lines, read from what is open. -/
def logicalLines (pending : Pending) (lines : List (List Char)) : List (Option (List Char)) :=
  logicalLinesFrom pending.begun pending.state lines

/-- One more physical line completes what it completes and leaves the rest to the lines
behind it. -/
theorem logicalLines_cons
    (pending : Pending)
    (line : List Char)
    (lines : List (List Char)) :
    pending.logicalLines (line :: lines) =
      (pending.completed line).map some ++ (pending.step line).logicalLines lines := by
  unfold logicalLines completed step
  rw [logicalLinesFrom]
  by_cases whole : isComment (pending.begun ++ line)
  · simp [whole, start]
  · cases reached : pending.state.run line with
    | beforeComment text => simp [whole, start]
    | inState last => cases last <;> simp [whole, start]

theorem logicalLines_append
    (pending : Pending)
    (left right : List (List Char)) :
    pending.logicalLines (left ++ right) =
      (pending.completedAll left).map some ++ (left.foldl step pending).logicalLines right := by
  induction left generalizing pending with
  | nil => rfl
  | cons line lines inductionHypothesis =>
      rw [List.cons_append, logicalLines_cons, inductionHypothesis]
      simp [completedAll]

/-- What the physical lines say that are read from what is open. -/
def readAll (pending : Pending) (lines : List (List Char)) : List (Option Line) :=
  (pending.logicalLines lines).map (·.bind Line.read?)

theorem readAll_nil (pending : Pending) :
    pending.readAll [] = if pending.state = .plain then [] else [none] := by
  obtain ⟨begun, state⟩ := pending
  cases state <;> simp [readAll, logicalLines, logicalLinesFrom]

theorem readAll_append
    (pending : Pending)
    (left right : List (List Char)) :
    pending.readAll (left ++ right) =
      (pending.completedAll left).map Line.read? ++ (left.foldl step pending).readAll right := by
  rw [readAll, logicalLines_append]
  simp [readAll]

/-- A physical line that leaves nothing open leaves no text open either. -/
theorem step_eq_start
    {pending : Pending}
    {line : List Char}
    (closed : (pending.step line).state = .plain) :
    pending.step line = start := by
  unfold step at closed ⊢
  by_cases whole : isComment (pending.begun ++ line)
  · simp only [whole, if_true]
  · cases reached : pending.state.run line with
    | beforeComment text => simp only [whole, if_false, Bool.false_eq_true]
    | inState last => cases last <;> simp_all

/-- A physical line that leaves something open completes nothing. -/
theorem completed_eq_nil
    {pending : Pending}
    {line : List Char}
    (unclosed : (pending.step line).state ≠ .plain) :
    pending.completed line = [] := by
  unfold step at unclosed
  unfold completed
  by_cases whole : isComment (pending.begun ++ line)
  · simp only [whole, if_true]
  · cases reached : pending.state.run line with
    | beforeComment text => simp [whole, reached, start] at unclosed
    | inState last => cases last <;> simp_all [start]

theorem foldl_step_eq_start
    {lines : List (List Char)}
    (closed : (lines.foldl step start).state = .plain) :
    lines.foldl step start = start := by
  rcases List.eq_nil_or_concat lines with rfl | ⟨earlier, last, rfl⟩
  · rfl
  · rw [List.concat_eq_append, List.foldl_append] at closed ⊢
    exact step_eq_start closed

end Pending

/-! ## A line feed at the end -/

theorem isComment_feed (text : List Char) : isComment (text ++ ['\n']) = isComment text := by
  have feedBlank : isBlank '\n' = true := by decide
  unfold isComment trimStart
  rw [List.dropWhile_append]
  cases rest : text.dropWhile isBlank with
  | nil => simp [feedBlank]
  | cons char others => simp

theorem trimEnd_feed (text : List Char) : trimEnd (text ++ ['\n']) = trimEnd text := by
  have feedBlank : isBlank '\n' = true := by decide
  simp [trimEnd, dropEndWhile, feedBlank]

/-- A line feed at the end of a logical line has no say in what the line says. -/
theorem Line.read?_feed (text : List Char) : Line.read? (text ++ ['\n']) = Line.read? text := by
  rw [Line.read?, Line.read?, trimEnd_feed]

namespace Pending

/-- Behind a line feed only quotes are open, namely those that were open in front. -/
theorem state_step_feed
    (pending : Pending)
    (line : List Char) :
    (pending.step (line ++ ['\n'])).state = (pending.step line).state.behindFeed := by
  unfold step
  rw [← List.append_assoc, isComment_feed]
  split
  · rfl
  · cases reached : pending.state.run line with
    | beforeComment text =>
        rw [LineState.run_feed_of_comment reached]
        rfl
    | inState last =>
        rw [LineState.run_feed reached]
        cases last <;> rfl

/-- A line feed changes what a physical line completes only where a blank or a backslash at
its end kept the logical line open. -/
theorem read_completed_feed
    {pending : Pending}
    {line : List Char}
    (unblank : (pending.step line).state ≠ .blank)
    (unescaped : (pending.step line).state ≠ .escape) :
    (pending.completed (line ++ ['\n'])).map Line.read? =
      (pending.completed line).map Line.read? := by
  unfold step at unblank unescaped
  unfold completed
  rw [← List.append_assoc, isComment_feed]
  split
  · rfl
  · next whole =>
      rw [if_neg whole] at unblank unescaped
      cases reached : pending.state.run line with
      | beforeComment text => rw [LineState.run_feed_of_comment reached]
      | inState last =>
          rw [reached] at unblank unescaped
          rw [LineState.run_feed reached]
          cases last with
          | plain =>
              show [Line.read? (pending.begun ++ line ++ ['\n'])] = _
              rw [Line.read?_feed]
              rfl
          | blank => exact absurd rfl unblank
          | escape => exact absurd rfl unescaped
          | weak | weakEscape | strong | strongEscape => rfl

end Pending

/-! ## Texts -/

/-- What a text leaves open. -/
def pendingOf (text : String) : Pending := (keptLines text.toList).foldl Pending.step .start

/-- Whether a text leaves no quote, no backslash and no blank open at its end. -/
def IsClosed (text : String) : Prop := (pendingOf text).state = .plain

instance (text : String) : Decidable (IsClosed text) := by
  unfold IsClosed
  infer_instance

theorem pendingOf_eq_start
    {text : String}
    (closed : IsClosed text) :
    pendingOf text = .start :=
  Pending.foldl_step_eq_start closed

theorem readLines_eq_readAll (text : String) :
    readLines text = Pending.start.readAll (keptLines text.toList) := rfl

theorem closedText_of_ended
    {text : String}
    (ended : text = "" ∨ text.toList.getLast? = some '\n') :
    closedText text = text := by
  rcases ended with rfl | ended
  · rfl
  · simp [closedText, ended]

theorem toList_closedText_of_unended
    {text : String}
    (nonempty : text ≠ "")
    (unended : text.toList.getLast? ≠ some '\n') :
    (closedText text).toList = text.toList ++ ['\n'] := by
  simp [closedText, nonempty, unended]

theorem ended_closedText (text : String) :
    closedText text = "" ∨ (closedText text).toList.getLast? = some '\n' := by
  by_cases ended : text = "" ∨ text.toList.getLast? = some '\n'
  · rwa [closedText_of_ended ended]
  · rw [not_or] at ended
    right
    rw [toList_closedText_of_unended ended.1 ended.2]
    simp

/-- A text with a line feed at its end is read in the same way whatever follows. -/
theorem readLines_append
    {text : String}
    (ended : text = "" ∨ text.toList.getLast? = some '\n')
    (more : String) :
    readLines (text ++ more) =
      (Pending.start.completedAll (keptLines text.toList)).map Line.read? ++
        (pendingOf text).readAll (keptLines more.toList) := by
  rw [readLines_eq_readAll, String.toList_append]
  rcases ended with rfl | ended
  · rfl
  · rw [keptLines_append ended, Pending.readAll_append]
    rfl

/-- What follows a closed text is read as if nothing were in front. -/
theorem readLines_append_of_isClosed
    {text : String}
    (ended : text = "" ∨ text.toList.getLast? = some '\n')
    (closed : IsClosed text)
    (more : String) :
    readLines (text ++ more) = readLines text ++ readLines more := by
  have alone := readLines_append ended ""
  rw [String.append_empty] at alone
  rw [readLines_append ended, alone, pendingOf_eq_start closed, readLines_eq_readAll more]
  simp [keptLines, Pending.readAll_nil, Pending.start]

/-- The lines of a text without and with a line feed at its end differ in what the last
physical line completes and leaves open. -/
theorem exists_lastPending
    {text : String}
    (nonempty : text ≠ "")
    (unended : text.toList.getLast? ≠ some '\n') :
    ∃ (earlier : List (Option Line)) (pending : Pending) (last : List Char),
      pendingOf text = pending.step last ∧
      pendingOf (closedText text) = pending.step (last ++ ['\n']) ∧
      readLines text = earlier ++
        ((pending.completed last).map Line.read? ++ (pending.step last).readAll []) ∧
      readLines (closedText text) = earlier ++
        ((pending.completed (last ++ ['\n'])).map Line.read? ++
          (pending.step (last ++ ['\n'])).readAll []) := by
  have listNonempty : text.toList ≠ [] := by simpa using nonempty
  obtain ⟨lines, last, split, lengthened⟩ := exists_lastLine listNonempty unended
  have closing := toList_closedText_of_unended nonempty unended
  refine ⟨(Pending.start.completedAll lines).map Line.read?, lines.foldl Pending.step .start,
    last, ?_, ?_, ?_, ?_⟩
  · rw [pendingOf, split, List.foldl_append]
    rfl
  · rw [pendingOf, closing, lengthened, List.foldl_append]
    rfl
  · rw [readLines_eq_readAll, split, Pending.readAll_append, ← List.append_nil [last],
      Pending.readAll_append]
    simp [Pending.completedAll]
  · rw [readLines_eq_readAll, closing, lengthened, Pending.readAll_append,
      ← List.append_nil [last ++ ['\n']], Pending.readAll_append]
    simp [Pending.completedAll]

/-- Closing a text leaves nothing open that the text did not leave open. -/
theorem isClosed_closedText
    {text : String}
    (closed : IsClosed text) :
    IsClosed (closedText text) := by
  by_cases ended : text = "" ∨ text.toList.getLast? = some '\n'
  · rwa [closedText_of_ended ended]
  · rw [not_or] at ended
    obtain ⟨earlier, pending, last, before, behind, _, _⟩ := exists_lastPending ended.1 ended.2
    rw [IsClosed, before] at closed
    rw [IsClosed, behind, Pending.state_step_feed, closed]
    rfl

/-- Closing a closed text changes nothing about what it says. -/
theorem readLines_closedText
    {text : String}
    (closed : IsClosed text) :
    readLines (closedText text) = readLines text := by
  by_cases ended : text = "" ∨ text.toList.getLast? = some '\n'
  · rw [closedText_of_ended ended]
  · rw [not_or] at ended
    have closedBehind := isClosed_closedText closed
    obtain ⟨earlier, pending, last, before, behind, read, readBehind⟩ :=
      exists_lastPending ended.1 ended.2
    rw [IsClosed, before] at closed
    rw [IsClosed, behind] at closedBehind
    rw [read, readBehind, Pending.readAll_nil, Pending.readAll_nil, closed, closedBehind,
      Pending.read_completed_feed (by simp [closed]) (by simp [closed])]

/-- Closing a text that still leaves a quote open changes nothing about what it says. -/
theorem readLines_closedText_of_not_isClosed
    {text : String}
    (unclosed : ¬IsClosed (closedText text)) :
    readLines (closedText text) = readLines text := by
  by_cases ended : text = "" ∨ text.toList.getLast? = some '\n'
  · rw [closedText_of_ended ended]
  · rw [not_or] at ended
    obtain ⟨earlier, pending, last, _, behind, read, readBehind⟩ :=
      exists_lastPending ended.1 ended.2
    rw [IsClosed, behind, Pending.state_step_feed] at unclosed
    have quoted : (pending.step last).state ≠ .plain ∧ (pending.step last).state ≠ .blank ∧
        (pending.step last).state ≠ .escape := by
      refine ⟨?_, ?_, ?_⟩ <;> intro state <;> simp [state, LineState.behindFeed] at unclosed
    rw [read, readBehind, Pending.readAll_nil, Pending.readAll_nil, if_neg quoted.1,
      Pending.state_step_feed, if_neg unclosed,
      Pending.read_completed_feed quoted.2.1 quoted.2.2]

/-- Closing a text keeps every line that says something. -/
theorem mem_readLines_closedText
    {text : String}
    {line : Line}
    (present : some line ∈ readLines text) :
    some line ∈ readLines (closedText text) := by
  by_cases closed : IsClosed text
  · rwa [readLines_closedText closed]
  · by_cases ended : text = "" ∨ text.toList.getLast? = some '\n'
    · rwa [closedText_of_ended ended]
    · rw [not_or] at ended
      obtain ⟨earlier, pending, last, before, _, read, readBehind⟩ :=
        exists_lastPending ended.1 ended.2
      rw [IsClosed, before] at closed
      have nothing : pending.completed last = [] := Pending.completed_eq_nil closed
      rw [read, nothing, Pending.readAll_nil, if_neg closed] at present
      rw [readBehind, List.mem_append]
      left
      simpa using present

end EnvFile
end ConfigWiring
