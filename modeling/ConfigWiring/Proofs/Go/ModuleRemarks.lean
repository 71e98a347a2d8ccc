import ConfigWiring.Go.Module
import ConfigWiring.Proofs.Tag.Grammar
import Mathlib.Data.List.Basic
import Mathlib.Data.List.TakeWhile

/-!
# Remarks in a module file

A remark may stand on a line of its own or behind any directive of a module file.  The directive
that declares the path is found whatever remarks stand around it.  A remark behind that directive is
taken for a part of the path, so the paths of all packages of the project change with it.
-/

namespace ConfigWiring

namespace Text

/-- Trimming stops on either side of characters that do not satisfy the test. -/
theorem exists_trimWhile_eq
    (test : Char -> Bool)
    {first second : Char}
    (stops : test first = false)
    (stopsToo : test second = false)
    (front back : List Char) :
    ∃ front' back', trimWhile test (front ++ first :: second :: back) =
      front' ++ first :: second :: back' := by
  have stopped {stop : Char} (stops : test stop = false) (front back : List Char) :
      (front ++ stop :: back).dropWhile test = front.dropWhile test ++ stop :: back := by
    rw [List.dropWhile_append]
    split
    · next none => simp [List.isEmpty_iff.1 none, stops]
    · rfl
  refine ⟨front.dropWhile test, dropEndWhile test back, ?_⟩
  rw [trimWhile, stopped stops, dropEndWhile]
  simp [stopped stopsToo, dropEndWhile]

end Text

namespace Go
namespace Module

open Tag.Params (IsBlanks exists_blanks trimStart_append)
open Text

/-! ## Directives and remarks -/

/-- A path that a directive may declare: visible characters without a quote at either end and
without two slashes in a row. -/
structure IsModulePath (path : List Char) : Prop where
  nonempty : path ≠ []
  visible : ∀ char ∈ path, isBlank char = false
  unquoted : path.head? ≠ some '"' ∧ path.getLast? ≠ some '"'
  noRemark : ¬['/', '/'] <:+: path

/-- The spellings of a path: as it is, or between quotes. -/
inductive Spells (path : List Char) : List Char -> Prop
  | bare : Spells path path
  | quoted : Spells path ('"' :: (path ++ ['"']))

/-- The lines that are a directive for a path. -/
inductive Declares (path : List Char) : List Char -> Prop
  | directive {indent gap written trail : List Char} (indented : IsBlanks indent)
      (parted : IsBlanks gap) (apart : gap ≠ []) (spelt : Spells path written)
      (trailed : IsBlanks trail) :
      Declares path (indent ++ ("module".toList ++ (gap ++ (written ++ trail))))

theorem Declares.of_eq
    {path line indent gap written trail : List Char}
    (indented : IsBlanks indent)
    (parted : IsBlanks gap)
    (apart : gap ≠ [])
    (spelt : Spells path written)
    (trailed : IsBlanks trail)
    (reads : line = indent ++ ("module".toList ++ (gap ++ (written ++ trail)))) :
    Declares path line :=
  reads ▸ .directive indented parted apart spelt trailed

/-- A line with a remark behind it. -/
inductive Noted (line : List Char) : List Char -> Prop
  | remark {gap : List Char} (parted : IsBlanks gap) (words : List Char) :
      Noted line (line ++ (gap ++ '/' :: '/' :: words))

theorem Noted.of_eq
    {line line' gap : List Char}
    (parted : IsBlanks gap)
    (words : List Char)
    (reads : line' = line ++ (gap ++ '/' :: '/' :: words)) :
    Noted line line' :=
  reads ▸ .remark parted words

/-- Lines to which remarks are added, behind some of them and on lines of their own. -/
inductive Commented : List (List Char) -> List (List Char) -> Prop
  | nil : Commented [] []
  | keep {lines lines' : List (List Char)} (line : List Char) (rest : Commented lines lines') :
      Commented (line :: lines) (line :: lines')
  | note {lines lines' : List (List Char)} {line line' : List Char} (noted : Noted line line')
      (rest : Commented lines lines') : Commented (line :: lines) (line' :: lines')
  /-- A line that holds nothing but a remark. -/
  | add {lines lines' : List (List Char)} {line : List Char} (noted : Noted [] line)
      (rest : Commented lines lines') : Commented lines (line :: lines')

/-! ## Lines of other directives -/

/-- What a line begins with, up to a blank. -/
def firstWord (line : List Char) : List Char := (trimStart line).takeWhile (!isBlank ·)

/-- A line that begins with another word declares no path. -/
theorem ofLine?_eq_none
    {line : List Char}
    (other : firstWord line ≠ "module".toList) :
    ofLine? line = none := by
  unfold ofLine?
  split
  · next char rest begins =>
      split
      · next blank =>
          -- A blank stands behind the word, so that the line begins with no longer one.
          have trimmed : trim line = "module".toList ++ char :: rest := eq_append_of_behind? begins
          have whole : trimEnd (trimStart line) <+: trimStart line := by
            rw [trimEnd, dropEndWhile, ← List.reverse_suffix, List.reverse_reverse]
            exact List.dropWhile_suffix _
          obtain ⟨trail, cut⟩ := whole
          refine absurd ?_ other
          have word : ∀ char ∈ "module".toList, (!isBlank char) = true :=
            List.all_eq_true.1 (by decide)
          rw [firstWord, ← cut, show trimEnd (trimStart line) = trim line from rfl, trimmed,
            List.append_assoc, List.takeWhile_append_of_pos word, List.cons_append,
            List.takeWhile_cons_of_neg (by simp [blank]), List.append_nil]
      · rfl
  · rfl

/-- A remark behind a line does not make it begin with the word of the directive. -/
theorem firstWord_ne_of_noted
    {line line' : List Char}
    (noted : Noted line line')
    (other : firstWord line ≠ "module".toList) :
    firstWord line' ≠ "module".toList := by
  obtain ⟨parted, words⟩ := noted
  rename_i gap
  have slash : isBlank '/' = false := by decide
  rw [firstWord, trimStart, List.dropWhile_append]
  split
  · next none =>
      have begins : (gap ++ '/' :: '/' :: words).dropWhile isBlank = '/' :: '/' :: words :=
        trimStart_append parted fun next same => by cases same; exact slash
      rw [begins]
      simp [slash]
  · rw [List.takeWhile_append]
    split
    · next all =>
        cases gap with
        | nil =>
            intro same
            have present : '/' ∈ "module".toList := by
              rw [← same]
              simp [slash]
            exact absurd present (by decide)
        | cons blank others =>
            have whole : line.dropWhile isBlank = firstWord line :=
              ((List.takeWhile_prefix _).eq_of_length all).symm
            rw [List.cons_append, List.takeWhile_cons_of_neg (by simp [parted blank]),
              List.append_nil, whole]
            exact other
    · exact other

/-- Lines that begin with other words do so with remarks added to them. -/
theorem Commented.firstWord_ne
    {lines lines' : List (List Char)}
    (commented : Commented lines lines')
    (others : ∀ line ∈ lines, firstWord line ≠ "module".toList) :
    ∀ line ∈ lines', firstWord line ≠ "module".toList := by
  induction commented with
  | nil => exact others
  | keep line _ inductionHypothesis =>
      rw [List.forall_mem_cons] at others ⊢
      exact ⟨others.1, inductionHypothesis others.2⟩
  | note noted _ inductionHypothesis =>
      rw [List.forall_mem_cons] at others ⊢
      exact ⟨firstWord_ne_of_noted noted others.1, inductionHypothesis others.2⟩
  | add noted _ inductionHypothesis =>
      rw [List.forall_mem_cons]
      exact ⟨firstWord_ne_of_noted noted (by decide), inductionHypothesis others⟩

/-- Lines in front that begin with other words do not count. -/
theorem findSome?_behind
    {front : List (List Char)}
    (others : ∀ line ∈ front, firstWord line ≠ "module".toList)
    {line : List Char}
    {mod : Module}
    (declares : ofLine? line = some mod)
    (back : List (List Char)) :
    (front ++ line :: back).findSome? ofLine? = some mod := by
  have none : front.findSome? ofLine? = none :=
    List.findSome?_eq_none_iff.2 fun other present => ofLine?_eq_none (others other present)
  rw [List.findSome?_append, none, Option.none_or,
    List.findSome?_cons_of_isSome (by simp [declares])]
  exact declares

/-! ## The line of the directive -/

/-- The path is read between the blanks around it, without the quotes at its ends. -/
theorem ofLine?_directive
    {indent gap text trail : List Char}
    (indented : IsBlanks indent)
    (parted : IsBlanks gap)
    (apart : gap ≠ [])
    (nonempty : text ≠ [])
    (opens : ∀ char ∈ text.head?, isBlank char = false)
    (ends : ∀ char ∈ text.getLast?, isBlank char = false)
    (trailed : IsBlanks trail) :
    ofLine? (indent ++ ("module".toList ++ (gap ++ (text ++ trail)))) =
      if (trimWhile (· == '"') text).isEmpty then none
      else some ⟨String.ofList (trimWhile (· == '"') text)⟩ := by
  have whole : trim (indent ++ ("module".toList ++ (gap ++ (text ++ trail)))) =
      "module".toList ++ (gap ++ text) := by
    rw [show "module".toList ++ (gap ++ (text ++ trail)) =
      ("module".toList ++ (gap ++ text)) ++ trail by simp]
    refine trimWhile_append indented trailed (by simp; decide) ?_
    rwa [← List.append_assoc, List.getLast?_append_of_ne_nil _ nonempty]
  have inner : trim (gap ++ text) = text := by
    have trimmed := trimWhile_append parted (List.forall_mem_nil _) opens ends
    rwa [List.append_nil] at trimmed
  obtain ⟨blank, others, rfl⟩ := List.exists_cons_of_ne_nil apart
  rw [ofLine?, whole, behind?_append, List.cons_append]
  simp only [parted blank List.mem_cons_self, if_true, ← List.cons_append, inner]

/-- A directive is read as the path that it declares. -/
theorem ofLine?_declares
    {path line : List Char}
    (valid : IsModulePath path)
    (declares : Declares path line) :
    ofLine? line = some ⟨String.ofList path⟩ := by
  obtain ⟨indented, parted, apart, spelt, trailed⟩ := declares
  have quote : isBlank '"' = false := by decide
  have unquoted {char : Char} {place : Option Char} (plain : place ≠ some '"')
      (found : char ∈ place) : (char == '"') = false :=
    beq_false_of_ne fun same => plain (same ▸ found)
  have opens : ∀ char ∈ path.head?, (char == '"') = false := fun _ => unquoted valid.unquoted.1
  have ends : ∀ char ∈ path.getLast?, (char == '"') = false := fun _ => unquoted valid.unquoted.2
  cases spelt with
  | bare =>
      have trimmed := trimWhile_append (List.forall_mem_nil _) (List.forall_mem_nil _) opens ends
      rw [List.append_nil, List.nil_append] at trimmed
      rw [ofLine?_directive indented parted apart valid.nonempty
        (fun char found => valid.visible char (List.mem_of_mem_head? found))
        (fun char found => valid.visible char (List.mem_of_getLast? found)) trailed, trimmed,
        if_neg (by simpa using valid.nonempty)]
  | quoted =>
      have single : ∀ char ∈ ['"'], (char == '"') = true := by simp
      have trimmed : trimWhile (· == '"') ('"' :: (path ++ ['"'])) = path :=
        trimWhile_append single single opens ends
      rw [ofLine?_directive indented parted apart (by simp) (by simp [quote])
        (by simp [List.getLast?_cons, quote]) trailed, trimmed,
        if_neg (by simpa using valid.nonempty)]

/-- A remark behind a directive is read as a part of the path. -/
theorem ofLine?_noted
    {path line line' : List Char}
    (valid : IsModulePath path)
    (declares : Declares path line)
    (noted : Noted line line') :
    ∃ front back, ofLine? line' = some ⟨String.ofList (front ++ '/' :: '/' :: back)⟩ := by
  obtain ⟨indented, parted, apart, spelt, trailed⟩ := declares
  obtain ⟨noteParted, words⟩ := noted
  rename_i indent gap written trail noteGap
  -- The words without the blanks at their end.
  obtain ⟨blanks, rest, reversed, blank, visible⟩ := exists_blanks words.reverse
  have cut : words = rest.reverse ++ blanks.reverse := by
    rw [← List.reverse_append, ← reversed, List.reverse_reverse]
  have slash : isBlank '/' = false := by decide
  have begins : ∃ first others, written = first :: others ∧ isBlank first = false := by
    cases spelt with
    | bare =>
        obtain ⟨first, others, same⟩ := List.exists_cons_of_ne_nil valid.nonempty
        exact ⟨first, others, same, valid.visible first (same ▸ List.mem_cons_self)⟩
    | quoted => exact ⟨_, _, rfl, by decide⟩
  obtain ⟨first, others, rfl, opens⟩ := begins
  have ends : ∀ char ∈ ('/' :: '/' :: rest.reverse).getLast?, isBlank char = false := by
    intro char found
    cases rest with
    | nil => cases found; exact slash
    | cons last front =>
        rw [List.reverse_cons, ← List.cons_append, ← List.cons_append,
          List.getLast?_append_of_ne_nil _ (by simp)] at found
        cases found
        exact visible last rfl
  let text := (first :: others) ++ (trail ++ (noteGap ++ '/' :: '/' :: rest.reverse))
  have shape : (indent ++ ("module".toList ++ (gap ++ ((first :: others) ++ trail)))) ++
        (noteGap ++ '/' :: '/' :: words) =
      indent ++ ("module".toList ++ (gap ++ (text ++ blanks.reverse))) := by
    simp [text, cut]
  have parts : text = ((first :: others) ++ (trail ++ noteGap)) ++ '/' :: '/' :: rest.reverse := by
    simp [text]
  have nonempty : text ≠ [] := by simp [text]
  have begun : ∀ char ∈ text.head?, isBlank char = false := by simp [text, opens]
  have ended : ∀ char ∈ text.getLast?, isBlank char = false := by
    rw [parts, List.getLast?_append_of_ne_nil _ (by simp)]
    exact ends
  have read := ofLine?_directive indented parted apart nonempty begun ended
    fun char present => blank char (List.mem_reverse.1 present)
  have noQuote : ('/' == '"') = false := by decide
  obtain ⟨front, back, trimmed⟩ := exists_trimWhile_eq (· == '"') noQuote noQuote
    ((first :: others) ++ (trail ++ noteGap)) rest.reverse
  refine ⟨front, back, ?_⟩
  rw [shape, read, parts, trimmed, if_neg (by simp)]

/-! ## The path of a text -/

/-- Modules with different paths give every package different import paths. -/
theorem importPath_inj
    {mod other : Module}
    {dir : Path} :
    mod.importPath dir = other.importPath dir ↔ mod = other := by
  constructor
  · intro same
    obtain ⟨path⟩ := mod
    obtain ⟨path'⟩ := other
    simp only [importPath] at same
    split at same
    · rw [same]
    · simpa [String.append_assoc, ← String.toList_inj] using same
  · rintro rfl
    rfl

/-- Remarks around the directive leave the module as it is, and with it the import path of every
package and the name of the project.  A remark behind the directive changes the import path of every
package. -/
theorem parse?_commented
    {text text' : String}
    {path line line' : List Char}
    {front front' back back' : List (List Char)}
    (valid : IsModulePath path)
    (declares : Declares path line)
    (others : ∀ other ∈ front, firstWord other ≠ "module".toList)
    (reads : lines text.toList = front ++ line :: back)
    (above : Commented front front')
    (own : line' = line ∨ Noted line line')
    (readsToo : lines text'.toList = front' ++ line' :: back') :
    parse? text = some ⟨String.ofList path⟩ ∧
      ∃ mod, parse? text' = some mod ∧
        (mod = ⟨String.ofList path⟩ ↔ line' = line) ∧
        (∀ dir, mod.importPath dir = importPath ⟨String.ofList path⟩ dir ↔ line' = line) ∧
        (line' = line -> mod.name = name ⟨String.ofList path⟩) := by
  have first := ofLine?_declares valid declares
  have othersToo := above.firstWord_ne others
  refine ⟨?_, ?_⟩
  · rw [parse?, reads, findSome?_behind others first]
  simp only [importPath_inj, forall_const]
  rcases own with rfl | noted
  · refine ⟨⟨String.ofList path⟩, ?_, by simp⟩
    rw [parse?, readsToo, findSome?_behind othersToo first]
  · obtain ⟨before, behind, second⟩ := ofLine?_noted valid declares noted
    have longer : line' ≠ line := by
      obtain ⟨_, words⟩ := noted
      intro same
      simpa using congrArg List.length same
    have other : (⟨String.ofList (before ++ '/' :: '/' :: behind)⟩ : Module) ≠
        ⟨String.ofList path⟩ := fun same =>
      valid.noRemark ⟨before, behind, by simpa using congrArg (fun mod => mod.path.toList) same⟩
    have found : parse? text' = some ⟨String.ofList (before ++ '/' :: '/' :: behind)⟩ := by
      rw [parse?, readsToo, findSome?_behind othersToo second]
    exact ⟨_, found, iff_of_false other longer, iff_of_false other longer,
      fun same => absurd same longer⟩

/-- Remarks above, behind and below everything but a quoted directive leave its path alone. -/
theorem parse?_commented_quoted :
    parse? "go 1.21\r\n\tmodule \"a.b/c\" \n" = some ⟨"a.b/c"⟩ ∧
      ∃ mod, parse? "// module x\ngo 1.21 //\r\n\tmodule \"a.b/c\" \n// c\n" = some mod ∧
        (mod = ⟨"a.b/c"⟩ ↔ "\tmodule \"a.b/c\" ".toList = "\tmodule \"a.b/c\" ".toList) ∧
        (∀ dir, mod.importPath dir = importPath ⟨"a.b/c"⟩ dir ↔
          "\tmodule \"a.b/c\" ".toList = "\tmodule \"a.b/c\" ".toList) ∧
        ("\tmodule \"a.b/c\" ".toList = "\tmodule \"a.b/c\" ".toList ->
          mod.name = name ⟨"a.b/c"⟩) := by
  have visible : "a.b/c".toList.all (isBlank · == false) = true := by decide
  have valid : IsModulePath "a.b/c".toList :=
    ⟨by decide, fun char present => beq_iff_eq.1 (List.all_eq_true.1 visible char present),
      by decide, by decide⟩
  have noBlank : IsBlanks [] := List.forall_mem_nil _
  have blank : IsBlanks [' '] := List.forall_mem_singleton.2 (by decide)
  have tab : IsBlanks ['\t'] := List.forall_mem_singleton.2 (by decide)
  have declares : Declares "a.b/c".toList "\tmodule \"a.b/c\" ".toList :=
    .of_eq tab blank (by decide) .quoted blank (by decide)
  have above : Commented ["go 1.21".toList] ["// module x".toList, "go 1.21 //".toList] :=
    .add (.of_eq noBlank " module x".toList (by decide))
      (.note (.of_eq blank [] (by decide)) .nil)
  have read : lines "go 1.21\r\n\tmodule \"a.b/c\" \n".toList =
      ["go 1.21".toList] ++ "\tmodule \"a.b/c\" ".toList :: [] := by
    decide
  have readToo : lines "// module x\ngo 1.21 //\r\n\tmodule \"a.b/c\" \n// c\n".toList =
      ["// module x".toList, "go 1.21 //".toList] ++
        "\tmodule \"a.b/c\" ".toList :: ["// c".toList] := by
    decide
  have result := parse?_commented valid declares (by decide) read above (.inl rfl) readToo
  rwa [String.ofList_toList] at result

/-- A remark behind the directive is a part of every import path. -/
theorem remark_behind_directive_imported :
    Declares "example.com/shop".toList "module example.com/shop".toList ∧
      Noted "module example.com/shop".toList "module example.com/shop // the shop".toList ∧
      parse? "module example.com/shop\n" = some ⟨"example.com/shop"⟩ ∧
      parse? "module example.com/shop // the shop\n" = some ⟨"example.com/shop // the shop"⟩ ∧
      importPath ⟨"example.com/shop // the shop"⟩ ⟨"config"⟩ =
        "example.com/shop // the shop/config" := by
  have noBlank : IsBlanks [] := List.forall_mem_nil _
  have blank : IsBlanks [' '] := List.forall_mem_singleton.2 (by decide)
  have declares : Declares "example.com/shop".toList "module example.com/shop".toList :=
    .of_eq noBlank blank (by decide) .bare noBlank (by decide +kernel)
  have noted : Noted "module example.com/shop".toList
      "module example.com/shop // the shop".toList :=
    .of_eq blank " the shop".toList (by decide +kernel)
  exact ⟨declares, noted, by decide +kernel, by decide +kernel, by decide +kernel⟩

end Module
end Go
end ConfigWiring
