import ConfigWiring.Proofs.Tag.Grammar
import ConfigWiring.Tag.Marker

/-!
# Markers in front of printed parameters

A search finds the first occurrence of a marker as a word of its own.  Where parameters in
parentheses follow it, the closing parenthesis is found behind all of them, since the search
for it and the reading of the values agree on where every quoted value ends.
-/

namespace ConfigWiring
namespace Tag

open Text

namespace Marker

/-- What stands between two texts is a word of its own.  The flag tells whether a word may
begin where the first text begins. -/
def IsWord (mayBegin : Bool) (before after : List Char) : Prop :=
  (before.getLast?.map isBlank).getD mayBegin = true ∧ endsWord after = true

/-- A marker occurs in a text as a word of its own. -/
def HasWord (marker text : List Char) : Prop :=
  ∃ before after, text = before ++ marker ++ after ∧ IsWord true before after

/-! ## Occurrences -/

/-- Behind a first character a word may begin exactly if that character is blank. -/
theorem isWord_cons
    (mayBegin : Bool)
    (char : Char)
    (before after : List Char) :
    IsWord mayBegin (char :: before) after ↔ IsWord (isBlank char) before after := by
  unfold IsWord
  cases before with
  | nil => simp
  | cons next before => rw [List.getLast?_cons_cons, List.getLast?_cons, Option.map_some]; rfl

/-- The search takes a marker at the start of a text exactly if it is a word there. -/
theorem takes_iff
    (marker text : List Char)
    (mayBegin : Bool) :
    (mayBegin && marker.isPrefixOf text && endsWord (text.drop marker.length)) = true ↔
      ∃ after, text = marker ++ after ∧ IsWord mayBegin [] after := by
  simp only [Bool.and_eq_true, List.isPrefixOf_iff_prefix, IsWord]
  constructor
  · rintro ⟨⟨begins, after, rfl⟩, ends⟩
    rw [List.drop_left] at ends
    exact ⟨after, rfl, begins, ends⟩
  · rintro ⟨after, rfl, begins, ends⟩
    rw [List.drop_left]
    exact ⟨⟨begins, after, rfl⟩, ends⟩

/-- The search gives the text behind an occurrence that no other one precedes. -/
theorem behindFirst_append
    {marker before after : List Char}
    {mayBegin : Bool}
    (nonempty : marker ≠ [])
    (word : IsWord mayBegin before after)
    (first : ∀ other rest, before ++ marker ++ after = other ++ marker ++ rest ->
      IsWord mayBegin other rest -> before.length ≤ other.length) :
    behindFirst marker mayBegin (before ++ marker ++ after) = some after := by
  induction before generalizing mayBegin with
  | nil =>
      have takes := (takes_iff marker (marker ++ after) mayBegin).2 ⟨after, rfl, word⟩
      obtain ⟨char, rest, begins⟩ := List.exists_cons_of_ne_nil nonempty
      rw [List.nil_append]
      rw [List.drop_left] at takes
      rw [begins, List.cons_append, behindFirst, ← List.cons_append, ← begins, List.drop_left]
      exact if_pos takes
  | cons char before inductionHypothesis =>
      rw [List.cons_append, List.cons_append, behindFirst, if_neg]
      · apply inductionHypothesis ((isWord_cons mayBegin char before after).1 word)
        intro other rest same elsewhere
        have further := first (char :: other) rest (by simpa using same)
          ((isWord_cons mayBegin char other rest).2 elsewhere)
        simpa using further
      · intro takes
        obtain ⟨rest, same, elsewhere⟩ :=
          (takes_iff marker (char :: (before ++ marker ++ after)) mayBegin).1 takes
        have further := first [] rest (by simpa using same) elsewhere
        simp at further

/-- The search finds nothing only where the marker is no word anywhere. -/
theorem not_isWord_of_behindFirst
    {marker text : List Char}
    {mayBegin : Bool}
    (nonempty : marker ≠ [])
    (missed : behindFirst marker mayBegin text = none)
    (before after : List Char)
    (same : text = before ++ marker ++ after) :
    ¬IsWord mayBegin before after := by
  intro word
  induction text generalizing mayBegin before with
  | nil =>
      exact absurd (List.append_eq_nil_iff.1 (List.append_eq_nil_iff.1 same.symm).1).2 nonempty
  | cons char text inductionHypothesis =>
      rw [behindFirst] at missed
      split at missed
      · cases missed
      · next skips =>
          cases before with
          | nil => exact skips ((takes_iff _ _ _).2 ⟨after, same, word⟩)
          | cons other before =>
              obtain ⟨rfl, rest⟩ := List.cons.inj same
              exact inductionHypothesis missed before rest ((isWord_cons _ _ _ _).1 word)

theorem not_hasWord_of_behindFirst
    {marker text : List Char}
    (nonempty : marker ≠ [])
    (missed : behindFirst marker true text = none) :
    ¬HasWord marker text := by
  rintro ⟨before, after, same, word⟩
  exact not_isWord_of_behindFirst nonempty missed before after same word

/-- Behind a text that ends in a blank and holds no word like the marker, no occurrence of the
marker begins within that text: none can reach over the blank. -/
theorem length_le_of_not_hasWord
    {marker before after other rest : List Char}
    (whole : ∀ char ∈ marker, isBlank char = false)
    (ends : ∀ char ∈ before.getLast?, isBlank char = true)
    (free : ¬HasWord marker before)
    (same : before ++ marker ++ after = other ++ marker ++ rest)
    (word : IsWord true other rest) :
    before.length ≤ other.length := by
  rw [List.append_assoc, eq_comm, List.append_eq_append_iff] at same
  rcases same with ⟨middle, inside, restEq⟩ | ⟨beyond, reaches, _⟩
  · -- The occurrence lies within the text, and what follows it there ends the word as well.
    refine absurd ⟨other, middle, inside, word.1, ?_⟩ free
    have ended := word.2
    rw [restEq] at ended
    cases middle with
    | nil => rfl
    | cons char middle => exact ended
  · rw [List.append_eq_append_iff] at reaches
    rcases reaches with ⟨part, split, markerEq⟩ | ⟨further, split, _⟩
    · cases last : part.getLast? with
      | none =>
          rw [List.getLast?_eq_none_iff] at last
          simp [split, last]
      | some char =>
          have inMarker : char ∈ marker := by
            rw [markerEq]
            exact List.mem_append_left _ (List.mem_of_getLast? last)
          have blank : isBlank char = true := by
            apply ends
            simp [split, List.getLast?_append, last]
          rw [whole char inMarker] at blank
          cases blank
    · simp [split]

/-! ## Parentheses -/

/-- A text that may stand between the parentheses of a list: every parenthesis that closes is
between quotes, where a backslash takes the next character along. -/
inductive Inside : List Char -> Prop
  | nil : Inside []
  /-- A character that neither closes the list nor opens a quote. -/
  | plain {char : Char} {text : List Char} (noParen : char ≠ ')') (noQuote : char ≠ '"')
      (rest : Inside text) : Inside (char :: text)
  /-- A quoted text. -/
  | quoted {body value text : List Char} (quoted : Params.Body body value) (rest : Inside text) :
      Inside ('"' :: (body ++ '"' :: text))

/-- A quoted text is passed up to its closing quote. -/
theorem untilParen_body
    {body value : List Char}
    (quoted : Params.Body body value)
    (rest : List Char) :
    untilParen true (body ++ '"' :: rest) =
      (untilParen false rest).map fun text => body ++ '"' :: text := by
  induction quoted with
  | nil => rfl
  | @plain char text value noQuote noSlash _ inductionHypothesis =>
      have goesOn : (char != '"') = true := by simpa using noQuote
      rw [List.cons_append, untilParen.eq_4 _ _ (fun _ _ same _ => noSlash same), goesOn,
        inductionHypothesis, Option.map_map]
      rfl
  | escape char _ inductionHypothesis =>
      rw [List.cons_append, List.cons_append, untilParen, inductionHypothesis, Option.map_map]
      rfl

/-- A quote opens in front of a quoted text. -/
theorem untilParen_quote (rest : List Char) :
    untilParen false ('"' :: rest) = (untilParen true rest).map ('"' :: ·) := rfl

/-- A text without an end of the list is passed. -/
theorem Inside.untilParen_append
    {text : List Char}
    (inside : Inside text)
    (rest : List Char) :
    untilParen false (text ++ rest) = (untilParen false rest).map (text ++ ·) := by
  induction inside with
  | nil => simp
  | @plain char text noParen noQuote _ inductionHypothesis =>
      rw [List.cons_append, untilParen, if_neg noParen, beq_false_of_ne noQuote,
        inductionHypothesis, Option.map_map]
      rfl
  | @quoted body value text quoted _ inductionHypothesis =>
      have split : '"' :: (body ++ '"' :: text) ++ rest =
          '"' :: (body ++ '"' :: (text ++ rest)) := by
        simp
      rw [split, untilParen_quote, untilParen_body quoted, inductionHypothesis, Option.map_map,
        Option.map_map]
      congr 1
      funext others
      simp

theorem Inside.untilParen_eq
    {text : List Char}
    (inside : Inside text)
    (rest : List Char) :
    untilParen false (text ++ ')' :: rest) = some text := by
  have closes : untilParen false (')' :: rest) = some [] := rfl
  rw [inside.untilParen_append, closes, Option.map_some, List.append_nil]

theorem Inside.append
    {front back : List Char}
    (inside : Inside front)
    (others : Inside back) :
    Inside (front ++ back) := by
  induction inside with
  | nil => exact others
  | plain noParen noQuote _ inductionHypothesis => exact .plain noParen noQuote inductionHypothesis
  | @quoted body value text quoted _ inductionHypothesis =>
      have split : '"' :: (body ++ '"' :: text) ++ back = '"' :: (body ++ '"' :: (text ++ back)) := by
        simp
      exact split ▸ .quoted quoted inductionHypothesis

theorem inside_of_forall
    {text : List Char}
    (harmless : ∀ char ∈ text, char ≠ ')' ∧ char ≠ '"') :
    Inside text := by
  induction text with
  | nil => exact .nil
  | cons char text inductionHypothesis =>
      obtain ⟨⟨noParen, noQuote⟩, others⟩ := List.forall_mem_cons.1 harmless
      exact .plain noParen noQuote (inductionHypothesis others)

/-- A key of printed parameters behind a marker: it reads as itself, and does not close the
list. -/
def IsKey (key : String) : Prop :=
  Params.IsKey key ∧ ')' ∉ key.toList

instance (key : String) : Decidable (IsKey key) := inferInstanceAs (Decidable (_ ∧ _))

theorem inside_writePair
    {pair : String × String}
    (key : IsKey pair.1) :
    Inside (Params.writePair pair) := by
  obtain ⟨⟨_, fits⟩, unclosing⟩ := key
  have harmless : ∀ char ∈ pair.1.toList ++ [':'], char ≠ ')' ∧ char ≠ '"' := by
    intro char present
    rcases List.mem_append.1 present with inKey | colon
    · refine ⟨fun same => unclosing (same ▸ inKey), fun same => ?_⟩
      have fit := fits char inKey
      rw [same] at fit
      cases fit
    · rw [List.mem_singleton.1 colon]
      decide
  have split : Params.writePair pair =
      (pair.1.toList ++ [':']) ++ '"' :: (Params.escapeValue pair.2.toList ++ '"' :: []) := by
    simp [Params.writePair]
  rw [split]
  exact (inside_of_forall harmless).append (.quoted (Params.body_escapeValue _) .nil)

/-- Printed parameters may stand between parentheses. -/
theorem inside_printed
    {pairs : List (String × String)}
    {text : List Char}
    (printed : Params.Printed pairs text)
    (keys : ∀ pair ∈ pairs, IsKey pair.1) :
    Inside text := by
  induction printed with
  | none => exact .nil
  | last pair => exact inside_writePair (keys pair List.mem_cons_self)
  | @more pair next blanks text pairs _ blank others inductionHypothesis =>
      have harmless : ∀ char ∈ blanks, char ≠ ')' ∧ char ≠ '"' := by
        intro char present
        constructor <;> rintro rfl <;> exact absurd (blank _ present) (by decide)
      have rest := inductionHypothesis fun other present =>
        keys other (List.mem_cons_of_mem _ present)
      exact (inside_writePair (keys pair List.mem_cons_self)).append
        ((inside_of_forall harmless).append rest)

/-- A text of spaces and tabs, perhaps an empty one. -/
def IsGap (text : List Char) : Prop := ∀ char ∈ text, char = ' ' ∨ char = '\t'

/-- Spaces and tabs are passed up to a text that begins with neither. -/
theorem dropWhile_gap
    {gap rest : List Char}
    (gapped : IsGap gap)
    (ends : ∀ char ∈ rest.head?, char ≠ ' ' ∧ char ≠ '\t') :
    (gap ++ rest).dropWhile (fun char => char == ' ' || char == '\t') = rest := by
  rw [List.dropWhile_append_of_pos fun char present => by simpa using gapped char present]
  cases rest with
  | nil => rfl
  | cons char rest =>
      obtain ⟨noSpace, noTab⟩ := ends char rfl
      exact List.dropWhile_cons_of_neg (by simp [noSpace, noTab])

/-- The parameter text behind a marker is what was printed between the parentheses. -/
theorem paramsBehind_printed
    {pairs : List (String × String)}
    {gap text : List Char}
    (gapped : ∀ char ∈ gap, char = ' ' ∨ char = '\t')
    (printed : Params.Printed pairs text)
    (keys : ∀ pair ∈ pairs, IsKey pair.1)
    (rest : List Char) :
    paramsBehind (gap ++ '(' :: (text ++ ')' :: rest)) = .ok text := by
  have opens : ∀ char ∈ ('(' :: (text ++ ')' :: rest)).head?, char ≠ ' ' ∧ char ≠ '\t' := by
    rintro char ⟨⟩
    decide
  unfold paramsBehind
  rw [dropWhile_gap gapped opens]
  simp only [(inside_printed printed keys).untilParen_eq]

/-! ## Printing and finding -/

/-- Parameters that are printed in parentheses behind a marker are found there as they were
printed, and read as the same pairs in the same order, where the marker has no blank, the text
in front of it holds no word like it and is empty or ends in a blank, and no key is empty or
holds a blank, a colon, a double quote or a closing parenthesis.  Printing what was read from
any text, and reading it again, gives the same. -/
theorem find_printed
    {marker before gap text : String}
    {pairs : List (String × String)}
    (after : String)
    (nonempty : marker ≠ "")
    (whole : ∀ char ∈ marker.toList, isBlank char = false)
    (ends : ∀ char ∈ before.toList.getLast?, isBlank char = true)
    (free : ¬HasWord marker.toList before.toList)
    (gapped : ∀ char ∈ gap.toList, char = ' ' ∨ char = '\t')
    (keys : ∀ pair ∈ pairs, IsKey pair.1)
    (printed : Params.Printed pairs text.toList) :
    find (before ++ marker ++ gap ++ "(" ++ text ++ ")" ++ after) marker = .ok (.present text) ∧
      Params.parse text = .ok ⟨pairs⟩ ∧
      ∀ source params again, Params.parse source = .ok params ->
        Params.Printed params.entries again.toList -> Params.parse again = .ok params := by
  refine ⟨?_, Params.parse_of_printed printed fun pair present => (keys pair present).1, ?_⟩
  · have letters : marker.toList ≠ [] := fun none => nonempty (String.toList_eq_nil_iff.1 none)
    have doc : (before ++ marker ++ gap ++ "(" ++ text ++ ")" ++ after).toList =
        before.toList ++ marker.toList ++
          (gap.toList ++ '(' :: (text.toList ++ ')' :: after.toList)) := by
      simp [String.toList_append]
    have word : IsWord true before.toList
        (gap.toList ++ '(' :: (text.toList ++ ')' :: after.toList)) := by
      constructor
      · cases last : before.toList.getLast? with
        | none => rfl
        | some char => simpa [last] using ends char last
      · cases first : gap.toList with
        | nil => rfl
        | cons char rest =>
            rcases gapped char (first ▸ List.mem_cons_self) with rfl | rfl <;> rfl
    have found := behindFirst_append letters word fun other rest same elsewhere =>
      length_le_of_not_hasWord whole ends free same elsewhere
    rw [find, if_neg (by simpa using nonempty), doc, found]
    simp only [paramsBehind_printed gapped printed keys, Except.map, String.ofList_toList]
  · intro source params again read rePrinted
    exact Params.parse_of_printed rePrinted (Params.isKey_of_parse read)

/-- A marker behind a longer word that begins like it, with two parameters of one key whose
values hold quotes, backslashes, parentheses and a line feed. -/
theorem find_printed_of_special_characters :
    let marker := "@app-cfg"
    let before := "like @app-cfgs\n"
    let pairs := [("a(", "x\")\\"), ("b", "\n(\\\""), ("a(", "")]
    let text := (Params.mk pairs).print
    let loose := "k : \"v\\\"\"\tk:\"\""
    marker ≠ "" ∧ (∀ char ∈ marker.toList, isBlank char = false) ∧
      (∀ char ∈ before.toList.getLast?, isBlank char = true) ∧
      ¬HasWord marker.toList before.toList ∧
      (∀ char ∈ " \t".toList, char = ' ' ∨ char = '\t') ∧
      (∀ pair ∈ pairs, IsKey pair.1) ∧
      Params.parse loose = .ok ⟨[("k", "v\""), ("k", "")]⟩ ∧
      find (before ++ marker ++ " \t" ++ "(" ++ text ++ ")" ++ " @app-cfg (") marker =
        .ok (.present text) ∧
      Params.parse text = .ok ⟨pairs⟩ ∧
      Params.parse (Params.mk [("k", "v\""), ("k", "")]).print =
        .ok ⟨[("k", "v\""), ("k", "")]⟩ := by
  intro marker before pairs text loose
  have nonempty : marker ≠ "" := by decide
  have whole : ∀ char ∈ marker.toList, isBlank char = false := by
    have none : marker.toList.any isBlank = false := by decide
    simpa using none
  have ends : ∀ char ∈ before.toList.getLast?, isBlank char = true := by
    intro char last
    have feed : before.toList.getLast? = some '\n' := by decide
    rw [feed, Option.mem_some_iff] at last
    subst last
    decide
  have free : ¬HasWord marker.toList before.toList :=
    not_hasWord_of_behindFirst (by decide) (by decide)
  have gapped : ∀ char ∈ " \t".toList, char = ' ' ∨ char = '\t' := by simp
  have keys : ∀ pair ∈ pairs, IsKey pair.1 := by decide
  have read : Params.parse loose = .ok ⟨[("k", "v\""), ("k", "")]⟩ := by
    have second : Params.readPairs "\tk:\"\"".toList =
        (Params.readPairs []).map (("k", "") :: ·) := by
      rw [Params.readPairs_eq]
      rfl
    have first : Params.readPairs "k : \"v\\\"\"\tk:\"\"".toList =
        (Params.readPairs "\tk:\"\"".toList).map (("k", "v\"") :: ·) := by
      rw [Params.readPairs_eq]
      rfl
    show (Params.readPairs "k : \"v\\\"\"\tk:\"\"".toList).map Params.mk = _
    rw [first, second, Params.readPairs_nil]
    rfl
  have printed (entries : List (String × String)) :
      Params.Printed entries (Params.mk entries).print.toList := by
    rw [Params.print, String.toList_ofList]
    exact Params.printed_writePairs entries
  obtain ⟨found, parsed, again⟩ := find_printed " @app-cfg (" nonempty whole ends free gapped
    keys (printed pairs)
  exact ⟨nonempty, whole, ends, free, gapped, keys, read, found, parsed,
    again loose _ _ read (printed _)⟩

end Marker
end Tag
end ConfigWiring
