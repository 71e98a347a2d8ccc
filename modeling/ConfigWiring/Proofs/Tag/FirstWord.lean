import ConfigWiring.Proofs.Tag.Occurrence
import Mathlib.Data.Nat.Find

/-!
# The first word like a marker

Of all the occurrences of a marker as a word of its own the one with the fewest characters in front
of it decides, and the text behind that one says what is found.  Neither an occurrence that is no
word, even if it overlaps the first one that is, nor anything behind the list of parameters counts.
-/

namespace ConfigWiring
namespace Tag
namespace Marker

open Text

/-! ## What the text behind a marker says -/

/-- A text that ends before a list is closed, perhaps between quotes. -/
def Endless (text : List Char) : Prop :=
  Inside text ∨
    ∃ front body value stop, text = front ++ '"' :: (body ++ stop) ∧ Inside front ∧
      Params.Body body value ∧ (stop = [] ∨ stop = ['\\'])

/-- The texts behind a marker, with what is found where they stand there. -/
inductive Says : List Char -> Except SyntaxError MarkerMatch -> Prop
  /-- No parenthesis opens behind spaces and tabs. -/
  | bare {gap rest : List Char} (gapped : IsGap gap)
      (ends : ∀ char ∈ rest.head?, char ≠ ' ' ∧ char ≠ '\t' ∧ char ≠ '(') :
      Says (gap ++ rest) (.ok (.present ""))
  /-- A list opens there and is closed. -/
  | listed {gap text : List Char} (gapped : IsGap gap) (inside : Inside text) (rest : List Char) :
      Says (gap ++ '(' :: (text ++ ')' :: rest)) (.ok (.present (String.ofList text)))
  /-- A list opens there and is never closed. -/
  | unclosed {gap rest : List Char} (gapped : IsGap gap) (endless : Endless rest) :
      Says (gap ++ '(' :: rest) (.error .unclosedParen)

/-- A quoted text that is not closed closes no list. -/
theorem untilParen_body_eq_none
    {body value stop : List Char}
    (quoted : Params.Body body value)
    (ends : stop = [] ∨ stop = ['\\']) :
    untilParen true (body ++ stop) = none := by
  induction quoted with
  | nil => rcases ends with rfl | rfl <;> rfl
  | @plain char text value noQuote noSlash _ inductionHypothesis =>
      have goesOn : (char != '"') = true := by simpa using noQuote
      rw [List.cons_append, untilParen.eq_4 _ _ (fun _ _ same _ => noSlash same), goesOn,
        inductionHypothesis]
      rfl
  | escape char _ inductionHypothesis =>
      rw [List.cons_append, List.cons_append, untilParen, inductionHypothesis]
      rfl

theorem Endless.untilParen_eq
    {text : List Char}
    (endless : Endless text) :
    untilParen false text = none := by
  rcases endless with inside | ⟨front, body, value, stop, rfl, inside, quoted, ends⟩
  · have passed := inside.untilParen_append []
    rwa [List.append_nil] at passed
  · rw [inside.untilParen_append, untilParen_quote, untilParen_body_eq_none quoted ends]
    rfl

/-- Every text closes a list somewhere, or ends before it does. -/
theorem inside_or_endless (text : List Char) :
    (∃ front rest, text = front ++ ')' :: rest ∧ Inside front) ∨ Endless text := by
  match text with
  | [] => exact .inr (.inl .nil)
  | char :: others =>
      by_cases paren : char = ')'
      · exact .inl ⟨[], others, by rw [paren]; rfl, .nil⟩
      by_cases quote : char = '"'
      · subst quote
        obtain ⟨body, value, rest, rfl, quoted, ends⟩ := Params.exists_body others
        rcases ends with none | slash | ⟨after, rfl⟩
        · exact .inr (.inr ⟨[], body, value, rest, rfl, .nil, quoted, .inl none⟩)
        · exact .inr (.inr ⟨[], body, value, rest, rfl, .nil, quoted, .inr slash⟩)
        · rcases inside_or_endless after with further | further
          · obtain ⟨front, rest, rfl, inside⟩ := further
            exact .inl ⟨'"' :: (body ++ '"' :: front), rest, by simp, .quoted quoted inside⟩
          · rcases further with inside | ⟨front, inner, value', stop, rfl, inside, last, ends⟩
            · exact .inr (.inl (.quoted quoted inside))
            · exact .inr (.inr ⟨'"' :: (body ++ '"' :: front), inner, value', stop, by simp,
                .quoted quoted inside, last, ends⟩)
      · rcases inside_or_endless others with further | further
        · obtain ⟨front, rest, rfl, inside⟩ := further
          exact .inl ⟨char :: front, rest, rfl, .plain paren quote inside⟩
        · rcases further with inside | ⟨front, body, value, stop, rfl, inside, last, ends⟩
          · exact .inr (.inl (.plain paren quote inside))
          · exact .inr (.inr ⟨char :: front, body, value, stop, rfl, .plain paren quote inside,
              last, ends⟩)
termination_by text.length
decreasing_by
  all_goals subst_vars
  all_goals simp only [List.length_append, List.length_cons]
  all_goals omega

/-- What is found where a text stands behind a marker. -/
def outcomeOf (behind : List Char) : Except SyntaxError MarkerMatch :=
  (paramsBehind behind).map fun text => .present (String.ofList text)

theorem Says.outcomeOf_eq
    {behind : List Char}
    {outcome : Except SyntaxError MarkerMatch}
    (told : Says behind outcome) :
    outcomeOf behind = outcome := by
  have opens (rest : List Char) : ∀ char ∈ ('(' :: rest).head?, char ≠ ' ' ∧ char ≠ '\t' := by
    rintro char ⟨⟩
    decide
  cases told with
  | @bare gap rest gapped ends =>
      have dropped := dropWhile_gap gapped fun char first =>
        ⟨(ends char first).1, (ends char first).2.1⟩
      unfold outcomeOf paramsBehind
      rw [dropped]
      split
      · next inside => exact absurd rfl (ends '(' rfl).2.2
      · rfl
  | @listed gap text gapped inside rest =>
      unfold outcomeOf paramsBehind
      rw [dropWhile_gap gapped (opens _)]
      simp only [inside.untilParen_eq]
      rfl
  | @unclosed gap rest gapped endless =>
      unfold outcomeOf paramsBehind
      rw [dropWhile_gap gapped (opens _)]
      simp only [endless.untilParen_eq]
      rfl

/-- Every text says something. -/
theorem exists_told (behind : List Char) : ∃ outcome, Says behind outcome := by
  let isGap (char : Char) : Bool := char == ' ' || char == '\t'
  have gapped : IsGap (behind.takeWhile isGap) := fun char present => by
    simpa [isGap] using List.all_eq_true.1 List.all_takeWhile char present
  have stops := List.head?_dropWhile_not isGap behind
  rw [← List.takeWhile_append_dropWhile (p := isGap) (l := behind)]
  cases rest : behind.dropWhile isGap with
  | nil => exact ⟨_, .bare gapped (by simp)⟩
  | cons char others =>
      by_cases opens : char = '('
      · subst opens
        rcases inside_or_endless others with ⟨text, behind, rfl, inside⟩ | endless
        · exact ⟨_, .listed gapped inside behind⟩
        · exact ⟨_, .unclosed gapped endless⟩
      · refine ⟨_, .bare gapped ?_⟩
        rintro _ ⟨⟩
        rw [rest] at stops
        have other : char ≠ ' ' ∧ char ≠ '\t' := by simpa [isGap] using stops
        exact ⟨other.1, other.2, opens⟩

/-- A text says one thing. -/
theorem outcomeOf_eq_iff
    {behind : List Char}
    {outcome : Except SyntaxError MarkerMatch} :
    outcomeOf behind = outcome ↔ Says behind outcome := by
  refine ⟨fun found => ?_, Says.outcomeOf_eq⟩
  obtain ⟨outcome, told⟩ := exists_told behind
  rwa [← found, told.outcomeOf_eq]

/-! ## The first occurrence -/

/-- A marker stands in a text as a word of its own, and nowhere with fewer characters in front of
it. -/
structure IsFirst (marker text before after : List Char) : Prop where
  /-- The marker stands between the two parts of the text. -/
  split : text = before ++ marker ++ after
  /-- It is a word of its own there. -/
  word : IsWord true before after
  /-- Wherever else it is a word of its own, no fewer characters are in front of it. -/
  least : ∀ other rest, text = other ++ marker ++ rest -> IsWord true other rest ->
    before.length ≤ other.length

/-- Where a marker is a word at all, it is one for the first time somewhere. -/
theorem exists_isFirst
    {marker text : List Char}
    (present : HasWord marker text) :
    ∃ before after, IsFirst marker text before after := by
  classical
  have somewhere : ∃ count before after, before.length = count ∧ text = before ++ marker ++ after ∧
      IsWord true before after := by
    obtain ⟨before, after, split, word⟩ := present
    exact ⟨_, before, after, rfl, split, word⟩
  obtain ⟨before, after, length, split, word⟩ := Nat.find_spec somewhere
  refine ⟨before, after, split, word, fun other rest same elsewhere => ?_⟩
  rw [length]
  exact Nat.find_min' somewhere ⟨other, rest, rfl, same, elsewhere⟩

/-- What the search gives is the text behind an occurrence. -/
theorem exists_of_behindFirst
    {marker text after : List Char}
    {mayBegin : Bool}
    (found : behindFirst marker mayBegin text = some after) :
    ∃ before, text = before ++ marker ++ after ∧ IsWord mayBegin before after := by
  induction text generalizing mayBegin with
  | nil => cases found
  | cons char text inductionHypothesis =>
      rw [behindFirst] at found
      split at found
      · next takes =>
          obtain ⟨rest, same, word⟩ := (takes_iff marker (char :: text) mayBegin).1 takes
          rw [same, List.drop_left] at found
          cases found
          exact ⟨[], same, word⟩
      · obtain ⟨before, rfl, word⟩ := inductionHypothesis found
        exact ⟨char :: before, rfl, (isWord_cons mayBegin char before after).2 word⟩

/-- The search gives the text behind the first occurrence. -/
theorem isFirst_iff
    {marker text before after : List Char}
    (nonempty : marker ≠ []) :
    IsFirst marker text before after ↔
      text = before ++ marker ++ after ∧ behindFirst marker true text = some after := by
  have finds {before after : List Char} (first : IsFirst marker text before after) :
      behindFirst marker true text = some after := by
    obtain ⟨rfl, word, least⟩ := first
    exact behindFirst_append nonempty word least
  constructor
  · exact fun first => ⟨first.split, finds first⟩
  · rintro ⟨split, found⟩
    obtain ⟨other, same, word⟩ := exists_of_behindFirst found
    obtain ⟨front, back, first⟩ := exists_isFirst ⟨other, after, same, word⟩
    obtain rfl : back = after := Option.some.inj ((finds first).symm.trans found)
    obtain rfl : front = before := by
      have spelt := first.split.symm.trans split
      rwa [List.append_assoc, List.append_assoc, List.append_left_inj] at spelt
    exact first

/-- **The first word decides.**  Nothing is found exactly if the marker is a word nowhere.  Where it
is a word, it is one for the first time somewhere, and then the text behind that occurrence alone
says what is found: the text of a list that opens there behind spaces and tabs, an error if that
list is never closed, and the empty text if none opens. -/
theorem find_decides_first_word
    {doc marker : String}
    (nonempty : marker ≠ "") :
    (find doc marker = .ok .absent ↔ ¬HasWord marker.toList doc.toList) ∧
      (HasWord marker.toList doc.toList ->
        ∃ before after, IsFirst marker.toList doc.toList before after) ∧
      ∀ before after, IsFirst marker.toList doc.toList before after ->
        ∀ outcome, find doc marker = outcome ↔ Says after outcome := by
  have letters : marker.toList ≠ [] := fun none => nonempty (String.toList_eq_nil_iff.1 none)
  have finds {before after : List Char} (first : IsFirst marker.toList doc.toList before after) :
      find doc marker = outcomeOf after := by
    rw [find, if_neg (by simpa using nonempty), ((isFirst_iff letters).1 first).2]
    rfl
  refine ⟨⟨fun absent present => ?_, fun absent => ?_⟩, exists_isFirst, fun before after first
    outcome => by rw [finds first, outcomeOf_eq_iff]⟩
  · obtain ⟨before, after, first⟩ := exists_isFirst present
    rw [finds first, outcomeOf_eq_iff] at absent
    cases absent
  · have missed : behindFirst marker.toList true doc.toList = none := by
      cases found : behindFirst marker.toList true doc.toList with
      | none => rfl
      | some after =>
          obtain ⟨before, split, word⟩ := exists_of_behindFirst found
          exact absurd ⟨before, after, split, word⟩ absent
    rw [find, if_neg (by simpa using nonempty), missed]

/-- A marker that overlaps an occurrence of itself which is no word, with a closing parenthesis and
a quote between the quotes of its list, in front of a further occurrence. -/
theorem find_decides_first_word_of_overlap :
    let marker := "a a"
    let doc := "xa a a\t (k:\"v)\\\"\") a a("
    marker ≠ "" ∧
      IsFirst marker.toList doc.toList "xa ".toList "\t (k:\"v)\\\"\") a a(".toList ∧
      find doc marker = .ok (.present "k:\"v)\\\"\"") := by
  intro marker doc
  have nonempty : marker ≠ "" := by decide
  have first : IsFirst marker.toList doc.toList "xa ".toList "\t (k:\"v)\\\"\") a a(".toList :=
    (isFirst_iff (by decide)).2 (by decide)
  have inside : Inside "k:\"v)\\\"\"".toList :=
    .plain (by decide) (by decide) <| .plain (by decide) (by decide) <|
      .quoted (.plain (by decide) (by decide) <| .plain (by decide) (by decide) <| .escape '"' .nil)
        .nil
  have gapped : IsGap "\t ".toList := by simp [IsGap]
  exact ⟨nonempty, first,
    ((find_decides_first_word nonempty).2.2 _ _ first _).2 (.listed gapped inside " a a(".toList)⟩

end Marker
end Tag
end ConfigWiring
