import ConfigWiring.Proofs.Tag.Printing

/-!
# The grammar of tag parameters

The texts that are read are those of a grammar: pairs of a key, a colon and a quoted value, with
blanks in front of each part and behind the last pair.  Any other text goes on behind some pairs
with one that is malformed, and what is missing in this one is the error that is reported.
-/

namespace ConfigWiring
namespace Tag
namespace Params

open Text

/-! ## The grammar -/

/-- A text of blanks, perhaps an empty one. -/
def IsBlanks (text : List Char) : Prop := ∀ char ∈ text, isBlank char = true

/-- A text that may be a key: some characters, none of which is a colon, a quote or a blank. -/
def IsKeyText (text : List Char) : Prop :=
  text ≠ [] ∧ ∀ char ∈ text, char ≠ ':' ∧ char ≠ '"' ∧ isBlank char = false

/-- What may stand between quotes, with the value that it stands for. -/
inductive Body : List Char -> List Char -> Prop
  | nil : Body [] []
  /-- A character that stands for itself. -/
  | plain {char : Char} {text value : List Char} (noQuote : char ≠ '"') (noSlash : char ≠ '\\')
      (rest : Body text value) : Body (char :: text) (char :: value)
  /-- A backslash, which stands for the character behind it. -/
  | escape (char : Char) {text value : List Char} (rest : Body text value) :
      Body ('\\' :: char :: text) (char :: value)

/-- A text in front of a value: a key between blanks, a colon and blanks. -/
inductive Head : List Char -> String -> Prop
  | mk {before key between behind : List Char} (blankBefore : IsBlanks before)
      (isKey : IsKeyText key) (blankBetween : IsBlanks between) (blankBehind : IsBlanks behind) :
      Head (before ++ (key ++ (between ++ ':' :: behind))) (String.ofList key)

/-- The texts of pairs, one behind the other. -/
inductive Pairs : List Char -> List (String × String) -> Prop
  | nil : Pairs [] []
  | cons {head body value text : List Char} {key : String} {pairs : List (String × String)}
      (begins : Head head key) (quoted : Body body value) (rest : Pairs text pairs) :
      Pairs (head ++ '"' :: (body ++ '"' :: text)) ((key, String.ofList value) :: pairs)

/-- The texts of the grammar: pairs with blanks behind them. -/
def Spells (text : List Char) (pairs : List (String × String)) : Prop :=
  ∃ front blanks, text = front ++ blanks ∧ Pairs front pairs ∧ IsBlanks blanks

/-- A text goes on with neither a blank nor the given character. -/
def Lacks (char : Char) (text : List Char) : Prop :=
  ∀ next, text.head? = some next -> next ≠ char ∧ isBlank next = false

/-- The texts that begin with a malformed pair, with what is wrong with it. -/
inductive Malformed : List Char -> SyntaxError -> Prop
  /-- No key stands in front of a colon or a quote. -/
  | emptyKey {before rest : List Char} {next : Char} (blankBefore : IsBlanks before)
      (noKey : next = ':' ∨ next = '"') : Malformed (before ++ next :: rest) .emptyKey
  /-- Neither more of the key nor a colon stands behind the key. -/
  | missingColon {before key between rest : List Char} (blankBefore : IsBlanks before)
      (isKey : IsKeyText key) (blankBetween : IsBlanks between)
      (ends : between = [] -> ∀ next, rest.head? = some next -> next = '"')
      (lacks : Lacks ':' rest) :
      Malformed (before ++ (key ++ (between ++ rest))) (.missingColon (String.ofList key))
  /-- No quote stands behind the colon. -/
  | missingQuote {head rest : List Char} {key : String} (begins : Head head key)
      (lacks : Lacks '"' rest) : Malformed (head ++ rest) (.missingQuote key)
  /-- The text ends before the quote that would close the value. -/
  | unterminatedValue {head body value rest : List Char} {key : String} (begins : Head head key)
      (quoted : Body body value) (ends : rest = [] ∨ rest = ['\\']) :
      Malformed (head ++ '"' :: (body ++ rest)) (.unterminatedValue key)

/-! ## Values -/

/-- Reading goes on behind a body. -/
theorem Body.readValue_append
    {body value : List Char}
    (quoted : Body body value)
    (rest : List Char) :
    readValue (body ++ rest) =
      (readValue rest).map fun (more, after) => (value ++ more, after) := by
  induction quoted with
  | nil => simp
  | plain noQuote noSlash _ inductionHypothesis =>
      rw [List.cons_append, readValue, inductionHypothesis, Option.map_map]
      · rfl
      · exact noQuote
      · exact fun _ _ same => absurd same noSlash
  | escape char _ inductionHypothesis =>
      rw [List.cons_append, List.cons_append, readValue, inductionHypothesis, Option.map_map]
      rfl

theorem Body.readValue_eq
    {body value : List Char}
    (quoted : Body body value)
    (after : List Char) :
    readValue (body ++ '"' :: after) = some (value, after) := by
  simp [quoted.readValue_append, readValue]

theorem body_escapeValue (value : List Char) : Body (escapeValue value) value := by
  induction value with
  | nil => exact .nil
  | cons char value inductionHypothesis =>
      rw [escapeValue, List.flatMap_cons]
      split
      · exact .escape char inductionHypothesis
      · next ordinary =>
          obtain ⟨noQuote, noSlash⟩ := not_or.1 ordinary
          exact .plain noQuote noSlash inductionHypothesis

theorem Body.readValue_eq_none
    {body value rest : List Char}
    (quoted : Body body value)
    (ends : rest = [] ∨ rest = ['\\']) :
    readValue (body ++ rest) = none := by
  rw [quoted.readValue_append]
  rcases ends with rfl | rfl <;> rfl

/-- Every text begins with the body of a value that is closed or that the text ends in. -/
theorem exists_body (text : List Char) :
    ∃ body value rest, text = body ++ rest ∧ Body body value ∧
      (rest = [] ∨ rest = ['\\'] ∨ ∃ after, rest = '"' :: after) := by
  fun_induction readValue text with
  | case1 => exact ⟨[], [], [], rfl, .nil, .inl rfl⟩
  | case2 rest => exact ⟨[], [], _, rfl, .nil, .inr (.inr ⟨rest, rfl⟩)⟩
  | case3 escaped rest inductionHypothesis =>
      obtain ⟨body, value, after, rfl, quoted, ends⟩ := inductionHypothesis
      exact ⟨_, _, after, rfl, .escape escaped quoted, ends⟩
  | case4 char rest noQuote noEscape inductionHypothesis =>
      obtain ⟨body, value, after, rfl, quoted, ends⟩ := inductionHypothesis
      by_cases slash : char = '\\'
      · subst slash
        -- The backslash has no character behind it, so the text ends with it.
        have nothing : body ++ after = [] := by
          cases same : body ++ after with
          | nil => rfl
          | cons next others => exact absurd same (noEscape next others rfl)
        rw [nothing]
        exact ⟨[], [], _, rfl, .nil, .inr (.inl rfl)⟩
      · exact ⟨_, _, after, rfl, .plain noQuote slash quoted, ends⟩

/-! ## Blanks and keys -/

theorem trimStart_append
    {blanks text : List Char}
    (blank : IsBlanks blanks)
    (visible : ∀ next, text.head? = some next -> isBlank next = false) :
    trimStart (blanks ++ text) = text := by
  rw [trimStart, List.dropWhile_append_of_pos blank]
  cases text with
  | nil => rfl
  | cons next rest => rw [List.dropWhile_cons_of_neg (by simp [visible next rfl])]

theorem trimStart_of_visible
    {text : List Char}
    (visible : ∀ next, text.head? = some next -> isBlank next = false) :
    trimStart text = text := by
  have none : IsBlanks [] := List.forall_mem_nil _
  have trimmed := trimStart_append none visible
  rwa [List.nil_append] at trimmed

/-- Every text begins with blanks that it does not go on with. -/
theorem exists_blanks (text : List Char) :
    ∃ blanks rest, text = blanks ++ rest ∧ IsBlanks blanks ∧
      ∀ next, rest.head? = some next -> isBlank next = false := by
  refine ⟨text.takeWhile isBlank, text.dropWhile isBlank, (List.takeWhile_append_dropWhile).symm,
    List.all_eq_true.1 List.all_takeWhile, fun next begins => ?_⟩
  have stops := List.head?_dropWhile_not isBlank text
  rw [begins] at stops
  exact stops

theorem isKeyChar_iff {char : Char} :
    isKeyChar char = true ↔ char ≠ ':' ∧ char ≠ '"' ∧ isBlank char = false := by
  simp [isKeyChar, and_assoc]

theorem IsKeyText.exists_cons
    {key : List Char}
    (isKey : IsKeyText key) :
    ∃ first rest, key = first :: rest ∧ isBlank first = false := by
  obtain ⟨nonempty, fits⟩ := isKey
  obtain ⟨first, rest, rfl⟩ := List.exists_cons_of_ne_nil nonempty
  exact ⟨first, rest, rfl, (fits first List.mem_cons_self).2.2⟩

/-- A key ends where a text begins that holds blanks or goes on with no character of a key. -/
theorem IsKeyText.span_eq
    {key between rest : List Char}
    (isKey : IsKeyText key)
    (blank : IsBlanks between)
    (ends : between = [] -> ∀ next, rest.head? = some next -> isKeyChar next = false) :
    (key ++ (between ++ rest)).takeWhile isKeyChar = key ∧
      (key ++ (between ++ rest)).dropWhile isKeyChar = between ++ rest := by
  have fits : ∀ char ∈ key, isKeyChar char = true := fun char present =>
    isKeyChar_iff.2 (isKey.2 char present)
  have stops : ∀ next, (between ++ rest).head? = some next -> isKeyChar next = false := by
    cases between with
    | nil => exact ends rfl
    | cons first more =>
        rintro next ⟨⟩
        have isBlankFirst := blank first List.mem_cons_self
        simp [isKeyChar, isBlankFirst]
  rw [List.takeWhile_append_of_pos fits, List.dropWhile_append_of_pos fits]
  cases same : between ++ rest with
  | nil => simp
  | cons next others => simp [stops next (by rw [same]; rfl)]

theorem readPair_colon
    {key between : List Char}
    (isKey : IsKeyText key)
    (blank : IsBlanks between)
    (behind : List Char) :
    readPair (key ++ (between ++ ':' :: behind)) =
      match readQuoted (String.ofList key) behind with
      | .ok (value, after) => .ok ((String.ofList key, String.ofList value), after)
      | .error error => .error error := by
  have visible : isBlank ':' = false := by decide
  have ends :
      between = [] -> ∀ next, (':' :: behind).head? = some next -> isKeyChar next = false := by
    rintro _ next ⟨⟩
    rfl
  obtain ⟨taken, dropped⟩ := isKey.span_eq blank ends
  obtain ⟨first, more, rfl, _⟩ := isKey.exists_cons
  rw [readPair, taken, dropped, trimStart_append blank (by rintro next ⟨⟩; exact visible)]
  rfl

theorem readPair_noColon
    {key between rest : List Char}
    (isKey : IsKeyText key)
    (blank : IsBlanks between)
    (ends : between = [] -> ∀ next, rest.head? = some next -> isKeyChar next = false)
    (lacks : Lacks ':' rest) :
    readPair (key ++ (between ++ rest)) = .error (.missingColon (String.ofList key)) := by
  obtain ⟨taken, dropped⟩ := isKey.span_eq blank ends
  obtain ⟨first, more, rfl, _⟩ := isKey.exists_cons
  rw [readPair, taken, dropped, trimStart_append blank fun next begins => (lacks next begins).2]
  cases rest with
  | nil => rfl
  | cons next others =>
      have noColon : next ≠ ':' := (lacks next rfl).1
      split
      · next same => cases same
      · next colon _ =>
          cases colon
          exact absurd rfl noColon
      · rfl

/-- The pair that follows a head is read from what stands behind the head. -/
theorem Head.readPairs_eq
    {head rest : List Char}
    {key : String}
    (begins : Head head key)
    (visible : ∀ next, rest.head? = some next -> isBlank next = false) :
    readPairs (head ++ rest) =
      match readQuoted key rest with
      | .ok (value, after) => (readPairs after).map ((key, String.ofList value) :: ·)
      | .error error => .error error := by
  obtain @⟨before, key, between, behind, blankBefore, isKey, blankBetween, blankBehind⟩ := begins
  obtain ⟨first, more, spelt, visibleFirst⟩ := isKey.exists_cons
  have text : before ++ (key ++ (between ++ ':' :: behind)) ++ rest =
      before ++ (key ++ (between ++ ':' :: (behind ++ rest))) := by
    simp
  have trimmed : trimStart (before ++ (key ++ (between ++ ':' :: (behind ++ rest)))) =
      key ++ (between ++ ':' :: (behind ++ rest)) :=
    trimStart_append blankBefore (by rw [spelt]; rintro next ⟨⟩; exact visibleFirst)
  have quoted : readQuoted (String.ofList key) (behind ++ rest) =
      readQuoted (String.ofList key) rest := by
    have bare := trimStart_of_visible visible
    rw [readQuoted, readQuoted, trimStart_append blankBehind visible, bare]
  have read := readPair_colon isKey blankBetween (behind ++ rest)
  rw [text, Params.readPairs_eq, trimmed]
  rw [spelt, List.cons_append] at read ⊢
  simp only [read]
  rw [← spelt, quoted]
  cases readQuoted (String.ofList key) rest <;> rfl

/-! ## Whole texts -/

theorem isBlank_quote : isBlank '"' = false := by decide

/-- Pairs are read in front of what stands behind them. -/
theorem Pairs.readPairs_append
    {front : List Char}
    {pairs : List (String × String)}
    (spelt : Pairs front pairs)
    (rest : List Char) :
    readPairs (front ++ rest) = (readPairs rest).map (pairs ++ ·) := by
  induction spelt with
  | nil => cases same : readPairs rest <;> simp [Except.map, same]
  | @cons head body value text key pairs begins quoted _ inductionHypothesis =>
      have visible : isBlank '"' = false := isBlank_quote
      have read : readQuoted key ('"' :: (body ++ '"' :: (text ++ rest))) =
          .ok (value, text ++ rest) := by
        rw [readQuoted, trimStart, List.dropWhile_cons_of_neg (by simp [visible])]
        simp only [quoted.readValue_eq]
      have split : head ++ '"' :: (body ++ '"' :: text) ++ rest =
          head ++ '"' :: (body ++ '"' :: (text ++ rest)) := by
        simp
      rw [split, begins.readPairs_eq (by rintro next ⟨⟩; exact visible), read]
      simp only [inductionHypothesis]
      cases readPairs rest <;> rfl

theorem Spells.readPairs_eq
    {text : List Char}
    {pairs : List (String × String)}
    (spelt : Spells text pairs) :
    readPairs text = .ok pairs := by
  obtain ⟨front, blanks, rfl, spelt, blank⟩ := spelt
  have nothing : readPairs blanks = .ok [] := by
    have trimmed : trimStart (blanks ++ []) = [] := trimStart_append blank (by simp)
    rw [List.append_nil] at trimmed
    rw [Params.readPairs_eq, trimmed]
  rw [spelt.readPairs_append, nothing]
  simp [Except.map]

theorem Malformed.readPairs_eq
    {text : List Char}
    {error : SyntaxError}
    (malformed : Malformed text error) :
    readPairs text = .error error := by
  cases malformed with
  | @emptyKey before rest next blankBefore noKey =>
      have foreign : isBlank next = false ∧ isKeyChar next = false := by
        rcases noKey with rfl | rfl <;> decide
      rw [Params.readPairs_eq, trimStart_append blankBefore (by rintro _ ⟨⟩; exact foreign.1)]
      have read : readPair (next :: rest) = .error .emptyKey := by
        rw [readPair, List.takeWhile_cons_of_neg (by simp [foreign.2])]
      simp only [read]
  | @missingColon before key between rest blankBefore isKey blankBetween ends lacks =>
      obtain ⟨first, more, spelt, visibleFirst⟩ := isKey.exists_cons
      have trimmed : trimStart (before ++ (key ++ (between ++ rest))) = key ++ (between ++ rest) :=
        trimStart_append blankBefore (by rw [spelt]; rintro next ⟨⟩; exact visibleFirst)
      have read := readPair_noColon isKey blankBetween
        (fun none next begins => by rw [ends none next begins]; rfl) lacks
      rw [Params.readPairs_eq, trimmed]
      rw [spelt, List.cons_append] at read ⊢
      simp only [read]
  | @missingQuote head rest key begins lacks =>
      have visible : ∀ next, rest.head? = some next -> isBlank next = false :=
        fun next follows => (lacks next follows).2
      have bare := trimStart_of_visible visible
      have read : readQuoted key rest = .error (.missingQuote key) := by
        rw [readQuoted, bare]
        split
        · next quoted => exact absurd rfl (lacks '"' rfl).1
        · rfl
      rw [begins.readPairs_eq visible, read]
  | @unterminatedValue head body value rest key begins quoted ends =>
      have visible : isBlank '"' = false := isBlank_quote
      have read : readQuoted key ('"' :: (body ++ rest)) = .error (.unterminatedValue key) := by
        rw [readQuoted, trimStart, List.dropWhile_cons_of_neg (by simp [visible])]
        simp only [quoted.readValue_eq_none ends]
      rw [begins.readPairs_eq (by rintro next ⟨⟩; exact visible), read]

/-- Every text consists of blanks, or begins with a malformed pair or with the text of a pair. -/
theorem blank_or_malformed_or_pair (text : List Char) :
    IsBlanks text ∨ (∃ error, Malformed text error) ∨
      ∃ head key body value after, text = head ++ '"' :: (body ++ '"' :: after) ∧
        Head head key ∧ Body body value := by
  obtain ⟨before, visibleText, rfl, blankBefore, visible⟩ := exists_blanks text
  cases visibleText with
  | nil => exact .inl (by rwa [List.append_nil])
  | cons first others =>
      right
      have visibleFirst : isBlank first = false := visible first rfl
      by_cases noKey : first = ':' ∨ first = '"'
      · exact .inl ⟨_, .emptyKey blankBefore noKey⟩
      rw [not_or] at noKey
      -- The key goes on as long as its characters do.
      obtain ⟨key, behindKey, split, isKey, ends⟩ : ∃ key behindKey,
          first :: others = key ++ behindKey ∧ IsKeyText key ∧
            ∀ next, behindKey.head? = some next -> isKeyChar next = false := by
        refine ⟨(first :: others).takeWhile isKeyChar, (first :: others).dropWhile isKeyChar,
          (List.takeWhile_append_dropWhile).symm, ⟨?_, fun char present => isKeyChar_iff.1
            (List.all_eq_true.1 List.all_takeWhile char present)⟩, fun next begins => ?_⟩
        · rw [List.takeWhile_cons_of_pos (isKeyChar_iff.2 ⟨noKey.1, noKey.2, visibleFirst⟩)]
          exact List.cons_ne_nil _ _
        · have stops := List.head?_dropWhile_not isKeyChar (first :: others)
          rw [begins] at stops
          exact stops
      rw [split]
      obtain ⟨between, rest, rfl, blankBetween, visibleRest⟩ := exists_blanks behindKey
      by_cases colon : rest.head? = some ':'
      · obtain ⟨behindColon, rfl⟩ := List.head?_eq_some_iff.1 colon
        obtain ⟨behind, value, rfl, blankBehind, visibleValue⟩ := exists_blanks behindColon
        have begins := Head.mk blankBefore isKey blankBetween blankBehind
        have text : before ++ (key ++ (between ++ ':' :: (behind ++ value))) =
            before ++ (key ++ (between ++ ':' :: behind)) ++ value := by
          simp
        rw [text]
        by_cases quote : value.head? = some '"'
        · obtain ⟨behindQuote, rfl⟩ := List.head?_eq_some_iff.1 quote
          obtain ⟨body, value, rest, rfl, quoted, ends⟩ := exists_body behindQuote
          rcases ends with none | slash | ⟨after, rfl⟩
          · exact .inl ⟨_, .unterminatedValue begins quoted (.inl none)⟩
          · exact .inl ⟨_, .unterminatedValue begins quoted (.inr slash)⟩
          · exact .inr ⟨_, _, body, value, after, rfl, begins, quoted⟩
        · refine .inl ⟨_, .missingQuote begins fun next follows => ⟨?_, visibleValue next follows⟩⟩
          rintro rfl
          exact quote follows
      · refine .inl ⟨_, .missingColon blankBefore isKey blankBetween (fun none next follows => ?_)
          fun next follows => ⟨?_, visibleRest next follows⟩⟩
        · subst none
          have noChar := ends next follows
          have noColon : next ≠ ':' := by
            rintro rfl
            exact colon follows
          refine Decidable.byContradiction fun noQuote => ?_
          rw [isKeyChar_iff.2 ⟨noColon, noQuote, visibleRest next follows⟩] at noChar
          cases noChar
        · rintro rfl
          exact colon follows

/-- Every text is one of the grammar, or goes on behind some pairs with a malformed one. -/
theorem spells_or_malformed (text : List Char) :
    (∃ pairs, Spells text pairs) ∨
      ∃ front pairs rest error,
        text = front ++ rest ∧ Pairs front pairs ∧ Malformed rest error := by
  rcases blank_or_malformed_or_pair text with blank | ⟨error, malformed⟩ | pair
  · exact .inl ⟨[], [], text, rfl, .nil, blank⟩
  · exact .inr ⟨[], [], text, error, rfl, .nil, malformed⟩
  · obtain ⟨head, key, body, value, after, rfl, begins, quoted⟩ := pair
    rcases spells_or_malformed after with further | further
    · obtain ⟨pairs, front, blanks, rfl, spelt, blank⟩ := further
      exact .inl ⟨_, _, blanks, by simp, .cons begins quoted spelt, blank⟩
    · obtain ⟨front, pairs, rest, error, rfl, spelt, malformed⟩ := further
      exact .inr ⟨_, _, rest, error, by simp, .cons begins quoted spelt, malformed⟩
termination_by text.length
decreasing_by
  all_goals subst_vars
  all_goals simp only [List.length_append, List.length_cons]
  all_goals omega

/-- **Exactly the grammar is read.**  The parameters that are read from a text are those that the
text spells, and the error that is reported is the one of the first malformed pair. -/
theorem parse_decides_grammar (text : String) :
    (∀ params, parse text = .ok params ↔ Spells text.toList params.entries) ∧
      ∀ error, parse text = .error error ↔
        ∃ front pairs rest, text.toList = front ++ rest ∧ Pairs front pairs ∧
          Malformed rest error := by
  have accepts {pairs : List (String × String)} (spelt : Spells text.toList pairs) :
      parse text = .ok ⟨pairs⟩ := by
    rw [parse, spelt.readPairs_eq]
    rfl
  have refuses {front rest : List Char} {pairs : List (String × String)} {error : SyntaxError}
      (split : text.toList = front ++ rest) (spelt : Pairs front pairs)
      (malformed : Malformed rest error) : parse text = .error error := by
    rw [parse, split, spelt.readPairs_append, malformed.readPairs_eq]
    rfl
  refine ⟨fun params => ⟨fun read => ?_, accepts⟩, fun error => ⟨fun read => ?_, ?_⟩⟩
  · rcases spells_or_malformed text.toList with ⟨pairs, spelt⟩ | wrong
    · rw [accepts spelt] at read
      cases read
      exact spelt
    · obtain ⟨front, pairs, rest, error, split, spelt, malformed⟩ := wrong
      rw [refuses split spelt malformed] at read
      cases read
  · rcases spells_or_malformed text.toList with ⟨pairs, spelt⟩ | wrong
    · rw [accepts spelt] at read
      cases read
    · obtain ⟨front, pairs, rest, error', split, spelt, malformed⟩ := wrong
      rw [refuses split spelt malformed] at read
      cases read
      exact ⟨front, pairs, rest, split, spelt, malformed⟩
  · rintro ⟨front, pairs, rest, split, spelt, malformed⟩
    exact refuses split spelt malformed

end Params
end Tag
end ConfigWiring
