import ConfigWiring.Proofs.Go.NumberEnds

/-!
# What the lexer looks at

The lexer cuts off a token or a comment by looking at its characters and at the next one.  Where a
separator stands behind some text, what is cut off inside the text does not depend on what the
separator is or on what stands behind it.
-/

namespace ConfigWiring
namespace Go
namespace Lexer

open Text

/-! ## Lengths told by what is measured -/

/-- A length that is found at the start of a text is found in all texts that begin so. -/
def Tells (length? : List Char -> Option Nat) : Prop :=
  ∀ text length, length? text = some length ->
    ∀ rest, length? (text.take length ++ rest) = some length

/-- What is told inside a text does not depend on what is behind the text. -/
theorem Tells.congr
    {length? : List Char -> Option Nat}
    {text behind : List Char}
    {length : Nat}
    (tells : Tells length?)
    (found : length? (text ++ behind) = some length)
    (inside : length ≤ text.length)
    (behind' : List Char) :
    length? (text ++ behind') = some length := by
  have told := tells _ _ found (text.drop length ++ behind')
  rwa [List.take_append_of_le_length inside, ← List.append_assoc, List.take_append_drop] at told

theorem tells_blockLength? : Tells blockLength? := by
  intro text length found rest
  fun_induction blockLength? text generalizing length with
  | case1 => cases found
  | case2 => cases found
  | case3 more =>
      cases found
      rfl
  | case4 first more noPair noEnd inductionHypothesis =>
      obtain ⟨inner, foundInner, rfl⟩ := Option.map_eq_some_iff.1 found
      have told := inductionHypothesis inner foundInner
      cases more with
      | nil => cases foundInner
      | cons second others =>
          obtain ⟨less, rfl⟩ : ∃ less, inner = less + 1 := by
            refine ⟨inner - 1, ?_⟩
            unfold blockLength? at foundInner
            split at foundInner
            · cases foundInner
            · cases foundInner
            · cases foundInner
              rfl
            · obtain ⟨further, _, rfl⟩ := Option.map_eq_some_iff.1 foundInner
              rfl
          rw [List.take_succ_cons, List.cons_append] at told ⊢
          rw [List.take_succ_cons, List.cons_append]
          rw [blockLength?, told]
          · rfl
          · exact fun same => nomatch same
          · exact fun tail isStar same => noEnd others isStar (by rw [(List.cons.inj same).1])

theorem tells_rawLength? : Tells rawLength? := by
  intro text length found rest
  induction text generalizing length with
  | nil => cases found
  | cons char more inductionHypothesis =>
      rw [rawLength?] at found
      split at found
      · next quote =>
          cases found
          simp [rawLength?, quote]
      · next noQuote =>
          obtain ⟨inner, foundInner, rfl⟩ := Option.map_eq_some_iff.1 found
          rw [List.take_succ_cons, List.cons_append, rawLength?, if_neg noQuote,
            inductionHypothesis inner foundInner]
          rfl

theorem startsWithHex_take
    {count length : Nat}
    {text : List Char}
    (hex : startsWithHex count text = true)
    (inside : count ≤ length) :
    startsWithHex count (text.take length) = true := by
  rw [startsWithHex, List.take_take, Nat.min_eq_left inside]
  exact hex

/-- The digits of an escape are inside the string. -/
theorem le_of_startsWithHex
    {count length : Nat}
    {text : List Char}
    (hex : startsWithHex count text = true)
    (closed : interpretedLength? text = some length) :
    count ≤ length := by
  induction count generalizing text length with
  | zero => exact Nat.zero_le _
  | succ count inductionHypothesis =>
      cases text with
      | nil => cases hex
      | cons char more =>
          simp only [startsWithHex, List.take_succ_cons, List.length_cons, List.all_cons,
            Bool.and_eq_true, beq_iff_eq, Nat.add_right_cancel_iff] at hex
          have plain {other : Char} (noDigit : Number.isHexDigit other = false) : char ≠ other := by
            rintro rfl
            rw [hex.2.1] at noDigit
            cases noDigit
          rw [interpretedLength?] at closed
          · obtain ⟨inner, found, rfl⟩ := Option.map_eq_some_iff.1 closed
            have hexMore : startsWithHex count more = true := by
              simp only [startsWithHex, Bool.and_eq_true, beq_iff_eq]
              exact ⟨hex.1, hex.2.2⟩
            exact Nat.succ_le_succ (inductionHypothesis hexMore found)
          · exact plain (by decide)
          · exact plain (by decide)
          · exact fun _ _ same => absurd same (plain (by decide))
          · exact fun same => absurd same (plain (by decide))

theorem isEscape_take
    {escaped : Char}
    {text : List Char}
    {length : Nat}
    (escape : isEscape (escaped :: text) = true)
    (closed : interpretedLength? text = some length) :
    isEscape (escaped :: text.take length) = true := by
  unfold isEscape at escape
  split at escape
  · next same =>
      cases same
      exact startsWithHex_take escape (le_of_startsWithHex escape closed)
  · next same =>
      cases same
      exact startsWithHex_take escape (le_of_startsWithHex escape closed)
  · next same =>
      cases same
      exact startsWithHex_take escape (le_of_startsWithHex escape closed)
  · next first more noByte noShort noLong same =>
      obtain ⟨rfl, rfl⟩ := List.cons.inj same
      rw [isEscape]
      · exact noByte
      · exact noShort
      · exact noLong
  · next same => cases same

theorem interpretedLength?_take
    {text : List Char}
    {length : Nat}
    (closed : interpretedLength? text = some length) :
    interpretedLength? (text.take length) = some length := by
  fun_induction interpretedLength? text generalizing length with
  | case1 => cases closed
  | case2 more =>
      cases closed
      rfl
  | case3 => cases closed
  | case4 escaped more escape inductionHypothesis =>
      obtain ⟨inner, found, rfl⟩ := Option.map_eq_some_iff.1 closed
      rw [List.take_succ_cons, List.take_succ_cons, interpretedLength?,
        if_pos (isEscape_take escape found), inductionHypothesis found]
      rfl
  | case5 => cases closed
  | case6 => cases closed
  | case7 char more noQuote noBreak noEscape noEnd inductionHypothesis =>
      obtain ⟨inner, found, rfl⟩ := Option.map_eq_some_iff.1 closed
      have noBackslash : char ≠ '\\' := by
        rintro rfl
        cases more with
        | nil => exact noEnd rfl rfl
        | cons escaped more => exact noEscape escaped more rfl rfl
      rw [List.take_succ_cons, interpretedLength?, inductionHypothesis found]
      · rfl
      · exact noQuote
      · exact noBreak
      · exact fun _ _ same => absurd same noBackslash
      · exact fun same => absurd same noBackslash

theorem tells_interpretedLength? : Tells interpretedLength? :=
  fun _ _ found rest => interpretedLength?_append (interpretedLength?_take found) rest

theorem startsWithOctal_take_append
    {count : Nat}
    {text : List Char}
    (octal : startsWithOctal count text = true)
    (rest : List Char) :
    startsWithOctal count (text.take count ++ rest) = true := by
  have length : (text.take count).length = count := by
    simp only [startsWithOctal, Bool.and_eq_true, beq_iff_eq] at octal
    exact octal.1
  rw [startsWithOctal, List.take_append_of_le_length (Nat.le_of_eq length.symm), List.take_take,
    Nat.min_self]
  exact octal

/-- Escapes of a single letter begin with no digit. -/
theorem startsWithOctal_of_letter
    {char : Char}
    (letter : "abfnrtv\\'\"".toList.contains char = true)
    (rest : List Char) :
    startsWithOctal 3 (char :: rest) = false := by
  have noDigits : "abfnrtv\\'\"".toList.all (!Number.isOctalDigit ·) = true := by decide
  have noDigit : Number.isOctalDigit char = false := by
    simpa using List.all_eq_true.1 noDigits char (List.contains_iff_mem.1 letter)
  simp [startsWithOctal, noDigit]

theorem tells_runeEscapeLength? : Tells runeEscapeLength? := by
  intro text length found rest
  have hex {count : Nat} {more : List Char} (digits : startsWithHex count more = true) :
      startsWithHex count (more.take count ++ rest) = true :=
    startsWithHex_append (startsWithHex_take digits (Nat.le_refl count)) rest
  unfold runeEscapeLength? at found
  split at found
  · split at found
    · next digits =>
        cases found
        exact if_pos (hex digits)
    · cases found
  · split at found
    · next digits =>
        cases found
        exact if_pos (hex digits)
    · cases found
  · split at found
    · next digits =>
        cases found
        exact if_pos (hex digits)
    · cases found
  · next char more noByte noShort noLong =>
      split at found
      · next octal =>
          cases found
          have told := startsWithOctal_take_append octal rest
          rw [List.take_succ_cons, List.cons_append] at told ⊢
          rw [runeEscapeLength?, if_pos told]
          · exact noByte
          · exact noShort
          · exact noLong
      · split at found
        · next letter =>
            cases found
            rw [List.take_succ_cons, List.cons_append, runeEscapeLength?,
              startsWithOctal_of_letter letter, if_neg Bool.false_ne_true, if_pos letter]
            · exact noByte
            · exact noShort
            · exact noLong
        · cases found
  · cases found

theorem tells_runeLength? : Tells runeLength? := by
  intro text length found rest
  unfold runeLength? at found
  split at found
  · next more =>
      split at found
      · next escape foundEscape =>
          split at found
          · next quote =>
              cases found
              obtain ⟨others, behindEscape⟩ := List.head?_eq_some_iff.1 quote
              have taken : more.take (escape + 1) = more.take escape ++ ['\''] := by
                rw [List.take_add, behindEscape]
                rfl
              have inside : (more.take escape).length = escape := by
                have length := congrArg List.length behindEscape
                rw [List.length_drop, List.length_cons] at length
                rw [List.length_take]
                omega
              rw [List.take_succ_cons, taken, List.cons_append, List.append_assoc, runeLength?,
                tells_runeEscapeLength? _ _ foundEscape]
              simp only [List.drop_left' inside]
              rfl
          · cases found
      · cases found
  · next char more noEscape =>
      split at found
      · cases found
      · next noQuote =>
          cases found
          rw [List.take_succ_cons, List.take_succ_cons, List.cons_append, List.cons_append,
            runeLength?, if_neg noQuote]
          exact noEscape
  · cases found

/-! ## Tokens -/

variable {first : Char} {rest behind behind' : List Char}

theorem isIdentifierContinue_of_isSeparator
    {char : Char}
    (separates : isSeparator char = true) :
    isIdentifierContinue char = false := by
  have apart : separators.all (!isIdentifierContinue ·) = true := by decide +kernel
  simpa using List.all_eq_true.1 apart char (mem_separators separates)

/-- Words end in front of separators. -/
theorem takeWhile_append_of_stops
    (rest : List Char)
    (stops : Stops behind) :
    (rest ++ behind).takeWhile isIdentifierContinue = rest.takeWhile isIdentifierContinue := by
  have none : behind.takeWhile isIdentifierContinue = [] := by
    cases behind with
    | nil => rfl
    | cons next more => simp [isIdentifierContinue_of_isSeparator stops.isSeparator]
  rw [List.takeWhile_append, none, List.append_nil]
  split
  · next whole => exact ((List.takeWhile_prefix _).eq_of_length whole).symm
  · rfl

/-- No mark goes on with a separator. -/
theorem isPrefixOf_append_of_stops
    {mark : String}
    (present : mark ∈ marks)
    (stops : Stops behind) :
    mark.toList.isPrefixOf (first :: (rest ++ behind)) =
      mark.toList.isPrefixOf (first :: rest) := by
  have apart : marks.all (fun mark => mark.toList.tail.all (!isSeparator ·)) = true := by decide
  rw [← List.cons_append]
  refine isPrefixOf_append fun next here => ?_
  rw [← Bool.not_eq_true, List.isPrefixOf_iff_prefix]
  rintro ⟨more, longer⟩
  have inside : next ∈ mark.toList.tail := by
    rw [← longer]
    simp
  have noSeparator := List.all_eq_true.1 (List.all_eq_true.1 apart mark present) next inside
  rw [stops next here] at noSeparator
  cases noSeparator

/-- A string or a rune of a given length; one that is never closed is no token. -/
def quotedLexeme (quoted : TokenKind) : Option Nat -> TokenKind × Nat
  | some length => (quoted, length)
  | none => (.stray, 0)

theorem quotedLexeme_congr
    {length? : List Char -> Option Nat}
    {quoted kind : TokenKind}
    {further : Nat}
    (tells : Tells length?)
    (cut : quotedLexeme quoted (length? (rest ++ behind)) = (kind, further))
    (known : kind ≠ .stray)
    (inside : further ≤ rest.length) :
    quotedLexeme quoted (length? (rest ++ behind')) = (kind, further) := by
  cases found : length? (rest ++ behind) with
  | none =>
      rw [found] at cut
      cases cut
      exact absurd rfl known
  | some length =>
      rw [found] at cut
      cases cut
      rw [tells.congr found inside behind']
      rfl

/-- A token inside some text is cut off whatever separator stands behind the text. -/
theorem lexeme_congr
    {kind : TokenKind}
    {further : Nat}
    (cut : lexeme first (rest ++ behind) = (kind, further))
    (known : kind ≠ .stray)
    (inside : further ≤ rest.length)
    (stops : Stops behind)
    (stops' : Stops behind') :
    lexeme first (rest ++ behind') = (kind, further) := by
  have sameNumber : Number.length (first :: (rest ++ behind')) =
      Number.length (first :: (rest ++ behind)) := by
    rw [← List.cons_append, ← List.cons_append, Number.length_append _ stops,
      Number.length_append _ stops']
  have sameMark :
      (marks.find? fun mark => mark.toList.isPrefixOf (first :: (rest ++ behind'))) =
        marks.find? fun mark => mark.toList.isPrefixOf (first :: (rest ++ behind)) := by
    rw [← List.head?_filter, ← List.head?_filter]
    refine congrArg List.head? (List.filter_congr fun mark present => ?_)
    rw [isPrefixOf_append_of_stops present stops, isPrefixOf_append_of_stops present stops']
  unfold lexeme at cut ⊢
  rw [takeWhile_append_of_stops rest stops] at cut
  rw [takeWhile_append_of_stops rest stops', sameNumber, sameMark]
  split
  · next start => rwa [if_pos start] at cut
  · next noStart =>
      rw [if_neg noStart] at cut
      dsimp only at cut ⊢
      by_cases number : Number.length (first :: (rest ++ behind)) > 0
      · rwa [if_pos number] at cut ⊢
      · rw [if_neg number] at cut ⊢
        by_cases quote : first = '"'
        · rw [if_pos quote] at cut ⊢
          exact quotedLexeme_congr tells_interpretedLength? cut known inside
        · rw [if_neg quote] at cut ⊢
          by_cases backQuote : first = Char.ofNat 96
          · rw [if_pos backQuote] at cut ⊢
            exact quotedLexeme_congr tells_rawLength? cut known inside
          · rw [if_neg backQuote] at cut ⊢
            by_cases singleQuote : first = '\''
            · rw [if_pos singleQuote] at cut ⊢
              exact quotedLexeme_congr tells_runeLength? cut known inside
            · rwa [if_neg singleQuote] at cut ⊢

/-! ## Comments -/

theorem blockLength?_eq_none_iff {text : List Char} :
    blockLength? text = none ↔ ¬['*', '/'] <:+: text := by
  fun_induction blockLength? text with
  | case1 => simp
  | case2 => simp [List.infix_cons_iff]
  | case3 more =>
      have begins : ['*', '/'] <:+: '*' :: '/' :: more := ⟨[], more, rfl⟩
      simp [begins]
  | case4 first more noPair noEnd inductionHypothesis =>
      rw [Option.map_eq_none_iff, inductionHypothesis, List.infix_cons_iff, not_or]
      refine ⟨fun inside => ⟨?_, inside⟩, And.right⟩
      rintro ⟨others, same⟩
      obtain ⟨isStar, same⟩ := List.cons.inj same
      exact noEnd others isStar.symm same.symm

/-- A pair of characters in two texts is in one of them or stands where they meet. -/
theorem pair_infix_append
    {one other : Char}
    {front back : List Char}
    (inside : [one, other] <:+: front ++ back) :
    [one, other] <:+: front ∨ [one, other] <:+: front.getLast?.toList ++ back := by
  induction front with
  | nil => exact .inr inside
  | cons first more inductionHypothesis =>
      cases more with
      | nil => exact .inr inside
      | cons second others =>
          rw [List.cons_append, List.infix_cons_iff] at inside
          rcases inside with begins | further
          · refine .inl (List.infix_cons_iff.2 (.inl ?_))
            obtain ⟨tail, same⟩ := begins
            cases same
            exact ⟨others, rfl⟩
          · rw [List.getLast?_cons_cons]
            exact (inductionHypothesis further).imp_left fun inside =>
              List.infix_cons_iff.2 (.inr inside)

/-- A comment that ends inside some text does not depend on what is behind the text. -/
theorem commentLength?_congr
    {length : Nat}
    (comment : commentLength? (first :: (rest ++ behind)) = some length)
    (inside : length ≤ rest.length)
    (behind' : List Char) :
    commentLength? (first :: (rest ++ behind')) = some length := by
  cases rest with
  | nil =>
      obtain rfl := Nat.le_zero.1 inside
      unfold commentLength? at comment
      split at comment
      · simp at comment
      · obtain ⟨inner, _, same⟩ := Option.map_eq_some_iff.1 comment
        cases same
      · cases comment
  | cons second more =>
      rw [List.cons_append] at comment ⊢
      unfold commentLength? at comment
      split at comment
      · next same =>
          cases same
          rw [Option.some.injEq] at comment
          rw [commentLength?, Option.some.injEq, ← comment, List.takeWhile_append,
            List.takeWhile_append]
          rw [List.takeWhile_append] at comment
          split
          · next whole =>
              rw [if_pos whole, List.length_append] at comment
              rw [List.length_cons] at inside
              omega
          · rfl
      · next same =>
          cases same
          obtain ⟨inner, found, rfl⟩ := Option.map_eq_some_iff.1 comment
          rw [List.length_cons] at inside
          rw [commentLength?, tells_blockLength?.congr found (by omega) behind']
          rfl
      · cases comment

/-- No comment begins in front of another separator, if none is closed behind it. -/
theorem commentLength?_eq_none_congr
    (noComment : commentLength? (first :: (rest ++ behind)) = none)
    (apart : first = '/' -> rest = [] -> behind'.head? ≠ some '/')
    (stops' : Stops behind')
    (stays : ∀ more, first = '/' -> rest = '*' :: more -> blockLength? (more ++ behind) = none ->
      blockLength? (more ++ behind') = none) :
    commentLength? (first :: (rest ++ behind')) = none := by
  by_cases slash : first = '/'
  · subst slash
    cases rest with
    | nil =>
        cases behind' with
        | nil => rfl
        | cons next more =>
            have noStar : next ≠ '*' := by
              rintro rfl
              exact absurd stops'.isSeparator (by decide)
            have noSlash : next ≠ '/' := fun same => apart rfl rfl (by rw [same]; rfl)
            simp [commentLength?, noStar, noSlash]
    | cons second more =>
        rw [List.cons_append] at noComment ⊢
        by_cases double : second = '/'
        · subst double
          cases noComment
        · by_cases star : second = '*'
          · subst star
            rw [commentLength?, Option.map_eq_none_iff] at noComment ⊢
            exact stays more rfl rfl noComment
          · simp [commentLength?, double, star]
  · exact commentLength?_eq_none slash

end Lexer
end Go
end ConfigWiring
