import ConfigWiring.Proofs.Go.Lexeme

/-!
# Where numbers end

A number goes no further than to the next blank or slash, so its length does not depend on what
stands behind one.
-/

namespace ConfigWiring
namespace Go

open Text

/-! ## Separators -/

namespace Lexer

/-- Whether a character is a blank or a slash. -/
def isSeparator (char : Char) : Bool := char == '/' || isBlank char

/-- The blanks and the slash. -/
def separators : List Char :=
  '/' :: blankRanges.flatMap fun range =>
    (List.range (range.2 + 1 - range.1)).map fun offset => Char.ofNat (range.1 + offset)

theorem mem_separators
    {char : Char}
    (separates : isSeparator char = true) :
    char ∈ separators := by
  simp only [isSeparator, Bool.or_eq_true, beq_iff_eq] at separates
  rcases separates with rfl | blank
  · exact List.mem_cons_self
  · obtain ⟨range, present, low, high⟩ := RangeTable.exists_mem_of_contains blank
    refine List.mem_cons_of_mem _ (List.mem_flatMap.2 ⟨range, present, List.mem_map.2
      ⟨char.toNat - range.1, List.mem_range.2 (by omega), ?_⟩⟩)
    rw [Nat.add_sub_cancel' low, Char.ofNat_toNat]

/-- A text is empty or begins with a separator. -/
def Stops (text : List Char) : Prop := ∀ char, text.head? = some char -> isSeparator char = true

theorem Stops.isSeparator
    {char : Char}
    {rest : List Char}
    (stops : Stops (char :: rest)) :
    isSeparator char = true :=
  stops char rfl

end Lexer

namespace Number

open Lexer

/-- Whether a character can stand in a number. -/
def isNumeral (char : Char) : Bool := isHexDigit char || "_.+-ioOxXpP".toList.contains char

theorem isNumeral_of_isSeparator
    {char : Char}
    (separates : isSeparator char = true) :
    isNumeral char = false := by
  have apart : separators.all (!isNumeral ·) = true := by decide +kernel
  simpa using List.all_eq_true.1 apart char (mem_separators separates)

theorem ne_of_isSeparator
    {char numeral : Char}
    (separates : isSeparator char = true)
    (stands : isNumeral numeral = true) :
    char ≠ numeral := by
  rintro rfl
  rw [isNumeral_of_isSeparator separates] at stands
  cases stands

/-- Whether a test for digits holds of characters in numbers only. -/
def FindsNumerals (isDigit : Char -> Bool) : Prop :=
  ∀ char, isDigit char = true -> isNumeral char = true

theorem findsNumerals_isHexDigit : FindsNumerals isHexDigit := fun char digit => by
  simp [isNumeral, digit]

theorem findsNumerals_isDigit : FindsNumerals Char.isDigit := fun char digit => by
  simp [isNumeral, isHexDigit, digit]

theorem findsNumerals_isOctalDigit : FindsNumerals isOctalDigit := fun char digit => by
  refine findsNumerals_isDigit char ?_
  simp only [isOctalDigit, Bool.and_eq_true, decide_eq_true_eq, Char.le_def, UInt32.le_iff_toNat_le]
    at digit
  simp only [Char.isDigit, Bool.and_eq_true, decide_eq_true_eq, UInt32.le_iff_toNat_le]
  exact ⟨digit.1, Nat.le_trans digit.2 (by decide)⟩

theorem findsNumerals_isBinaryDigit : FindsNumerals isBinaryDigit := fun char digit => by
  simp only [isBinaryDigit, Bool.or_eq_true, beq_iff_eq] at digit
  rcases digit with rfl | rfl <;> decide

variable {isDigit : Char -> Bool} {text rest : List Char} {char : Char}

theorem FindsNumerals.eq_false
    (finds : FindsNumerals isDigit)
    (separates : isSeparator char = true) :
    isDigit char = false :=
  Bool.eq_false_iff.2 fun digit => by
    have stands := finds char digit
    rw [isNumeral_of_isSeparator separates] at stands
    cases stands

/-! ## Digits -/

theorem furtherDigits_of_stops
    (finds : FindsNumerals isDigit)
    (stops : Stops rest) :
    furtherDigits isDigit rest = 0 := by
  unfold furtherDigits
  split
  · rfl
  · rw [finds.eq_false stops.isSeparator]
    rfl
  · next first second more =>
      have noUnderscore : first ≠ '_' := ne_of_isSeparator stops.isSeparator (by decide)
      simp [finds.eq_false stops.isSeparator, noUnderscore]

theorem furtherDigits_append
    (finds : FindsNumerals isDigit)
    (text : List Char)
    (stops : Stops rest) :
    furtherDigits isDigit (text ++ rest) = furtherDigits isDigit text := by
  fun_induction furtherDigits isDigit text with
  | case1 => exact furtherDigits_of_stops finds stops
  | case2 char digit =>
      cases rest with
      | nil => simp [furtherDigits, digit]
      | cons next more => simp [furtherDigits, digit, furtherDigits_of_stops finds stops]
  | case3 char noDigit =>
      cases rest with
      | nil => simp [furtherDigits, noDigit]
      | cons next more => simp [furtherDigits, noDigit, finds.eq_false stops.isSeparator]
  | case4 first second more digit inductionHypothesis =>
      rw [List.cons_append] at inductionHypothesis ⊢
      simp [furtherDigits, digit, inductionHypothesis]
  | case5 first second more noDigit underscore inductionHypothesis =>
      simp only [List.cons_append, furtherDigits, noDigit, underscore, inductionHypothesis]
      simp
  | case6 first second more noDigit other =>
      simp only [List.cons_append, furtherDigits, noDigit, other]
      simp

theorem furtherDigits_le (isDigit : Char -> Bool) (text : List Char) :
    furtherDigits isDigit text ≤ text.length := by
  fun_induction furtherDigits isDigit text <;> simp_all <;> omega

theorem digits_append
    (finds : FindsNumerals isDigit)
    (text : List Char)
    (stops : Stops rest) :
    digits isDigit (text ++ rest) = digits isDigit text := by
  cases text with
  | nil =>
      cases rest with
      | nil => rfl
      | cons next more => simp [digits, finds.eq_false stops.isSeparator]
  | cons char text =>
      rw [List.cons_append, digits, digits, furtherDigits_append finds text stops]

theorem digits_le (isDigit : Char -> Bool) (text : List Char) :
    digits isDigit text ≤ text.length := by
  unfold digits
  split
  · exact Nat.zero_le _
  · next char rest =>
      have bound := furtherDigits_le isDigit rest
      split <;> simp only [List.length_cons] <;> omega

theorem looseDigits_append
    (finds : FindsNumerals isDigit)
    (text : List Char)
    (stops : Stops rest) :
    looseDigits isDigit (text ++ rest) = looseDigits isDigit text := by
  cases text with
  | nil =>
      rw [List.nil_append]
      unfold looseDigits
      split
      · exact absurd rfl (ne_of_isSeparator stops.isSeparator (by decide))
      · exact digits_append finds [] stops
  | cons first more =>
      by_cases underscore : first = '_'
      · subst underscore
        rw [List.cons_append, looseDigits, looseDigits, digits_append finds more stops]
      · rw [looseDigits, looseDigits, digits_append finds _ stops]
        · exact fun _ same => underscore (List.cons.inj same).1
        · exact fun _ same => underscore (List.cons.inj same).1

theorem looseDigits_le (isDigit : Char -> Bool) (text : List Char) :
    looseDigits isDigit text ≤ text.length := by
  unfold looseDigits
  split
  · next rest =>
      have bound := digits_le isDigit rest
      split <;> simp only [List.length_cons] <;> omega
  · exact digits_le isDigit _

theorem behind_le
    {front length bound : Nat}
    (inside : front + length ≤ bound) :
    behind front length ≤ bound := by
  unfold behind
  split <;> omega

/-! ## Whole numbers -/

/-- The lengths of the numbers behind a zero whose base a letter tells. -/
def lettered : List Char -> List Nat
  | mark :: digits =>
      if mark = 'b' || mark = 'B' then [behind 2 (looseDigits isBinaryDigit digits)]
      else if mark = 'o' || mark = 'O' then [behind 2 (looseDigits isOctalDigit digits)]
      else if mark = 'x' || mark = 'X' then [behind 2 (looseDigits isHexDigit digits)]
      else []
  | [] => []

theorem wholeLengths_zero (rest : List Char) :
    wholeLengths ('0' :: rest) =
      [1, behind 1 (looseDigits isOctalDigit rest)] ++ lettered rest := by
  unfold wholeLengths
  cases rest <;> rfl

theorem wholeLengths_of_head?
    (nonzero : text.head? ≠ some '0') :
    wholeLengths text = [digits Char.isDigit text] := by
  unfold wholeLengths
  split
  · exact absurd rfl nonzero
  · rfl

theorem head?_append_ne
    {numeral : Char}
    (stops : Stops rest)
    (stands : isNumeral numeral = true)
    (differs : text.head? ≠ some numeral) :
    (text ++ rest).head? ≠ some numeral := by
  cases text with
  | nil => exact fun begins => ne_of_isSeparator (stops _ begins) stands rfl
  | cons first more => exact differs

theorem lettered_append
    (text : List Char)
    (stops : Stops rest) :
    lettered (text ++ rest) = lettered text := by
  cases text with
  | nil =>
      cases rest with
      | nil => rfl
      | cons next more =>
          have other (numeral : Char) (stands : isNumeral numeral = true) : next ≠ numeral :=
            ne_of_isSeparator stops.isSeparator stands
          simp [lettered, other 'b' rfl, other 'B' rfl, other 'o' rfl, other 'O' rfl, other 'x' rfl,
            other 'X' rfl]
  | cons mark digits =>
      simp only [List.cons_append, lettered, looseDigits_append findsNumerals_isOctalDigit _ stops,
        looseDigits_append findsNumerals_isBinaryDigit _ stops,
        looseDigits_append findsNumerals_isHexDigit _ stops]

theorem wholeLengths_append
    (text : List Char)
    (stops : Stops rest) :
    wholeLengths (text ++ rest) = wholeLengths text := by
  by_cases zero : text.head? = some '0'
  · obtain ⟨more, rfl⟩ := List.head?_eq_some_iff.1 zero
    rw [List.cons_append, wholeLengths_zero, wholeLengths_zero, lettered_append more stops,
      looseDigits_append findsNumerals_isOctalDigit more stops]
  · rw [wholeLengths_of_head? zero, wholeLengths_of_head? (head?_append_ne stops (by decide) zero),
      digits_append findsNumerals_isDigit text stops]

theorem le_of_mem_lettered
    {length : Nat}
    (present : length ∈ lettered text) :
    length ≤ text.length + 1 := by
  unfold lettered at present
  split at present
  · next mark digits =>
      have bounds (isDigit : Char -> Bool) :
          behind 2 (looseDigits isDigit digits) ≤ (mark :: digits).length + 1 :=
        behind_le (by
          have bound := looseDigits_le isDigit digits
          rw [List.length_cons]
          omega)
      split at present
      · exact List.mem_singleton.1 present ▸ bounds _
      · split at present
        · exact List.mem_singleton.1 present ▸ bounds _
        · split at present
          · exact List.mem_singleton.1 present ▸ bounds _
          · cases present
  · cases present

theorem le_of_mem_wholeLengths
    {length : Nat}
    (present : length ∈ wholeLengths text) :
    length ≤ text.length := by
  by_cases zero : text.head? = some '0'
  · obtain ⟨more, rfl⟩ := List.head?_eq_some_iff.1 zero
    have octal := looseDigits_le isOctalDigit more
    rw [wholeLengths_zero] at present
    rw [List.length_cons]
    rcases List.mem_append.1 present with plain | based
    · rcases List.mem_cons.1 plain with rfl | plain
      · exact Nat.le_add_left _ _
      · rw [List.mem_singleton.1 plain]
        exact behind_le (by omega)
    · exact le_of_mem_lettered based
  · rw [wholeLengths_of_head? zero] at present
    exact List.mem_singleton.1 present ▸ digits_le _ _

/-! ## Fractions and exponents -/

theorem exponent_append
    {small large : Char}
    (stands : isNumeral small = true ∧ isNumeral large = true)
    (text : List Char)
    (stops : Stops rest) :
    exponent small large (text ++ rest) = exponent small large text := by
  match text with
  | [] =>
      cases rest with
      | nil => rfl
      | cons next more =>
          have noMark : next ≠ small ∧ next ≠ large :=
            ⟨ne_of_isSeparator stops.isSeparator stands.1,
              ne_of_isSeparator stops.isSeparator stands.2⟩
          cases more with
          | nil => rfl
          | cons sign more => simp [exponent, noMark]
  | [mark] =>
      cases rest with
      | nil => rfl
      | cons next more =>
          have noSign : next ≠ '+' ∧ next ≠ '-' :=
            ⟨ne_of_isSeparator stops.isSeparator (by decide),
              ne_of_isSeparator stops.isSeparator (by decide)⟩
          have noDigit : digits Char.isDigit (next :: more) = 0 :=
            digits_append findsNumerals_isDigit [] stops
          simp [exponent, noSign, noDigit, behind]
  | mark :: sign :: more =>
      have digitsMore := digits_append findsNumerals_isDigit more stops
      have digitsAll := digits_append findsNumerals_isDigit (sign :: more) stops
      rw [List.cons_append] at digitsAll
      rw [List.cons_append, List.cons_append, exponent, exponent, digitsMore, digitsAll]

theorem exponent_le (small large : Char) (text : List Char) :
    exponent small large text ≤ text.length := by
  unfold exponent
  split
  · next mark sign rest =>
      have signed := digits_le Char.isDigit rest
      have plain := digits_le Char.isDigit (sign :: rest)
      simp only [List.length_cons] at plain ⊢
      split
      · split
        · exact behind_le (by omega)
        · exact behind_le (by omega)
      · exact Nat.zero_le _
  · exact Nat.zero_le _

/-- What stands behind a point at the start of a text. -/
def behindPoint? : List Char -> Option (List Char)
  | '.' :: rest => some rest
  | _ => none

theorem behindPoint?_append
    (text : List Char)
    (stops : Stops rest) :
    behindPoint? (text ++ rest) = (behindPoint? text).map (· ++ rest) := by
  by_cases point : text.head? = some '.'
  · obtain ⟨more, rfl⟩ := List.head?_eq_some_iff.1 point
    rfl
  · have none {other : List Char} (differs : other.head? ≠ some '.') :
        behindPoint? other = none := by
      unfold behindPoint?
      split
      · exact absurd rfl differs
      · rfl
    rw [none point, none (head?_append_ne stops (by decide) point)]
    rfl

theorem length_of_behindPoint?
    (point : behindPoint? text = some rest) :
    text.length = rest.length + 1 := by
  unfold behindPoint? at point
  split at point
  · cases point
    rfl
  · cases point

/-- To look for a point is to read on behind it or otherwise. -/
theorem match_point
    {result : Type}
    (text : List Char)
    (behindPoint : List Char -> result)
    (otherwise : result) :
    (match text with
      | '.' :: rest => behindPoint rest
      | _ => otherwise) = (behindPoint? text).elim otherwise behindPoint := by
  unfold behindPoint?
  split
  · rfl
  · rfl

/-- The length of a decimal number behind its whole part, given what stands behind the point. -/
def decimalBody (whole : Nat) (behindPoint : List Char) : Nat :=
  if whole = 0 && digits Char.isDigit behindPoint = 0 then 0
  else whole + 1 + digits Char.isDigit behindPoint +
    exponent 'e' 'E' (behindPoint.drop (digits Char.isDigit behindPoint))

theorem decimalFraction_eq (text : List Char) :
    decimalFraction text = (behindPoint? (text.drop (digits Char.isDigit text))).elim
      (if digits Char.isDigit text = 0 then 0
        else behind (digits Char.isDigit text)
          (exponent 'e' 'E' (text.drop (digits Char.isDigit text))))
      (decimalBody (digits Char.isDigit text)) :=
  match_point (text.drop (digits Char.isDigit text)) _ _

theorem decimalBody_append
    (whole : Nat)
    (text : List Char)
    (stops : Stops rest) :
    decimalBody whole (text ++ rest) = decimalBody whole text := by
  rw [decimalBody, decimalBody, digits_append findsNumerals_isDigit text stops,
    List.drop_append_of_le_length (digits_le _ _), exponent_append (by decide) _ stops]

theorem decimalBody_le (whole : Nat) (text : List Char) :
    decimalBody whole text ≤ whole + 1 + text.length := by
  have fraction := digits_le Char.isDigit text
  have power := exponent_le 'e' 'E' (text.drop (digits Char.isDigit text))
  rw [List.length_drop] at power
  unfold decimalBody
  split <;> omega

theorem decimalFraction_append
    (text : List Char)
    (stops : Stops rest) :
    decimalFraction (text ++ rest) = decimalFraction text := by
  rw [decimalFraction_eq, decimalFraction_eq, digits_append findsNumerals_isDigit text stops,
    List.drop_append_of_le_length (digits_le _ _), behindPoint?_append _ stops,
    exponent_append (by decide) _ stops]
  cases behindPoint? (text.drop (digits Char.isDigit text)) with
  | none => rfl
  | some more => exact decimalBody_append _ more stops

theorem decimalFraction_le (text : List Char) : decimalFraction text ≤ text.length := by
  have bound := digits_le Char.isDigit text
  rw [decimalFraction_eq]
  cases point : behindPoint? (text.drop (digits Char.isDigit text)) with
  | none =>
      have power := exponent_le 'e' 'E' (text.drop (digits Char.isDigit text))
      rw [List.length_drop] at power
      rw [Option.elim_none]
      split
      · exact Nat.zero_le _
      · exact behind_le (by omega)
  | some more =>
      have length := length_of_behindPoint? point
      have body := decimalBody_le (digits Char.isDigit text) more
      rw [List.length_drop] at length
      rw [Option.elim_some]
      omega

/-- The length of a hexadecimal number with an exponent behind its whole part, given what stands
behind the point. -/
def hexBody (whole : Nat) (behindPoint : List Char) : Nat :=
  if whole = 0 && digits isHexDigit behindPoint = 0 then 0
  else
    behind (2 + whole + 1 + digits isHexDigit behindPoint)
      (exponent 'p' 'P' (behindPoint.drop (digits isHexDigit behindPoint)))

theorem hexFraction_zero (mark : Char) (text : List Char) :
    hexFraction ('0' :: mark :: text) =
      if mark = 'x' || mark = 'X' then
        (behindPoint? (text.drop (looseDigits isHexDigit text))).elim
          (if looseDigits isHexDigit text = 0 then 0
            else behind (2 + looseDigits isHexDigit text)
              (exponent 'p' 'P' (text.drop (looseDigits isHexDigit text))))
          (hexBody (looseDigits isHexDigit text))
      else 0 := by
  rw [hexFraction]
  refine ite_congr rfl (fun _ => ?_) fun _ => rfl
  exact match_point (text.drop (looseDigits isHexDigit text)) _ _

theorem hexBody_append
    (whole : Nat)
    (text : List Char)
    (stops : Stops rest) :
    hexBody whole (text ++ rest) = hexBody whole text := by
  rw [hexBody, hexBody, digits_append findsNumerals_isHexDigit text stops,
    List.drop_append_of_le_length (digits_le _ _), exponent_append (by decide) _ stops]

theorem hexBody_le (whole : Nat) (text : List Char) :
    hexBody whole text ≤ 2 + whole + 1 + text.length := by
  have fraction := digits_le isHexDigit text
  have power := exponent_le 'p' 'P' (text.drop (digits isHexDigit text))
  rw [List.length_drop] at power
  unfold hexBody
  split
  · exact Nat.zero_le _
  · exact behind_le (by omega)

theorem hexFraction_of_head?
    (nonzero : text.head? ≠ some '0') :
    hexFraction text = 0 := by
  unfold hexFraction
  split
  · exact absurd rfl nonzero
  · rfl

theorem hexFraction_append
    (text : List Char)
    (stops : Stops rest) :
    hexFraction (text ++ rest) = hexFraction text := by
  by_cases zero : text.head? = some '0'
  · obtain ⟨more, rfl⟩ := List.head?_eq_some_iff.1 zero
    cases more with
    | nil =>
        cases rest with
        | nil => rfl
        | cons next others =>
            have noMark : next ≠ 'x' ∧ next ≠ 'X' :=
              ⟨ne_of_isSeparator stops.isSeparator (by decide),
                ne_of_isSeparator stops.isSeparator (by decide)⟩
            rw [List.cons_append, List.nil_append, hexFraction_zero, if_neg (by simp [noMark])]
            rfl
    | cons mark others =>
        rw [List.cons_append, List.cons_append, hexFraction_zero, hexFraction_zero,
          looseDigits_append findsNumerals_isHexDigit others stops,
          List.drop_append_of_le_length (looseDigits_le _ _), behindPoint?_append _ stops,
          exponent_append (by decide) _ stops]
        cases behindPoint? (others.drop (looseDigits isHexDigit others)) with
        | none => rfl
        | some more => rw [Option.map_some, Option.elim_some, Option.elim_some,
            hexBody_append _ more stops]
  · rw [hexFraction_of_head? zero,
      hexFraction_of_head? (head?_append_ne stops (by decide) zero)]

theorem hexFraction_le (text : List Char) : hexFraction text ≤ text.length := by
  by_cases zero : text.head? = some '0'
  · obtain ⟨more, rfl⟩ := List.head?_eq_some_iff.1 zero
    cases more with
    | nil => exact Nat.zero_le _
    | cons mark others =>
        have bound := looseDigits_le isHexDigit others
        rw [hexFraction_zero]
        simp only [List.length_cons]
        split
        · cases point : behindPoint? (others.drop (looseDigits isHexDigit others)) with
          | none =>
              have power := exponent_le 'p' 'P' (others.drop (looseDigits isHexDigit others))
              rw [List.length_drop] at power
              rw [Option.elim_none]
              split
              · exact Nat.zero_le _
              · exact behind_le (by omega)
          | some more =>
              have length := length_of_behindPoint? point
              have body := hexBody_le (looseDigits isHexDigit others) more
              rw [List.length_drop] at length
              rw [Option.elim_some]
              omega
        · exact Nat.zero_le _
  · rw [hexFraction_of_head? zero]
    exact Nat.zero_le _

/-! ## Numbers -/

theorem imaginary_append
    (text : List Char)
    (stops : Stops rest) :
    imaginary (text ++ rest) = imaginary text := by
  unfold imaginary
  rw [digits_append findsNumerals_isDigit text stops, decimalFraction_append text stops,
    hexFraction_append text stops, wholeLengths_append text stops]
  refine congrArg longest (List.map_congr_left fun length present => ?_)
  have bound : length ≤ text.length := by
    simp only [List.mem_cons] at present
    rcases present with rfl | rfl | rfl | present
    · exact digits_le _ _
    · exact decimalFraction_le _
    · exact hexFraction_le _
    · exact le_of_mem_wholeLengths present
  rw [List.drop_append_of_le_length bound]
  have sameUnit : (text.drop length ++ rest).head? = some 'i' ↔
      (text.drop length).head? = some 'i' := by
    refine ⟨fun begins => ?_, fun begins => ?_⟩
    · exact Decidable.byContradiction fun differs =>
        head?_append_ne stops (by decide) differs begins
    · obtain ⟨more, same⟩ := List.head?_eq_some_iff.1 begins
      rw [same]
      rfl
  rw [decide_eq_decide.2 sameUnit]

/-- A number goes no further than to the next separator. -/
theorem length_append
    (text : List Char)
    (stops : Stops rest) :
    length (text ++ rest) = length text := by
  simp only [length, whole, fractional, wholeLengths_append text stops,
    decimalFraction_append text stops, hexFraction_append text stops, imaginary_append text stops]

end Number
end Go
end ConfigWiring
