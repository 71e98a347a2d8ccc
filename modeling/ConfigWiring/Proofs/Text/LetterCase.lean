import ConfigWiring.Text.CaseMap

/-!
# Letter case of ASCII text

On ASCII characters the case mappings of the Unicode standard are those of the ASCII letters.  An
underscore ends the context that a lower case form may depend on, so that the part of a name behind
an ASCII prefix and an underscore is mapped as if it stood alone.
-/

namespace ConfigWiring
namespace Text

variable {char : Char} {before behind front rest : List Char}

/-! ## One character -/

/-- What holds of each ASCII code holds of each ASCII character. -/
theorem of_ascii
    (property : Char -> Prop)
    (each : ∀ code < 128, property (Char.ofNat code))
    (ascii : char.toNat < 128) :
    property char := by
  have own := each char.toNat ascii
  rwa [Char.ofNat_toNat] at own

/-- The image of an ASCII character is told by the first run of a table alone if everything else in
the table is beyond ASCII. -/
theorem mapCase_of_ascii
    {shifts : List CaseShift}
    {expansions : List (Nat × List Nat)}
    (shiftsBeyond : ∀ shift ∈ shifts.tail, 128 ≤ shift.first)
    (expansionsBeyond : ∀ expansion ∈ expansions, 128 ≤ expansion.1)
    (ascii : char.toNat < 128) :
    mapCase shifts expansions char = mapCase (shifts.take 1) [] char := by
  have unlisted : expansions.lookup char.toNat = none := by
    rw [List.lookup_eq_none_iff]
    intro expansion present
    have beyond := expansionsBeyond expansion present
    exact bne_iff_ne.2 (by omega)
  have uncovered (others : List CaseShift) (beyond : ∀ shift ∈ others, 128 ≤ shift.first) :
      others.find? (CaseShift.covers · char.toNat) = none := by
    rw [List.find?_eq_none]
    intro shift present covered
    have above := beyond shift present
    simp only [CaseShift.covers, Bool.and_eq_true, decide_eq_true_eq] at covered
    omega
  unfold mapCase
  rw [unlisted, List.lookup_nil]
  cases shifts with
  | nil => rfl
  | cons first others =>
      have elsewhere := uncovered others shiftsBeyond
      simp only [List.take_succ_cons, List.take_zero, List.find?_cons, List.find?_nil, elsewhere]

/-- The first runs of the tables hold the cases of a character, which are ASCII characters of the
same size; only an underscore has an underscore for one. -/
def HasAsciiCases (char : Char) : Prop :=
  mapCase (lowerShifts.take 1) [] char = [char.toLower] ∧
    mapCase (upperShifts.take 1) [] char = [char.toUpper] ∧
    char.toUpper.toLower = char.toLower ∧ char.toLower.toNat < 128 ∧
    (char.toLower = '_' -> char = '_') ∧ char.toLower.utf8Size = char.utf8Size
  deriving Decidable

theorem hasAsciiCases_of_ascii (ascii : char.toNat < 128) : HasAsciiCases char :=
  of_ascii HasAsciiCases (by decide +kernel) ascii

/-- Behind the first runs the tables are about other characters, each with some image. -/
theorem tables_beyond_ascii :
    (∀ shift ∈ lowerShifts.tail ++ upperShifts.tail, 128 ≤ shift.first) ∧
      ∀ expansion ∈ lowerExpansions ++ upperExpansions, 128 ≤ expansion.1 ∧ expansion.2 ≠ [] := by
  decide +kernel

theorem lower_of_ascii (ascii : char.toNat < 128) : lower char = [char.toLower] := by
  obtain ⟨shiftsBeyond, expansionsBeyond⟩ := tables_beyond_ascii
  rw [List.forall_mem_append] at shiftsBeyond expansionsBeyond
  exact (mapCase_of_ascii shiftsBeyond.1 (fun one present => (expansionsBeyond.1 one present).1)
    ascii).trans (hasAsciiCases_of_ascii ascii).1

theorem upper_of_ascii (ascii : char.toNat < 128) : upper char = [char.toUpper] := by
  obtain ⟨shiftsBeyond, expansionsBeyond⟩ := tables_beyond_ascii
  rw [List.forall_mem_append] at shiftsBeyond expansionsBeyond
  exact (mapCase_of_ascii shiftsBeyond.2 (fun one present => (expansionsBeyond.2 one present).1)
    ascii).trans (hasAsciiCases_of_ascii ascii).2.1

theorem toLower_toUpper_of_ascii
    (ascii : char.toNat < 128) :
    char.toUpper.toLower = char.toLower :=
  (hasAsciiCases_of_ascii ascii).2.2.1

/-- Only ASCII characters have another ASCII case. -/
theorem toLower_of_not_ascii
    (other : 128 ≤ char.toNat) :
    char.toLower = char := by
  unfold Char.toLower
  rw [dif_neg]
  rintro ⟨-, atMost⟩
  have small : char.toNat ≤ 90 := atMost
  omega

theorem toNat_toLower_lt_iff (char : Char) : char.toLower.toNat < 128 ↔ char.toNat < 128 := by
  by_cases ascii : char.toNat < 128
  · exact iff_of_true (hasAsciiCases_of_ascii ascii).2.2.2.1 ascii
  · rw [toLower_of_not_ascii (Nat.not_lt.1 ascii)]

/-- An underscore has one ASCII case. -/
theorem eq_underscore_of_toLower
    (lowered : char.toLower = '_') :
    char = '_' := by
  have ascii : char.toNat < 128 := by
    rw [← toNat_toLower_lt_iff, lowered]
    decide
  exact (hasAsciiCases_of_ascii ascii).2.2.2.2.1 lowered

/-- A character takes up as many bytes in either ASCII case. -/
theorem utf8Size_toLower (char : Char) : char.toLower.utf8Size = char.utf8Size := by
  by_cases ascii : char.toNat < 128
  · exact (hasAsciiCases_of_ascii ascii).2.2.2.2.2
  · rw [toLower_of_not_ascii (Nat.not_lt.1 ascii)]

/-! ## Texts -/

/-- Whether all characters are ASCII. -/
def Ascii (chars : List Char) : Prop := ∀ char ∈ chars, char.toNat < 128

instance (chars : List Char) : Decidable (Ascii chars) :=
  List.decidableBAll (fun char : Char => char.toNat < 128) chars

/-- Being ASCII does not depend on the ASCII case. -/
theorem Ascii.of_map_toLower
    {chars others : List Char}
    (ascii : Ascii chars)
    (same : others.map Char.toLower = chars.map Char.toLower) :
    Ascii others := by
  intro char present
  rw [← toNat_toLower_lt_iff]
  have image : char.toLower ∈ chars.map Char.toLower := by
    rw [← same]
    exact List.mem_map_of_mem present
  obtain ⟨twin, among, equal⟩ := List.mem_map.1 image
  rw [← equal, toNat_toLower_lt_iff]
  exact ascii twin among

/-- The upper case of an ASCII text differs from it in nothing but the ASCII case. -/
theorem map_toLower_upperText
    {text : String}
    (ascii : Ascii text.toList) :
    (upperText text).toList.map Char.toLower = text.toList.map Char.toLower := by
  rw [upperText, String.toList_ofList]
  generalize text.toList = chars at ascii
  induction chars with
  | nil => rfl
  | cons char chars inductionHypothesis =>
      obtain ⟨first, others⟩ := List.forall_mem_cons.1 ascii
      rw [List.flatMap_cons, upper_of_ascii first, List.singleton_append, List.map_cons,
        inductionHypothesis others, toLower_toUpper_of_ascii first, List.map_cons]

/-! ## Lower case in context -/

theorem lowerBetween_of_ascii
    (ascii : char.toNat < 128)
    (before behind : List Char) :
    lowerBetween before char behind = [char.toLower] := by
  have apart : (char == 'Σ') = false := by
    rw [beq_eq_false_iff_ne]
    rintro rfl
    exact absurd ascii (by decide)
  rw [lowerBetween, apart, lower_of_ascii ascii]
  rfl

/-- ASCII characters are mapped one by one. -/
theorem lowerFrom_append_of_ascii
    (ascii : Ascii front)
    (before rest : List Char) :
    lowerFrom before (front ++ rest) =
      front.map Char.toLower ++ lowerFrom (front.reverse ++ before) rest := by
  induction front generalizing before with
  | nil => rfl
  | cons char front inductionHypothesis =>
      obtain ⟨first, others⟩ := List.forall_mem_cons.1 ascii
      rw [List.cons_append, lowerFrom, lowerBetween_of_ascii first, inductionHypothesis others,
        List.reverse_cons, List.append_assoc]
      rfl

/-- No cased character is met across an underscore. -/
theorem meetsCased_append_underscore (near far : List Char) :
    meetsCased (near ++ '_' :: far) = meetsCased near := by
  have counts : isCaseIgnorable '_' = false := by decide
  have caseless : isCased '_' = false := by decide
  unfold meetsCased
  induction near with
  | nil => simp [counts, caseless]
  | cons char near inductionHypothesis =>
      cases passed : isCaseIgnorable char with
      | true => simpa [passed] using inductionHypothesis
      | false => simp [passed]

/-- What stands in front of an underscore has no say in the lower case of what follows. -/
theorem lowerFrom_append_underscore (near far rest : List Char) :
    lowerFrom (near ++ '_' :: far) rest = lowerFrom near rest := by
  induction rest generalizing near with
  | nil => rfl
  | cons char rest inductionHypothesis =>
      have further := inductionHypothesis (char :: near)
      rw [List.cons_append] at further
      rw [lowerFrom, lowerFrom, further, lowerBetween, lowerBetween, meetsCased_append_underscore]

/-- A character has characters in another case if every expansion of the table has some. -/
theorem mapCase_ne_nil
    {expansions : List (Nat × List Nat)}
    (expanded : ∀ expansion ∈ expansions, expansion.2 ≠ [])
    (shifts : List CaseShift)
    (char : Char) :
    mapCase shifts expansions char ≠ [] := by
  unfold mapCase
  split
  · next codes found =>
      obtain ⟨_, _, split, _⟩ := List.lookup_eq_some_iff.1 found
      have among : (char.toNat, codes) ∈ expansions := by simp [split]
      simpa using expanded _ among
  · split <;> simp

theorem lower_ne_nil (char : Char) : lower char ≠ [] :=
  mapCase_ne_nil (fun one present =>
    (tables_beyond_ascii.2 one (List.mem_append_left _ present)).2) _ char

theorem upper_ne_nil (char : Char) : upper char ≠ [] :=
  mapCase_ne_nil (fun one present =>
    (tables_beyond_ascii.2 one (List.mem_append_right _ present)).2) _ char

/-- Only the empty text is empty in upper case. -/
theorem eq_empty_of_upperText {text : String} (none : upperText text = "") : text = "" := by
  have nothing : text.toList.flatMap upper = [] := by
    rw [← String.toList_inj] at none
    simpa [upperText] using none
  rw [← String.toList_inj]
  cases spelt : text.toList with
  | nil => rfl
  | cons char chars => simp [spelt, upper_ne_nil] at nothing

/-- A text has characters in lower case if it has any. -/
theorem lowerText_ofList_ne_empty
    (nonempty : rest ≠ []) :
    lowerText (String.ofList rest) ≠ "" := by
  cases rest with
  | nil => exact absurd rfl nonempty
  | cons char behind =>
      have first : lowerBetween [] char behind ≠ [] := by
        unfold lowerBetween
        split
        · simp
        · exact lower_ne_nil char
      rw [lowerText, String.toList_ofList, lowerFrom]
      simp [first]

/-- The lower case of a name with an ASCII prefix and an underscore is that of the prefix and that
of what follows. -/
theorem toList_lowerText_of_ascii
    {name : String}
    (ascii : Ascii front)
    (split : name.toList = front ++ '_' :: rest) :
    (lowerText name).toList =
      front.map Char.toLower ++ '_' :: (lowerText (String.ofList rest)).toList := by
  have prefixed : Ascii (front ++ ['_']) := by
    intro char present
    rcases List.mem_append.1 present with inFront | last
    · exact ascii char inFront
    · rw [List.mem_singleton.1 last]
      decide
  rw [lowerText, lowerText, String.toList_ofList, String.toList_ofList, String.toList_ofList, split,
    ← List.singleton_append, ← List.append_assoc, lowerFrom_append_of_ascii prefixed,
    List.reverse_append, List.reverse_singleton, List.append_nil, List.singleton_append,
    ← List.nil_append ('_' :: front.reverse), lowerFrom_append_underscore]
  simp

end Text
end ConfigWiring
