import ConfigWiring.Go.Source
import ConfigWiring.Proofs.Go.Lexeme
import ConfigWiring.Proofs.Go.StringLiteral
import ConfigWiring.Proofs.Tag.Grammar

/-!
# Tags between double quotes

The text of a tag between double quotes comes from two replacements in its literal: a quote for
each backslash and quote, and then a backslash for each two of them.  If the literal has no other
escapes, this is the text that it denotes.  A quote in a literal is always escaped, so the first
replacement never takes the second backslash of an escape for the first one of another, and it
leaves backslashes in pairs.  A list of pairs that is written as a tag, and the tag as a literal, is
therefore read back.
-/

namespace ConfigWiring

namespace Text

variable {first second char : Char} {replacement rest : List Char}

/-- Two characters that are to be replaced are replaced where they stand. -/
theorem replaceAll_two :
    replaceAll [first, second] replacement (first :: second :: rest) =
      replacement ++ replaceAll [first, second] replacement rest := by
  simp [replaceAll, replaceAll.go]

/-- A character stays if the two that are to be replaced do not begin there. -/
theorem replaceAll_cons
    (other : char = first -> rest.head? ≠ some second) :
    replaceAll [first, second] replacement (char :: rest) =
      char :: replaceAll [first, second] replacement rest := by
  have apart : [first, second].isPrefixOf (char :: rest) = false := by
    rw [Bool.eq_false_iff, Ne, List.isPrefixOf_iff_prefix]
    rintro ⟨behind, same⟩
    obtain ⟨rfl, rfl⟩ := List.cons.inj same
    exact other rfl rfl
  simp [replaceAll, replaceAll.go, apart]

end Text

namespace Go

open Tag Text

/-! ## Literals with escaped quotes and backslashes -/

/-- Whether every escape in a text stands for a quote or a backslash. -/
def escapesMarksOnly : List Char -> Bool
  | [] => true
  | '\\' :: escaped :: rest => (escaped == '"' || escaped == '\\') && escapesMarksOnly rest
  | _ :: rest => escapesMarksOnly rest

/-- What may stand between double quotes without other escapes than those of quotes and
backslashes, with the text that it stands for. -/
inductive Escaped : List Char -> List Char -> Prop
  | nil : Escaped [] []
  /-- A quote or a backslash behind a backslash. -/
  | mark {char : Char} {body text : List Char} (isMark : char = '"' ∨ char = '\\')
      (rest : Escaped body text) : Escaped ('\\' :: char :: body) (char :: text)
  /-- A character that stands for itself. -/
  | plain {char : Char} {body text : List Char} (noQuote : char ≠ '"') (noSlash : char ≠ '\\')
      (noBreak : char ≠ '\n') (rest : Escaped body text) : Escaped (char :: body) (char :: text)

/-- A text in one line can stand between double quotes once its quotes and backslashes are
escaped. -/
theorem escaped_escapeValue
    {text : List Char}
    (oneLine : '\n' ∉ text) :
    Escaped (Params.escapeValue text) text := by
  induction text with
  | nil => exact .nil
  | cons char text inductionHypothesis =>
      rw [List.mem_cons, not_or] at oneLine
      have rest := inductionHypothesis oneLine.2
      rw [Params.escapeValue, List.flatMap_cons]
      split
      · next isMark => exact .mark isMark rest
      · next ordinary =>
          obtain ⟨noQuote, noSlash⟩ := not_or.1 ordinary
          exact .plain noQuote noSlash (Ne.symm oneLine.1) rest

/-- An escaped quote or backslash stands for itself. -/
theorem bodyBytes?_mark
    {char : Char}
    (isMark : char = '"' ∨ char = '\\')
    (rest : List Char) :
    bodyBytes? 0 ('\\' :: char :: rest) =
      (bodyBytes? 0 rest).map (String.utf8EncodeChar char ++ ·) := by
  have read : readEscape? (char :: rest) = some (String.utf8EncodeChar char, 1) := by
    rcases isMark with rfl | rfl <;> rfl
  rw [bodyBytes?, if_neg (by decide), if_neg (by decide), if_pos rfl, read, Option.bind_some]
  rfl

/-- A literal with no other escapes has a body of this form. -/
theorem exists_escaped_of_bodyBytes?
    {text : List Char}
    {bytes : List UInt8}
    (only : escapesMarksOnly text = true)
    (denotes : bodyBytes? 0 text = some bytes) :
    ∃ body value, text = body ++ ['"'] ∧ Escaped body value := by
  fun_induction escapesMarksOnly text generalizing bytes with
  | case1 => cases denotes
  | case2 char rest inductionHypothesis =>
      simp only [Bool.and_eq_true, Bool.or_eq_true, beq_iff_eq] at only
      rw [bodyBytes?_mark only.1] at denotes
      obtain ⟨further, denotesRest, _⟩ := Option.map_eq_some_iff.1 denotes
      obtain ⟨body, value, rfl, escaped⟩ := inductionHypothesis only.2 denotesRest
      exact ⟨'\\' :: char :: body, char :: value, rfl, .mark only.1 escaped⟩
  | case3 char rest noEscape inductionHypothesis =>
      by_cases quote : char = '"'
      · subst quote
        rw [bodyBytes?, if_pos rfl] at denotes
        split at denotes
        · next ends => exact ⟨[], [], by rw [ends]; rfl, .nil⟩
        · cases denotes
      by_cases feed : char = '\n'
      · rw [bodyBytes?, if_neg quote, if_pos feed] at denotes
        cases denotes
      by_cases slash : char = '\\'
      · -- Nothing stands behind the backslash.
        subst slash
        cases rest with
        | nil => cases denotes
        | cons escaped rest => exact (noEscape escaped rest rfl rfl).elim
      · rw [bodyBytes?, if_neg quote, if_neg feed, if_neg slash] at denotes
        obtain ⟨further, denotesRest, _⟩ := Option.map_eq_some_iff.1 denotes
        obtain ⟨body, value, rfl, escaped⟩ := inductionHypothesis only denotesRest
        exact ⟨char :: body, char :: value, rfl, .plain quote slash feed escaped⟩

theorem exists_escaped_of_denoted?
    {literal : List Char}
    {bytes : List UInt8}
    (only : escapesMarksOnly literal = true)
    (denotes : denoted? literal = some bytes) :
    ∃ body text, literal = '"' :: (body ++ ['"']) ∧ Escaped body text := by
  unfold denoted? at denotes
  split at denotes
  · next rest =>
      have onlyRest : escapesMarksOnly rest = true := only
      obtain ⟨body, text, rfl, escaped⟩ := exists_escaped_of_bodyBytes? onlyRest denotes
      exact ⟨body, text, rfl, escaped⟩
  · cases denotes

namespace Escaped

variable {body text : List Char}

/-- No body begins with a quote. -/
theorem head?_ne_quote (escaped : Escaped body text) : body.head? ≠ some '"' := by
  cases escaped with
  | nil => exact nofun
  | mark isMark rest => simp
  | plain noQuote noSlash noBreak rest => simpa using noQuote

/-- The body of a literal denotes the text that it stands for. -/
theorem bodyBytes?_eq (escaped : Escaped body text) :
    bodyBytes? 0 (body ++ ['"']) = some (bytesOf text) := by
  induction escaped with
  | nil => rfl
  | mark isMark _ inductionHypothesis =>
      rw [List.cons_append, List.cons_append, bodyBytes?_mark isMark, inductionHypothesis]
      rfl
  | plain noQuote noSlash noBreak _ inductionHypothesis =>
      rw [List.cons_append, bodyBytes?, if_neg noQuote, if_neg noBreak, if_neg noSlash,
        inductionHypothesis]
      rfl

/-- The lexer takes a body and the quote behind it for one literal. -/
theorem interpretedLength?_eq (escaped : Escaped body text) :
    Lexer.interpretedLength? (body ++ ['"']) = some (body ++ ['"']).length := by
  induction escaped with
  | nil => rfl
  | @mark char body text isMark _ inductionHypothesis =>
      have isEscape : Lexer.isEscape (char :: (body ++ ['"'])) = true := by
        rcases isMark with rfl | rfl <;> rfl
      rw [List.cons_append, List.cons_append, Lexer.interpretedLength?, if_pos isEscape,
        inductionHypothesis]
      rfl
  | plain noQuote noSlash noBreak _ inductionHypothesis =>
      rw [List.cons_append, Lexer.interpretedLength?, inductionHypothesis]
      · rfl
      · exact noQuote
      · exact noBreak
      · exact fun _ _ same => absurd same noSlash
      · exact fun same => absurd same noSlash

/-- One pass from left to right over a body gives the text that it stands for. -/
theorem readValue_eq (escaped : Escaped body text) :
    Params.readValue (body ++ ['"']) = some (text, []) := by
  have quoted : Params.Body body text := by
    induction escaped with
    | nil => exact .nil
    | mark _ _ inductionHypothesis => exact .escape _ inductionHypothesis
    | plain noQuote noSlash _ _ inductionHypothesis =>
        exact .plain noQuote noSlash inductionHypothesis
  exact quoted.readValue_eq []

end Escaped

/-- A text with each backslash written twice. -/
def doubled (text : List Char) : List Char :=
  text.flatMap fun char => if char = '\\' then ['\\', '\\'] else [char]

/-- The first replacement undoes the escapes of quotes and leaves those of backslashes. -/
theorem Escaped.replaceAll_quote
    {body text : List Char}
    (escaped : Escaped body text) :
    replaceAll ['\\', '"'] ['"'] body = doubled text := by
  induction escaped with
  | nil => rfl
  | @mark char body text isMark rest inductionHypothesis =>
      rcases isMark with rfl | rfl
      · rw [replaceAll_two, inductionHypothesis]
        rfl
      · -- What stands behind the second backslash is no quote, so no escape begins with it.
        rw [replaceAll_cons (by simp), replaceAll_cons fun _ => rest.head?_ne_quote,
          inductionHypothesis]
        rfl
  | plain noQuote noSlash noBreak rest inductionHypothesis =>
      rw [replaceAll_cons fun same => absurd same noSlash, inductionHypothesis, doubled, doubled,
        List.flatMap_cons, if_neg noSlash]
      rfl

/-- The second replacement undoes the escapes of backslashes. -/
theorem replaceAll_doubled (text : List Char) :
    replaceAll ['\\', '\\'] ['\\'] (doubled text) = text := by
  induction text with
  | nil => rfl
  | cons char text inductionHypothesis =>
      rw [doubled, List.flatMap_cons, ← doubled]
      split
      · next slash =>
          rw [List.cons_append, List.cons_append, List.nil_append, replaceAll_two,
            inductionHypothesis, slash]
          rfl
      · next noSlash =>
          rw [List.cons_append, List.nil_append,
            replaceAll_cons fun same => absurd same noSlash, inductionHypothesis]

/-- The text of a tag between double quotes is what its body stands for. -/
theorem Escaped.tagText_eq
    {token : Token}
    {body text : List Char}
    (escaped : Escaped body text)
    (interpreted : token.kind = .interpreted)
    (spelt : token.text = '"' :: (body ++ ['"'])) :
    (tagText token).toList = text := by
  have noRaw : token.kind ≠ .raw := by
    rw [interpreted]
    exact nofun
  rw [tagText, if_neg noRaw, spelt, List.drop_one, List.tail_cons, List.dropLast_concat]
  simp only [escaped.replaceAll_quote, replaceAll_doubled, String.toList_ofList]

/-! ## Lists of pairs -/

/-- The texts that a list of pairs is written as in a tag: the pairs in order, with any number of
spaces around each. -/
inductive Conventional : List (String × String) -> List Char -> Prop
  | nil {spaces : List Char} (blank : ∀ char ∈ spaces, char = ' ') : Conventional [] spaces
  | cons (pair : String × String) {spaces text : List Char} {pairs : List (String × String)}
      (blank : ∀ char ∈ spaces, char = ' ') (others : Conventional pairs text) :
      Conventional (pair :: pairs) (spaces ++ (Params.writePair pair ++ text))

/-- The literal of a text: the text between double quotes, with its quotes and backslashes
escaped. -/
def literalOf (text : List Char) : List Char := '"' :: (Params.escapeValue text ++ ['"'])

namespace Conventional

variable {pairs : List (String × String)} {text : List Char}

/-- Pairs in one line are written in one line. -/
theorem oneLine
    (written : Conventional pairs text)
    (keys : ∀ pair ∈ pairs, ∀ char ∈ pair.1.toList, Params.isKeyChar char = true)
    (values : ∀ pair ∈ pairs, '\n' ∉ pair.2.toList) :
    '\n' ∉ text := by
  have noSpace {spaces : List Char} (blank : ∀ char ∈ spaces, char = ' ') : '\n' ∉ spaces :=
    fun present => absurd (blank '\n' present) (by decide)
  induction written with
  | nil blank => exact noSpace blank
  | cons pair blank _ inductionHypothesis =>
      rw [List.forall_mem_cons] at keys values
      have further := inductionHypothesis keys.2 values.2
      have noKey : '\n' ∉ pair.1.toList := fun present =>
        absurd (keys.1 '\n' present) (by decide)
      have noValue : '\n' ∉ Params.escapeValue pair.2.toList := by
        intro present
        obtain ⟨char, among, written⟩ := List.mem_flatMap.1 present
        obtain rfl : '\n' = char := by
          split at written <;> simpa using written
        exact values.1 among
      simp [Params.writePair, noSpace blank, noKey, noValue, further]

/-- Pairs are read from the text that they are written as. -/
theorem readPairs_eq
    (written : Conventional pairs text)
    (keys : ∀ pair ∈ pairs, Params.IsKey pair.1) :
    Params.readPairs text = .ok pairs := by
  have isBlank {spaces : List Char} (blank : ∀ char ∈ spaces, char = ' ') :
      ∀ char ∈ spaces, isBlank char = true := fun char present => by
    rw [blank char present]
    decide
  induction written with
  | nil blank =>
      have nothing := Params.Printed.none.readPairs_eq (by simp) (isBlank blank)
      rwa [List.append_nil] at nothing
  | cons pair blank _ inductionHypothesis =>
      rw [List.forall_mem_cons] at keys
      rw [Params.readPairs_writePair_append keys.1 (isBlank blank), inductionHypothesis keys.2]
      rfl

end Conventional

/-- One space between two pairs is conventional. -/
theorem conventional_writePairs
    {spaces : List Char}
    (blank : ∀ char ∈ spaces, char = ' ')
    (pairs : List (String × String)) :
    Conventional pairs (spaces ++ Params.writePairs pairs) := by
  induction pairs generalizing spaces with
  | nil => exact .nil (by simpa [Params.writePairs] using blank)
  | cons pair pairs inductionHypothesis =>
      cases pairs with
      | nil =>
          rw [Params.writePairs_singleton, ← List.append_nil (Params.writePair pair)]
          exact .cons pair blank (.nil (List.forall_mem_nil _))
      | cons next pairs =>
          rw [Params.writePairs_cons_cons]
          exact .cons pair blank (inductionHypothesis (by simp))

/-- **Tags between double quotes are decoded.**  If no other escapes than those of quotes and
backslashes stand in the literal of a tag, its text is what the literal denotes, as one pass from
left to right gives it.  Hence of pairs whose keys have no blank, colon or quote, and whose values
have no line feed, the text of the tag makes a literal wherever it stands, and is read back as the
same pairs exactly if no key is empty. -/
theorem tagText_denotes_and_reads_back :
    (∀ (token : Token) (bytes : List UInt8), token.kind = .interpreted ->
      denoted? token.text = some bytes -> escapesMarksOnly token.text = true ->
        bytesOf (tagText token).toList = bytes ∧
          Params.readValue (token.text.drop 1) = some ((tagText token).toList, [])) ∧
    ∀ (pairs : List (String × String)) (text : List Char), Conventional pairs text ->
      (∀ pair ∈ pairs, ∀ char ∈ pair.1.toList, Params.isKeyChar char = true) ->
      (∀ pair ∈ pairs, '\n' ∉ pair.2.toList) ->
        denoted? (literalOf text) = some (bytesOf text) ∧
        (∀ rest, Lexer.lexeme '"' ((literalOf text).tail ++ rest) =
          (.interpreted, (literalOf text).tail.length)) ∧
        ∀ token, token.kind = .interpreted -> token.text = literalOf text ->
          (Params.parse (tagText token) = .ok ⟨pairs⟩ ↔ ∀ pair ∈ pairs, pair.1 ≠ "") := by
  refine ⟨fun token bytes interpreted denotes only => ?_,
    fun pairs text written keys values => ?_⟩
  · obtain ⟨body, text, spelt, escaped⟩ := exists_escaped_of_denoted? only denotes
    rw [spelt] at denotes
    rw [escaped.tagText_eq interpreted spelt, spelt]
    exact ⟨Option.some.inj (escaped.bodyBytes?_eq.symm.trans denotes), escaped.readValue_eq⟩
  · have escaped := escaped_escapeValue (written.oneLine keys values)
    refine ⟨escaped.bodyBytes?_eq, Lexer.lexeme_interpreted escaped.interpretedLength?_eq, ?_⟩
    intro token interpreted spelt
    have told := escaped.tagText_eq interpreted spelt
    constructor
    · intro read pair present
      exact (Params.isKey_of_parse read pair present).1
    · intro named
      rw [Params.parse, told, written.readPairs_eq fun pair present =>
        ⟨named pair present, keys pair present⟩]
      rfl

/-- A tag whose values hold quotes and backslashes, next to each other and at the end. -/
theorem tagText_denotes_and_reads_back_of_nested_escapes :
    let pairs := [("env", "a\\\"b\""), ("default", "C:\\")]
    let text := "env:\"a\\\\\\\"b\\\"\" default:\"C:\\\\\""
    let literal :=
      "\"env:\\\"a\\\\\\\\\\\\\\\"b\\\\\\\"\\\" default:\\\"C:\\\\\\\\\\\"\""
    let token : Token := ⟨.interpreted, literal.toList, 0, 0, 0, false, []⟩
    denoted? token.text = some (bytesOf text.toList) ∧ escapesMarksOnly token.text = true ∧
      bytesOf (tagText token).toList = bytesOf text.toList ∧
      Conventional pairs text.toList ∧ token.text = literalOf text.toList ∧
      (∀ pair ∈ pairs, pair.1 ≠ "" ∧ '\n' ∉ pair.2.toList ∧
        ∀ char ∈ pair.1.toList, Params.isKeyChar char = true) ∧
      Params.parse (tagText token) = .ok ⟨pairs⟩ := by
  intro pairs text literal token
  have denotes : denoted? token.text = some (bytesOf text.toList) := by decide
  have only : escapesMarksOnly token.text = true := by decide
  have decoded := tagText_denotes_and_reads_back.1 token _ rfl denotes only
  have written : Conventional pairs text.toList := by
    have spelling : text.toList = [] ++ Params.writePairs pairs := by decide
    rw [spelling]
    exact conventional_writePairs (List.forall_mem_nil _) pairs
  have spelt : token.text = literalOf text.toList := by decide
  have isKey : ∀ pair ∈ pairs, Params.IsKey pair.1 := by decide
  have keys := fun pair present => (isKey pair present).2
  have named := fun pair present => (isKey pair present).1
  have values : ∀ pair ∈ pairs, '\n' ∉ pair.2.toList := by decide
  have read := (tagText_denotes_and_reads_back.2 pairs _ written keys values).2.2 token rfl spelt
  exact ⟨denotes, only, decoded.1, written, spelt,
    fun pair present => ⟨named pair present, values pair present, keys pair present⟩, read.2 named⟩

/-- A pair without a key can be written as a tag but is not read back. -/
theorem not_parse_tagText_of_empty_key :
    let pairs := [("", "v")]
    let text := ":\"v\""
    let token : Token := ⟨.interpreted, "\":\\\"v\\\"\"".toList, 0, 0, 0, false, []⟩
    Conventional pairs text.toList ∧ token.text = literalOf text.toList ∧
      (∀ pair ∈ pairs, '\n' ∉ pair.2.toList ∧
        ∀ char ∈ pair.1.toList, Params.isKeyChar char = true ∧ char ≠ '\\') ∧
      tagText token = text ∧ Params.parse (tagText token) = .error .emptyKey := by
  intro pairs text token
  have spelling : text.toList = [] ++ Params.writePairs pairs := by decide
  have written : Conventional pairs text.toList := by
    rw [spelling]
    exact conventional_writePairs (List.forall_mem_nil _) pairs
  have decoded : tagText token = text := by decide
  refine ⟨written, by decide, fun pair present => ?_, decoded, ?_⟩
  · obtain rfl : pair = ("", "v") := List.mem_singleton.1 present
    exact ⟨by decide, List.forall_mem_nil _⟩
  · have malformed : Params.Malformed ([] ++ ':' :: "\"v\"".toList) .emptyKey :=
      .emptyKey (List.forall_mem_nil _) (.inl rfl)
    have begins : text.toList = [] ++ ':' :: "\"v\"".toList := by decide
    rw [decoded, Params.parse, begins, malformed.readPairs_eq]
    rfl

end Go
end ConfigWiring
