import ConfigWiring.Proofs.Go.Foresight
import ConfigWiring.Proofs.WiringFile.StandardLexemes

/-!
# Reading the text of a wiring file

If everything can be pasted into the standard text then this is well-formed source, and it declares
no types.
-/

namespace ConfigWiring

open Go

namespace WiringFile

open Go.Lexeme Go.Rule

/-! ## What the lexemes look like -/

/-- Lexemes that look alike wherever they stand. -/
def Alike (left right : List Lexeme) : Prop :=
  ∀ broken, looks broken left = looks broken right ∧ breaksBehind broken left = breaksBehind broken right

namespace Alike

variable {left right left' right' : List Lexeme}

theorem refl (lexemes : List Lexeme) : Alike lexemes lexemes := fun _ => ⟨rfl, rfl⟩

theorem append (front : Alike left right) (back : Alike left' right') :
    Alike (left ++ left') (right ++ right') := by
  intro broken
  rw [looks_append, looks_append, breaksBehind_append, breaksBehind_append, (front broken).1,
    (front broken).2, (back _).1, (back _).2]
  exact ⟨rfl, rfl⟩

theorem string_cons (body body' : String) (rest : Alike left right) :
    Alike (string body :: left) (string body' :: right) := by
  intro broken
  obtain ⟨looksSame, breaksSame⟩ := rest false
  exact ⟨congrArg (look .interpreted [] broken :: ·) looksSame, breaksSame⟩

end Alike

theorem look_of_isTypeWord
    {text : List Char}
    (word : isTypeWord text = true)
    (broken : Bool) :
    look .identifier text broken = look .identifier ['x'] broken := by
  simp only [isTypeWord, Bool.and_eq_true, Bool.not_eq_true'] at word
  have plain : (Token.mk .identifier text 0 0 0 broken []).isPlainName = true := by
    simp [Token.isPlainName, word.2]
  simp only [look, Token.blur, plain]
  rfl

/-- Every type looks like a name or like one behind that of a package. -/
theorem alike_ofType
    {text : String}
    (type : isTypeText text = true) :
    Alike (ofType text) (ofType "x") ∨ Alike (ofType text) (ofType "x.x") := by
  obtain ⟨first, word, ⟨_, spelt⟩ | ⟨second, word', _, spelt⟩⟩ := exists_ofType type
  · refine .inl fun broken => ?_
    rw [spelt]
    exact ⟨congrArg ([·]) (look_of_isTypeWord word broken), rfl⟩
  · refine .inr fun broken => ?_
    have same : [look .identifier first broken, look .mark ['.'] false,
        look .identifier second false] =
        [look .identifier ['x'] broken, look .mark ['.'] false, look .identifier ['x'] false] := by
      rw [look_of_isTypeWord word, look_of_isTypeWord word']
    rw [spelt]
    exact ⟨same, rfl⟩

/-- A descriptor whose parts look like all others. -/
def sample (specType : String) : Descriptor := ⟨"", "", specType, []⟩

theorem alike_constructorLexemes
    {descriptor : Descriptor}
    (pastable : descriptor.isPastable = true) :
    ∃ specType ∈ ["x", "x.x"],
      Alike (constructorLexemes descriptor) (constructorLexemes (sample specType)) := by
  simp only [Descriptor.isPastable, Bool.and_eq_true] at pastable
  have alike {specType : String} (same : Alike (ofType descriptor.specType) (ofType specType)) :
      Alike (constructorLexemes descriptor) (constructorLexemes (sample specType)) := by
    unfold constructorLexemes
    exact .append (.refl _) (.string_cons _ _ (.append (.refl _) (.append same (.append (.refl _)
      (.append same (.append (.refl _) (.string_cons _ _ (.refl _))))))))
  rcases alike_ofType pastable.1.2 with same | same
  · exact ⟨"x", by simp, alike same⟩
  · exact ⟨"x.x", by simp, alike same⟩

/-! ## Reading the parts -/

/-- How an argument of a call is read. -/
def argument : Rule Part := .both (.named .expression) (.optional (.mark "..."))

/-- A comma on the line of the token in front of it. -/
def comma : Token := look .mark [','] false

/-- The closing parenthesis of a list on lines of its own. -/
def closing : Token := look .mark [')'] true

theorem isBlind_argument : argument.IsBlind := by
  simp [argument, IsBlind, Rule.optional, Rule.mark]

theorem reads_constructor
    {descriptor : Descriptor}
    (pastable : descriptor.isPastable = true) :
    argument.Reads 160 .enclosed (looks false (constructorLexemes descriptor)) [comma] := by
  obtain ⟨specType, sampled, alike⟩ := alike_constructorLexemes pastable
  have foreseen : ∀ specType ∈ ["x", "x.x"],
      argument.foresee 160 .enclosed
        ((looks false (constructorLexemes (sample specType))).map Sight.single ++
          [comma].map Sight.single) = .reads ([comma].map Sight.single) := by
    decide +kernel
  rw [(alike false).1]
  exact reads_of_foresee_tokens isBlind_argument (foreseen specType sampled)

/-- No break stands behind the last token of a constructor. -/
theorem breaksBehind_constructorLexemes
    {descriptor : Descriptor}
    (pastable : descriptor.isPastable = true) :
    breaksBehind false (constructorLexemes descriptor) = false := by
  obtain ⟨specType, sampled, alike⟩ := alike_constructorLexemes pastable
  have unbroken : ∀ specType ∈ ["x", "x.x"],
      breaksBehind false (constructorLexemes (sample specType)) = false := by
    decide
  rw [(alike false).2]
  exact unbroken specType sampled

/-- What repeated lexemes look like, each time behind a token. -/
theorem looks_flatMap
    {element : Type}
    {lexemesOf : element -> List Lexeme}
    {elements : List element}
    (ends : ∀ one ∈ elements, breaksBehind false (lexemesOf one) = false) :
    looks false (elements.flatMap lexemesOf) =
        elements.flatMap (fun one => looks false (lexemesOf one)) ∧
      breaksBehind false (elements.flatMap lexemesOf) = false := by
  induction elements with
  | nil => exact ⟨rfl, rfl⟩
  | cons first rest inductionHypothesis =>
      rw [List.forall_mem_cons] at ends
      obtain ⟨looksRest, breaksRest⟩ := inductionHypothesis ends.2
      rw [List.flatMap_cons, looks_append, breaksBehind_append, ends.1, looksRest, breaksRest]
      exact ⟨rfl, rfl⟩

/-- Separators behind all elements of a list are separators in front of all but the first, and
one behind the last. -/
theorem cons_flatMap_append
    {element : Type}
    (separator : Token)
    (tokensOf : element -> List Token)
    (elements : List element) :
    separator :: elements.flatMap (fun one => tokensOf one ++ [separator]) =
      elements.flatMap (fun one => separator :: tokensOf one) ++ [separator] := by
  induction elements with
  | nil => rfl
  | cons first rest inductionHypothesis => simp [← inductionHypothesis]

/-- What the call looks like that registers constructors. -/
theorem looks_callLexemes
    {file : WiringFile}
    {first : Descriptor}
    {rest : List Descriptor}
    (descriptors : file.descriptors = first :: rest)
    (pastable : ∀ descriptor ∈ file.descriptors, descriptor.isPastable = true) :
    looks false file.callLexemes =
      [look .mark ['('] false] ++ (looks false (constructorLexemes first) ++
        rest.flatMap (fun descriptor => comma :: looks false (constructorLexemes descriptor)) ++
          [comma] ++ [closing]) := by
  have ends : ∀ descriptor ∈ file.descriptors,
      breaksBehind false (constructorLexemes descriptor ++ ofText ",") = false := by
    intro descriptor present
    rw [breaksBehind_append, breaksBehind_constructorLexemes (pastable descriptor present)]
    decide
  have one : ∀ descriptor ∈ file.descriptors,
      looks false (constructorLexemes descriptor ++ ofText ",") =
        looks false (constructorLexemes descriptor) ++ [comma] := by
    intro descriptor present
    rw [looks_append, breaksBehind_constructorLexemes (pastable descriptor present)]
    exact congrArg _ (by decide)
  obtain ⟨looksAll, breaksAll⟩ := looks_flatMap ends
  have opened : looks false (ofText "(") = [look .mark ['('] false] ∧
      breaksBehind false (ofText "(") = false := by decide
  have closed : looks false (ofText "\n\t)") = [closing] := by decide
  have separated : file.descriptors.flatMap (fun descriptor =>
      looks false (constructorLexemes descriptor ++ ofText ",")) =
      looks false (constructorLexemes first) ++
        rest.flatMap (fun descriptor => comma :: looks false (constructorLexemes descriptor)) ++
          [comma] := by
    rw [List.flatMap_congr one, descriptors, List.flatMap_cons, List.append_assoc,
      List.singleton_append, cons_flatMap_append, List.append_assoc]
  rw [callLexemes, looks_append, looks_append, opened.1, opened.2, looksAll, breaksAll, closed,
    separated]

/-- The call that registers the constructors is read whole. -/
theorem reads_call
    {file : WiringFile}
    (something : file.descriptors ≠ [])
    (pastable : ∀ descriptor ∈ file.descriptors, descriptor.isPastable = true) :
    (Rule.named .call).Reads (170 + file.descriptors.length) .lines
      (looks false file.callLexemes) [] := by
  obtain ⟨first, rest, descriptors⟩ := List.exists_cons_of_ne_nil something
  rw [looks_callLexemes descriptors pastable]
  rw [descriptors, List.forall_mem_cons] at pastable
  have blindMark (spelling : String) : (Rule.mark spelling : Rule Part).IsBlind :=
    fun token => token.isMark_blur spelling
  -- The further arguments, each with the comma in front of it.
  have further : (Rule.many (.both (.mark ",") argument)).Reads (rest.length + 162) .enclosed
      (rest.flatMap fun descriptor => comma :: looks false (constructorLexemes descriptor))
      ([comma] ++ [closing]) := by
    have stops : (Rule.both (.mark ",") argument).Refuses 161 .enclosed [comma, closing] :=
      refuses_of_foresee_tokens ⟨blindMark ",", isBlind_argument⟩ (by decide)
    have each : ∀ descriptor ∈ rest, (Rule.both (.mark ",") argument).Reads 161 .enclosed
        ([comma] ++ looks false (constructorLexemes descriptor)) [comma] := fun descriptor present =>
      .both (.token (blindMark ",") (by decide) _)
        (reads_constructor (pastable.2 descriptor present))
    have reads := Reads.many_flatMap each (by simp) (by simp) (by simp) stops
    exact reads.mono (by omega)
  have ahead : [comma] <+: rest.flatMap (fun descriptor =>
      comma :: looks false (constructorLexemes descriptor)) ++ ([comma] ++ [closing]) :=
    prefix_flatMap_append (by simp) (by simp)
  have arguments := ((reads_constructor pastable.1).mono (by omega)).extend ahead |>.both further
  have lastComma : (Rule.optional (.mark ",") : Rule Part).Reads (rest.length + 163) .enclosed
      [comma] [closing] :=
    .either_left (.token (blindMark ",") (by decide) _) _
  have list := (arguments.both lastComma).either_left .nothing
  have shut : (Rule.mark ")" : Rule Part).Reads (rest.length + 165) .enclosed [closing] [] :=
    .token (blindMark ")") (by decide) _
  have opened (behind : List Token) : (Rule.mark "(" : Rule Part).Reads (rest.length + 167) .lines
      [look .mark ['('] false] behind :=
    .token (blindMark "(") (by decide) _
  have whole : (Rule.named .call).Reads (rest.length + 169) .lines _ [] :=
    .named ((opened _).both (list.both shut).inside)
  refine whole.mono ?_
  rw [descriptors, List.length_cons]
  omega

end WiringFile
end ConfigWiring
