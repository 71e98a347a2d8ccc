import ConfigWiring.Proofs.Go.Foresight

/-!
# The trees that rules yield

What trees a rule makes of some tokens is told step by step, along the rule.  The depth that is
needed grows with the number of tokens, so that it has to be known of no rule.
-/

namespace ConfigWiring
namespace Go
namespace Rule

variable {rule first second : Rule Part} {reach : Nat} {mode : Mode}
  {front further tokens rest : List Token} {trees others : List Tree} {next : Token}

/-- A rule does not fit some tokens. -/
def Misses (rule : Rule Part) (reach : Nat) (mode : Mode) (tokens : List Token) : Prop :=
  ∀ depth, reach ≤ depth -> rule.read Part.rule depth mode tokens = none

/-- A rule makes trees of some tokens, in front of others.  The reach is the depth that is needed
beyond the number of tokens. -/
def Yields
    (rule : Rule Part)
    (reach : Nat)
    (mode : Mode)
    (tokens rest : List Token)
    (trees : List Tree) : Prop :=
  ∀ depth, tokens.length + reach ≤ depth ->
    rule.read Part.rule depth mode (tokens ++ rest) = some (trees, rest)

theorem Yields.mono
    {reach' : Nat}
    (yields : rule.Yields reach mode tokens rest trees)
    (deeper : reach ≤ reach') :
    rule.Yields reach' mode tokens rest trees :=
  fun depth enough => yields depth (by omega)

theorem Misses.mono
    {reach' : Nat}
    (misses : rule.Misses reach mode tokens)
    (deeper : reach ≤ reach') :
    rule.Misses reach' mode tokens :=
  fun depth enough => misses depth (Nat.le_trans deeper enough)

/-! ## Rules that do not fit -/

/-- A rule that refuses some tokens misses all that look alike. -/
theorem Refuses.misses
    {seen : List Token}
    (refuses : rule.Refuses reach mode seen)
    (alike : front.map Token.blur = seen)
    (rest : List Token) :
    rule.Misses reach mode (front ++ rest) :=
  fun depth enough => refuses depth enough front rest alike

/-- A part is foreseen not to fit a token. -/
theorem misses_of_foresee
    {depth : Nat}
    {part : Part}
    {seen : Token}
    (foreseen : (Rule.named part).foresee depth mode [.single seen] = .refuses)
    (alike : next.blur = seen)
    (rest : List Token) :
    (Rule.named part).Misses depth mode (next :: rest) := by
  have refuses : (Rule.named part).Refuses depth mode [seen] :=
    refuses_of_foresee_tokens trivial foreseen
  have look : [next].map Token.blur = [seen] := by rw [List.map_singleton, alike]
  exact refuses.misses look rest

theorem Misses.token
    {test : Token -> Bool}
    (differs : test next = false) :
    (Rule.token test).Misses (reach + 1) mode (next :: rest) := by
  intro depth enough
  obtain ⟨less, rfl, _⟩ := exists_one_less enough
  simp [read_token, readToken, differs]

theorem Misses.joined
    (broken : atBreak mode tokens = true) :
    (Rule.joined : Rule Part).Misses (reach + 1) mode tokens := by
  intro depth enough
  obtain ⟨less, rfl, _⟩ := exists_one_less enough
  simp [read_joined, passIf, broken]

theorem Misses.both_left
    (misses : first.Misses reach mode tokens) :
    (both first second).Misses (reach + 1) mode tokens := by
  intro depth enough
  obtain ⟨less, rfl, reached⟩ := exists_one_less enough
  simp [read_both, Reading.andThen, misses less reached]

/-- Two rules miss tokens that the second one misses if the first one reads nothing. -/
theorem Misses.both_right
    (passes : first.Yields reach mode [] rest [])
    (misses : second.Misses reach mode rest) :
    (both first second).Misses (reach + 1) mode rest := by
  intro depth enough
  obtain ⟨less, rfl, reached⟩ := exists_one_less enough
  have passed := passes less (by simpa using reached)
  rw [List.nil_append] at passed
  simp [read_both, Reading.andThen, passed, misses less reached]

theorem Misses.named
    {part : Part}
    (misses : (Part.rule part).Misses reach mode tokens) :
    (Rule.named part).Misses (reach + 1) mode tokens := by
  intro depth enough
  obtain ⟨less, rfl, reached⟩ := exists_one_less enough
  exact misses less reached

theorem Misses.node
    (kind : NodeKind)
    (misses : rule.Misses reach mode tokens) :
    (Rule.node kind rule).Misses (reach + 1) mode tokens := by
  intro depth enough
  obtain ⟨less, rfl, reached⟩ := exists_one_less enough
  simp [read_node, Reading.wrap, misses less reached]

/-! ## Rules that fit -/

theorem Yields.nothing (rest : List Token) :
    (Rule.nothing : Rule Part).Yields (reach + 1) mode [] rest [] := by
  intro depth enough
  obtain ⟨less, rfl, _⟩ := exists_one_less enough
  rfl

theorem Yields.token
    {test : Token -> Bool}
    (fits : test next = true)
    (rest : List Token) :
    (Rule.token test).Yields (reach + 1) mode [next] rest [.leaf next] := by
  intro depth enough
  obtain ⟨less, rfl, _⟩ := exists_one_less enough
  simp [read_token, readToken, fits]

theorem Yields.lineEnd
    (broken : atBreak mode rest = true) :
    (Rule.lineEnd : Rule Part).Yields (reach + 1) mode [] rest [] := by
  intro depth enough
  obtain ⟨less, rfl, _⟩ := exists_one_less enough
  simp [read_lineEnd, broken]

theorem Yields.joined
    (unbroken : atBreak mode rest = false) :
    (Rule.joined : Rule Part).Yields (reach + 1) mode [] rest [] := by
  intro depth enough
  obtain ⟨less, rfl, _⟩ := exists_one_less enough
  simp [read_joined, passIf, unbroken]

theorem Yields.both
    (yieldsFirst : first.Yields reach mode front (further ++ rest) trees)
    (yieldsSecond : second.Yields reach mode further rest others) :
    (both first second).Yields (reach + 1) mode (front ++ further) rest (trees ++ others) := by
  intro depth enough
  rw [List.length_append] at enough
  obtain ⟨less, rfl⟩ : ∃ less, depth = less + 1 := ⟨depth - 1, by omega⟩
  have found := yieldsFirst less (by omega)
  have foundMore := yieldsSecond less (by omega)
  rw [List.append_assoc]
  simp [read_both, Reading.andThen, found, foundMore]

theorem Yields.either_left
    (yields : first.Yields reach mode tokens rest trees) :
    (either first second).Yields (reach + 1) mode tokens rest trees := by
  intro depth enough
  obtain ⟨less, rfl, reached⟩ := exists_one_less enough
  simp [read_either, yields less reached]

theorem Yields.either_right
    (misses : first.Misses reach mode (tokens ++ rest))
    (yields : second.Yields reach mode tokens rest trees) :
    (either first second).Yields (reach + 1) mode tokens rest trees := by
  intro depth enough
  obtain ⟨less, rfl, reached⟩ := exists_one_less enough
  simp [read_either, misses less (by omega), yields less reached]

/-- What may be there is not there. -/
theorem Yields.optional_none
    (misses : rule.Misses reach mode rest) :
    (optional rule).Yields (reach + 2) mode [] rest [] :=
  .either_right (misses.mono (Nat.le_succ _)) (.nothing rest)

/-- What may go on on the line does not, whether the line ends or something else stands there. -/
theorem Yields.onLine_none
    (misses : atBreak mode rest = false -> rule.Misses reach mode rest) :
    (Part.onLine rule).Yields (reach + 4) mode [] rest [] := by
  cases broken : atBreak mode rest with
  | true => exact .optional_none (Misses.joined broken).both_left
  | false =>
      exact .optional_none (.both_right (.joined broken) ((misses broken).mono (Nat.le_succ _)))

/-- What may go on on the line does so. -/
theorem Yields.onLine_some
    (unbroken : atBreak mode (tokens ++ rest) = false)
    (yields : rule.Yields reach mode tokens rest trees) :
    (Part.onLine rule).Yields (reach + 3) mode tokens rest trees := by
  have goesOn : (Rule.both .joined rule).Yields (reach + 2) mode ([] ++ tokens) rest
      ([] ++ trees) :=
    .both (.joined unbroken) (yields.mono (by omega))
  exact goesOn.either_left

theorem Yields.inside
    {outer : Mode}
    (yields : rule.Yields reach mode tokens rest trees) :
    (Rule.inside mode rule).Yields (reach + 1) outer tokens rest trees := by
  intro depth enough
  obtain ⟨less, rfl, reached⟩ := exists_one_less enough
  exact yields less reached

theorem Yields.named
    {part : Part}
    (yields : (Part.rule part).Yields reach mode tokens rest trees) :
    (Rule.named part).Yields (reach + 1) mode tokens rest trees := by
  intro depth enough
  obtain ⟨less, rfl, reached⟩ := exists_one_less enough
  exact yields less reached

theorem Yields.node
    (kind : NodeKind)
    (yields : rule.Yields reach mode tokens rest trees) :
    (Rule.node kind rule).Yields (reach + 1) mode tokens rest [.node kind trees] := by
  intro depth enough
  obtain ⟨less, rfl, reached⟩ := exists_one_less enough
  simp [read_node, Reading.wrap, yields less reached]

theorem Yields.many_nil
    (misses : rule.Misses reach mode rest) :
    (many rule).Yields (reach + 1) mode [] rest [] := by
  intro depth enough
  obtain ⟨less, rfl, reached⟩ := exists_one_less enough
  simp [read_many, misses less (by omega)]

/-- The depth that one more reading costs is that of the tokens that it takes. -/
theorem Yields.many_cons
    (something : front ≠ [])
    (yields : rule.Yields reach mode front (further ++ rest) trees)
    (yieldsMore : (many rule).Yields (reach + 1) mode further rest others) :
    (many rule).Yields (reach + 1) mode (front ++ further) rest (trees ++ others) := by
  intro depth enough
  have longer : 0 < front.length := List.length_pos_iff.2 something
  rw [List.length_append] at enough
  obtain ⟨less, rfl⟩ : ∃ less, depth = less + 1 := ⟨depth - 1, by omega⟩
  have found := yields less (by omega)
  have foundMore := yieldsMore less (by omega)
  rw [List.append_assoc]
  simp [read_many, Reading.andThen, found, foundMore, longer]

/-- A condition holds of stretches with something behind them if it holds of whatever begins with
one of them and of what is behind all. -/
theorem fits_flatMap
    {element : Type}
    {tokensOf : element -> List Token}
    {elements : List element}
    (fits : List Token -> Prop)
    (keeps : ∀ one ∈ elements, ∀ behind, fits (tokensOf one ++ behind))
    (last : fits rest) :
    fits (elements.flatMap tokensOf ++ rest) := by
  cases elements with
  | nil => exact last
  | cons one more =>
      rw [List.flatMap_cons, List.append_assoc]
      exact keeps one List.mem_cons_self _

/-- A rule is read as often as there are stretches that it makes trees of, if each of them can
stand in front of all others and of what is behind them. -/
theorem Yields.many_flatMap
    {element : Type}
    {tokensOf : element -> List Token}
    {treesOf : element -> List Tree}
    {fits : List Token -> Prop}
    {elements : List element}
    (each : ∀ one ∈ elements, ∀ behind, fits behind ->
      rule.Yields reach mode (tokensOf one) behind (treesOf one))
    (something : ∀ one ∈ elements, tokensOf one ≠ [])
    (keeps : ∀ one ∈ elements, ∀ behind, fits (tokensOf one ++ behind))
    (last : fits rest)
    (stops : rule.Misses reach mode rest) :
    (many rule).Yields (reach + 1) mode (elements.flatMap tokensOf) rest
      (elements.flatMap treesOf) := by
  induction elements with
  | nil => exact .many_nil stops
  | cons one more inductionHypothesis =>
      rw [List.forall_mem_cons] at each something keeps
      exact .many_cons something.1 (each.1 _ (fits_flatMap fits keeps.2 last))
        (inductionHypothesis each.2 something.2 keeps.2)

end Rule
end Go
end ConfigWiring
