import ConfigWiring.Command.Arguments

/-!
# Options that are given

The policy that a command line gives is one that there is, so that no option which is taken up is
lost on the way to the settings.
-/

namespace ConfigWiring

/-- A step behind another one succeeds if both do. -/
theorem bind_eq_ok_iff
    {failure first next : Type}
    {outcome : Except failure first}
    {continuation : first -> Except failure next}
    {result : next} :
    (outcome >>= continuation) = .ok result ↔
      ∃ value, outcome = .ok value ∧ continuation value = .ok result := by
  cases outcome with
  | error => exact ⟨nofun, fun ⟨_, same, _⟩ => nomatch same⟩
  | ok value =>
      refine ⟨fun same => ⟨value, rfl, same⟩, ?_⟩
      rintro ⟨_, same, rest⟩
      cases same
      exact rest

namespace CommandLine

/-- Options among which every policy is one that there is. -/
def NamesPolicies (given : Given) : Prop :=
  ∀ option ∈ given, option.1 = .ctorPolicy -> (CtorNamePolicy.ofWord? option.2).isSome = true

variable {state state' : State} {options : List OptionName}

namespace State

/-- An option that is taken up is one more, and no policy that there is not. -/
theorem namesPolicies_of_give
    {option : OptionName}
    {value : String}
    (before : NamesPolicies state.given)
    (gives : state.give option value = .ok state') :
    NamesPolicies state'.given := by
  unfold give at gives
  split at gives
  · cases gives
  · split at gives
    · cases gives
    · split at gives
      · cases gives
      · split at gives
        · cases gives
        · next allowed =>
            cases gives
            intro given present isPolicy
            rcases List.mem_append.1 present with old | new
            · exact before given old isPolicy
            · obtain rfl := List.mem_singleton.1 new
              obtain rfl : option = .ctorPolicy := isPolicy
              simpa [Option.isSome_iff_ne_none] using allowed

theorem namesPolicies_of_settle
    (before : NamesPolicies state.given)
    (settles : state.settle = .ok state') :
    NamesPolicies state'.given := by
  unfold settle at settles
  split at settles
  · cases settles
    exact before
  · cases settles
  · have unfilled : NamesPolicies { state with waiting? := none }.given := before
    exact namesPolicies_of_give unfilled settles

end State

theorem namesPolicies_of_takeLong
    {spelling : String}
    {value? : Option String}
    (before : NamesPolicies state.given)
    (takes : takeLong options spelling value? state = .ok state') :
    NamesPolicies state'.given := by
  unfold takeLong at takes
  split at takes
  · cases takes
  · split at takes
    · obtain ⟨settled, settles, rest⟩ := bind_eq_ok_iff.1 takes
      have between := State.namesPolicies_of_settle before settles
      split at rest
      · exact State.namesPolicies_of_give between rest
      · cases rest
        exact between
    · split at takes
      · cases takes
      · obtain ⟨settled, settles, rest⟩ := bind_eq_ok_iff.1 takes
        exact State.namesPolicies_of_give (State.namesPolicies_of_settle before settles) rest

theorem namesPolicies_of_takeLetters
    {letters : List Char}
    (before : NamesPolicies state.given)
    (takes : takeLetters options letters state = .ok state') :
    NamesPolicies state'.given := by
  induction letters generalizing state with
  | nil =>
      cases takes
      exact before
  | cons letter letters inductionHypothesis =>
      rw [takeLetters] at takes
      split at takes
      · cases takes
      · obtain ⟨settled, settles, rest⟩ := bind_eq_ok_iff.1 takes
        obtain ⟨given, gives, further⟩ := bind_eq_ok_iff.1 rest
        exact inductionHypothesis
          (State.namesPolicies_of_give (State.namesPolicies_of_settle before settles) gives) further

theorem namesPolicies_of_takeOptions
    {isEnd : String -> Bool}
    {divided divided' : Bool}
    {words words' : List String}
    (before : NamesPolicies state.given)
    (takes : takeOptions isEnd options divided state words = .ok (state', divided', words')) :
    NamesPolicies state'.given := by
  induction words generalizing state divided with
  | nil =>
      rw [takeOptions] at takes
      cases takes
      exact before
  | cons word words inductionHypothesis =>
      cases divided with
      | true =>
          rw [takeOptions] at takes
          cases takes
          exact before
      | false =>
          rw [takeOptions] at takes
          split at takes
          · cases takes
            exact before
          · split at takes
            · exact inductionHypothesis before takes
            · obtain ⟨taken, take, rest⟩ := bind_eq_ok_iff.1 takes
              exact inductionHypothesis (namesPolicies_of_takeLong before take) rest
            · obtain ⟨taken, take, rest⟩ := bind_eq_ok_iff.1 takes
              exact inductionHypothesis (namesPolicies_of_takeLetters before take) rest
            · split at takes
              · have filled : NamesPolicies (state.fill word).given := before
                exact inductionHypothesis filled takes
              · cases takes
                exact before

theorem namesPolicies_of_behindCommand
    {command : CommandName}
    {words : List String}
    {given : Given}
    (reads : behindCommand command words = .ok given) :
    NamesPolicies given := by
  unfold behindCommand at reads
  obtain ⟨⟨state, divided, rest⟩, takes, further⟩ := bind_eq_ok_iff.1 reads
  have none : NamesPolicies State.start.given := List.forall_mem_nil _
  have between := namesPolicies_of_takeOptions none takes
  split at further
  · next same =>
      cases same
      obtain ⟨settled, settles, last⟩ := bind_eq_ok_iff.1 further
      cases last
      exact State.namesPolicies_of_settle between settles
  · cases further

/-- The policy behind the command of a command line is one that there is. -/
theorem namesPolicies_of_read
    {words : List String}
    {line : Line}
    (reads : read words = .ok line) :
    NamesPolicies line.own := by
  unfold read at reads
  obtain ⟨⟨state, divided, rest⟩, _, further⟩ := bind_eq_ok_iff.1 reads
  split at further
  · obtain ⟨_, _, last⟩ := bind_eq_ok_iff.1 further
    cases last
  · cases further
  · split at further
    · cases further
    · split at further
      · cases further
      · obtain ⟨own, behind, last⟩ := bind_eq_ok_iff.1 further
        obtain ⟨settled, _, done⟩ := bind_eq_ok_iff.1 last
        cases done
        exact namesPolicies_of_behindCommand behind

end CommandLine
end ConfigWiring
