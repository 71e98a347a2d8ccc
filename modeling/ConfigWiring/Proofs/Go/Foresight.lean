import ConfigWiring.Proofs.Go.Reading
import Mathlib.Data.List.Forall2

/-!
# Foreseeing what rules read

How a rule reads a text can often be computed from some of its tokens alone.  The others are told
to the computation as stretches: tokens with a known first one, which a part of the language is
known to read over.
-/

namespace ConfigWiring
namespace Go

/-- What stands in front of a reader. -/
inductive Sight where
  /-- A blurred token. -/
  | single (next : Token)
  /-- Some tokens with the given first one that a part is known to read over in a mode. -/
  | stretch (first : Token) (mode : Mode) (part : Part)
  deriving DecidableEq, Repr

namespace Sight

/-- The first token of a sight. -/
def first : Sight -> Token
  | single next => next
  | stretch first _ _ => first

/-- What tokens a sight stands for; the slack is the depth at which all stretches can be read. -/
def Shows (slack : Nat) : Sight -> List Token -> Prop
  | single next, tokens => tokens = [next]
  | stretch first mode part, tokens =>
      tokens.head? = some first ∧ (Rule.named part).Reads slack mode tokens []

theorem Shows.exists_cons
    {slack : Nat}
    {sight : Sight}
    {chunk : List Token}
    (shows : sight.Shows slack chunk) :
    ∃ more, chunk = sight.first :: more := by
  cases sight with
  | single next => exact ⟨[], shows⟩
  | stretch first mode part =>
      obtain ⟨more, begins⟩ := List.head?_eq_some_iff.1 shows.1
      exact ⟨more, begins⟩

end Sight

/-- What can be told of a reading from some sights. -/
inductive Foresight where
  /-- The sights do not tell. -/
  | unknown
  /-- The rule does not fit. -/
  | refuses
  /-- The rule fits and leaves some of the sights. -/
  | reads (rest : List Sight)
  deriving DecidableEq, Repr

namespace Foresight

/-- One token that satisfies a test. -/
def one (test : Token -> Bool) : List Sight -> Foresight
  | [] => unknown
  | .single next :: rest => if test next then reads rest else refuses
  | .stretch first _ _ :: _ => if test first then unknown else refuses

/-- A condition on the first token. -/
def passIf (condition : Token -> Bool) : List Sight -> Foresight
  | [] => unknown
  | next :: rest => if condition next.first then reads (next :: rest) else refuses

/-- Read on with another rule. -/
def andThen (next : List Sight -> Foresight) : Foresight -> Foresight
  | reads rest => next rest
  | other => other

/-- Another reading if the first rule does not fit. -/
def orElse (first second : Foresight) : Foresight :=
  match first with
  | refuses => second
  | other => other

/-- No reading over the sights if the rule fits. -/
def absence (sights : List Sight) : Foresight -> Foresight
  | unknown => unknown
  | refuses => reads sights
  | reads _ => refuses

/-- A reading that goes on with the same rule if it has read over some of the sights. -/
def again (sights : List Sight) (next : List Sight -> Foresight) : Foresight -> Foresight
  | unknown => unknown
  | refuses => reads sights
  | reads rest => if rest.length < sights.length then next rest else unknown

/-- A reading whose trees are put below a node. -/
def below (kind : NodeKind) : Foresight -> Foresight
  | reads rest => if kind = .typeDeclaration then unknown else reads rest
  | other => other

/-- A part that is known to read over the first sight, or another reading. -/
def skipping (mode : Mode) (part : Part) (sights : List Sight) (other : Foresight) : Foresight :=
  match sights with
  | .stretch _ mode' part' :: rest => if mode' = mode ∧ part' = part then reads rest else other
  | _ => other

end Foresight

/-- Whether a line ends in front of a token. -/
def Mode.breaksBefore (mode : Mode) (token : Token) : Bool := mode.breaksEnd && token.afterBreak

/-- Tell from some sights how a rule reads.  The number bounds the depth of the reading. -/
def Rule.foresee : Nat -> Mode -> Rule Part -> List Sight -> Foresight
  | 0, _, _, _ => .unknown
  | _ + 1, _, .nothing, sights => .reads sights
  | _ + 1, _, .token test, sights => .one test sights
  | _ + 1, mode, .lineEnd, sights =>
      (Foresight.passIf mode.breaksBefore sights).orElse (.one Token.endsLine sights)
  | _ + 1, mode, .joined, sights => .passIf (!mode.breaksBefore ·) sights
  | _ + 1, _, .ahead test, sights => .passIf test sights
  | _ + 1, mode, .literalHere, sights => if mode.braceOpensLiteral then .reads sights else .refuses
  | depth + 1, mode, .absent rule, sights => (rule.foresee depth mode sights).absence sights
  | depth + 1, mode, .both first second, sights =>
      (first.foresee depth mode sights).andThen (second.foresee depth mode)
  | depth + 1, mode, .either first second, sights =>
      (first.foresee depth mode sights).orElse (second.foresee depth mode sights)
  | depth + 1, mode, .many rule, sights =>
      (rule.foresee depth mode sights).again sights ((Rule.many rule).foresee depth mode)
  | depth + 1, _, .inside mode rule, sights => rule.foresee depth mode sights
  | depth + 1, mode, .node kind rule, sights => (rule.foresee depth mode sights).below kind
  | depth + 1, mode, .named part, sights =>
      .skipping mode part sights ((Part.rule part).foresee depth mode sights)

/-! ## What is foreseen comes true -/

namespace Foresight

variable {slack reach : Nat} {mode : Mode} {rule first second : Rule Part} {sights : List Sight}
  {chunks : List (List Token)} {foresight other : Foresight} {next : List Sight -> Foresight}

/-- What a rule does with the tokens that some sights stand for. -/
def Holds
    (slack reach : Nat)
    (mode : Mode)
    (rule : Rule Part)
    (chunks : List (List Token)) : Foresight -> Prop
  | unknown => True
  | refuses => rule.Refuses reach mode chunks.flatten
  | reads rest => ∃ front behind, chunks = front ++ behind ∧
      List.Forall₂ (Sight.Shows slack) rest behind ∧
        rule.Reads reach mode front.flatten behind.flatten

/-- A rule that reads nothing leaves all sights. -/
theorem Holds.of_pass
    (shown : List.Forall₂ (Sight.Shows slack) sights chunks)
    (passes : rule.Reads reach mode [] chunks.flatten) :
    (reads sights).Holds slack reach mode rule chunks :=
  ⟨[], chunks, rfl, shown, passes⟩

/-- Rules do as foreseen if whatever they do with some tokens is done at greater depth by another
rule. -/
theorem Holds.imp
    {reach' : Nat}
    {mode' : Mode}
    {rule' : Rule Part}
    (holds : foresight.Holds slack reach mode rule chunks)
    (readsToo : ∀ front behind, rule.Reads reach mode front behind ->
      rule'.Reads reach' mode' front behind)
    (refusesToo : ∀ behind, rule.Refuses reach mode behind -> rule'.Refuses reach' mode' behind) :
    foresight.Holds slack reach' mode' rule' chunks := by
  cases foresight with
  | unknown => trivial
  | refuses => exact refusesToo _ holds
  | reads rest =>
      obtain ⟨front, behind, cut, shown, readsOver⟩ := holds
      exact ⟨front, behind, cut, shown, readsToo _ _ readsOver⟩

theorem holds_one
    {test : Token -> Bool}
    (shown : List.Forall₂ (Sight.Shows slack) sights chunks)
    (readsToken : ∀ next behind, sights.head?.map Sight.first = some next -> test next = true ->
      rule.Reads reach mode [next] behind)
    (refusesToken : ∀ next behind, sights.head?.map Sight.first = some next ->
      test next = false -> rule.Refuses reach mode (next :: behind)) :
    (one test sights).Holds slack reach mode rule chunks := by
  cases shown with
  | nil => trivial
  | @cons sight chunk rest others shows shown =>
      cases sight with
      | single next =>
          obtain rfl : chunk = [next] := shows
          rw [one]
          split
          · next fits => exact ⟨[[next]], others, rfl, shown, readsToken _ _ rfl fits⟩
          · next differs => exact refusesToken _ _ rfl (Bool.eq_false_iff.2 differs)
      | stretch first mode' part =>
          obtain ⟨more, rfl⟩ := shows.exists_cons
          rw [one]
          split
          · trivial
          · next differs => exact refusesToken _ _ rfl (Bool.eq_false_iff.2 differs)

theorem holds_passIf
    {condition : Token -> Bool}
    (shown : List.Forall₂ (Sight.Shows slack) sights chunks)
    (passes : ∀ next behind, condition next = true -> rule.Reads reach mode [] (next :: behind))
    (refusesToken : ∀ next behind, condition next = false ->
      rule.Refuses reach mode (next :: behind)) :
    (passIf condition sights).Holds slack reach mode rule chunks := by
  cases shown with
  | nil => trivial
  | @cons sight chunk rest others shows shown =>
      obtain ⟨more, rfl⟩ := shows.exists_cons
      rw [passIf]
      split
      · next fits => exact .of_pass (.cons shows shown) (passes _ _ fits)
      · next differs => exact refusesToken _ _ (Bool.eq_false_iff.2 differs)

theorem holds_lineEnd (shown : List.Forall₂ (Sight.Shows slack) sights chunks) :
    ((passIf mode.breaksBefore sights).orElse (one Token.endsLine sights)).Holds slack (reach + 1)
      mode .lineEnd chunks := by
  cases sights with
  | nil => trivial
  | cons sight rest =>
      cases broken : mode.breaksBefore sight.first with
      | true =>
          have passed : passIf mode.breaksBefore (sight :: rest) = .reads (sight :: rest) :=
            if_pos broken
          rw [passed]
          cases shown with
          | cons shows shown =>
              obtain ⟨more, rfl⟩ := shows.exists_cons
              exact .of_pass (.cons shows shown) (.lineEnd_break broken)
      | false =>
          have passed : passIf mode.breaksBefore (sight :: rest) = .refuses :=
            if_neg (Bool.eq_false_iff.1 broken)
          rw [passed]
          refine holds_one shown (fun next behind first ends => ?_) fun next behind first goesOn => ?_
          · obtain rfl : sight.first = next := Option.some.inj first
            exact .lineEnd_token broken ends behind
          · obtain rfl : sight.first = next := Option.some.inj first
            exact .lineEnd broken goesOn

theorem Holds.andThen
    (holds : foresight.Holds slack reach mode first chunks)
    (further : ∀ rest behind, List.Forall₂ (Sight.Shows slack) rest behind ->
      (next rest).Holds slack reach mode second behind) :
    (foresight.andThen next).Holds slack (reach + 1) mode (.both first second) chunks := by
  cases foresight with
  | unknown => trivial
  | refuses => exact Rule.Refuses.both_left holds second
  | reads rest =>
      obtain ⟨front, behind, rfl, shown, readsFirst⟩ := holds
      have holdsFurther := further rest behind shown
      rw [Foresight.andThen]
      cases foreseen : next rest with
      | unknown => trivial
      | refuses =>
          rw [foreseen] at holdsFurther
          rw [Holds, List.flatten_append]
          exact .both_right readsFirst holdsFurther
      | reads rest' =>
          rw [foreseen] at holdsFurther
          obtain ⟨between, behind, rfl, shownRest, readsSecond⟩ := holdsFurther
          refine ⟨front ++ between, behind, by simp, shownRest, ?_⟩
          rw [List.flatten_append]
          exact .both (by simpa using readsFirst) readsSecond

theorem Holds.orElse
    (holds : foresight.Holds slack reach mode first chunks)
    (holdsOther : other.Holds slack reach mode second chunks) :
    (foresight.orElse other).Holds slack (reach + 1) mode (.either first second) chunks := by
  cases foresight with
  | unknown => trivial
  | reads rest =>
      obtain ⟨front, behind, cut, shown, readsFirst⟩ := holds
      exact ⟨front, behind, cut, shown, .either_left readsFirst second⟩
  | refuses =>
      rw [Foresight.orElse]
      cases other with
      | unknown => trivial
      | refuses => exact Rule.Refuses.either holds holdsOther
      | reads rest =>
          obtain ⟨front, behind, rfl, shown, readsSecond⟩ := holdsOther
          rw [Holds, List.flatten_append] at holds
          exact ⟨front, behind, rfl, shown, .either_right holds readsSecond⟩

theorem Holds.absence
    (holds : foresight.Holds slack reach mode rule chunks)
    (shown : List.Forall₂ (Sight.Shows slack) sights chunks) :
    (foresight.absence sights).Holds slack (reach + 1) mode (.absent rule) chunks := by
  cases foresight with
  | unknown => trivial
  | refuses => exact .of_pass shown (.absent holds)
  | reads rest =>
      obtain ⟨front, behind, rfl, _, readsOver⟩ := holds
      rw [Foresight.absence, Holds, List.flatten_append]
      exact .absent readsOver

/-- Fewer sights are left only if tokens have been read over. -/
theorem flatten_ne_nil_of_shorter
    {front behind : List (List Token)}
    {rest : List Sight}
    (shown : List.Forall₂ (Sight.Shows slack) sights (front ++ behind))
    (shownRest : List.Forall₂ (Sight.Shows slack) rest behind)
    (shorter : rest.length < sights.length) :
    front.flatten ≠ [] := by
  cases front with
  | nil =>
      have lengths := shown.length_eq
      rw [List.nil_append, ← shownRest.length_eq] at lengths
      omega
  | cons chunk more =>
      cases shown with
      | cons shows _ =>
          obtain ⟨others, rfl⟩ := shows.exists_cons
          simp

theorem Holds.again
    (holds : foresight.Holds slack reach mode rule chunks)
    (shown : List.Forall₂ (Sight.Shows slack) sights chunks)
    (further : ∀ rest behind, List.Forall₂ (Sight.Shows slack) rest behind ->
      (next rest).Holds slack reach mode (.many rule) behind) :
    (foresight.again sights next).Holds slack (reach + 1) mode (.many rule) chunks := by
  cases foresight with
  | unknown => trivial
  | refuses => exact .of_pass shown (.many_nil holds)
  | reads rest =>
      obtain ⟨front, behind, rfl, shownRest, readsOne⟩ := holds
      rw [Foresight.again]
      split
      · next shorter =>
          have something := flatten_ne_nil_of_shorter shown shownRest shorter
          have holdsFurther := further rest behind shownRest
          cases foreseen : next rest with
          | unknown => trivial
          | refuses =>
              rw [foreseen] at holdsFurther
              rw [Holds, List.flatten_append]
              exact .many_cons something readsOne holdsFurther
          | reads rest' =>
              rw [foreseen] at holdsFurther
              obtain ⟨between, behind, rfl, shownLast, readsMore⟩ := holdsFurther
              refine ⟨front ++ between, behind, by simp, shownLast, ?_⟩
              rw [List.flatten_append]
              exact .many_cons something (by simpa using readsOne) readsMore
      · trivial

theorem Holds.below
    (holds : foresight.Holds slack reach mode rule chunks)
    (kind : NodeKind) :
    (foresight.below kind).Holds slack (reach + 1) mode (.node kind rule) chunks := by
  cases foresight with
  | unknown => trivial
  | refuses => exact Rule.Refuses.node holds kind
  | reads rest =>
      rw [Foresight.below]
      split
      · trivial
      · next other =>
          obtain ⟨front, behind, cut, shown, readsOver⟩ := holds
          exact ⟨front, behind, cut, shown, .node other readsOver⟩

theorem Holds.skipping
    {part : Part}
    (holds : other.Holds slack reach mode (.named part) chunks)
    (enough : slack ≤ reach)
    (shown : List.Forall₂ (Sight.Shows slack) sights chunks) :
    (Foresight.skipping mode part sights other).Holds slack reach mode (.named part) chunks := by
  unfold Foresight.skipping
  split
  · next first mode' part' rest =>
      split
      · next same =>
          obtain ⟨rfl, rfl⟩ := same
          cases shown with
          | @cons _ chunk _ others shows shown =>
              refine ⟨[chunk], others, rfl, shown, ?_⟩
              have readsChunk := shows.2.extend (List.nil_prefix (l := others.flatten))
              simpa using readsChunk.mono enough
      · exact holds
  · exact holds

end Foresight

namespace Rule

variable {slack : Nat} {sights : List Sight} {chunks : List (List Token)}

/-- A rule does with the tokens that some sights stand for what is foreseen. -/
theorem holds_foresee
    (depth : Nat)
    (mode : Mode)
    {rule : Rule Part}
    (blind : rule.IsBlind)
    (shown : List.Forall₂ (Sight.Shows slack) sights chunks) :
    (rule.foresee depth mode sights).Holds slack (slack + depth) mode rule chunks := by
  induction depth generalizing mode rule sights chunks with
  | zero => exact trivial
  | succ depth inductionHypothesis =>
    cases rule with
    | nothing => exact .of_pass shown (.nothing _)
    | token test =>
        exact Foresight.holds_one shown (fun _ behind _ fits => .token blind fits behind)
          fun _ _ _ differs => .token blind differs
    | lineEnd => exact Foresight.holds_lineEnd shown
    | joined =>
        refine Foresight.holds_passIf shown (fun next behind unbroken => ?_)
          fun next behind broken => ?_
        · exact .joined ((Bool.not_eq_true' _).mp unbroken)
        · exact .joined ((Bool.not_eq_false' _).mp broken)
    | ahead test =>
        exact Foresight.holds_passIf shown (fun _ _ fits => .ahead blind fits)
          fun _ _ differs => .ahead blind differs
    | literalHere =>
        rw [foresee]
        split
        · next opens => exact .of_pass shown (.literalHere opens _)
        · next shut => exact Rule.Refuses.literalHere (by simpa using shut) _
    | absent rule =>
        have holds := inductionHypothesis mode (show rule.IsBlind from blind) shown
        exact holds.absence shown
    | both first second =>
        have holds := inductionHypothesis mode blind.1 shown
        exact holds.andThen fun rest behind => inductionHypothesis mode blind.2
    | either first second =>
        have holds := inductionHypothesis mode blind.1 shown
        exact holds.orElse (inductionHypothesis mode blind.2 shown)
    | many rule =>
        have holds := inductionHypothesis mode (show rule.IsBlind from blind) shown
        exact holds.again shown fun rest behind => inductionHypothesis mode blind
    | inside mode' rule =>
        have holds := inductionHypothesis mode' (show rule.IsBlind from blind) shown
        exact holds.imp (fun _ _ => .inside) fun _ => .inside
    | node kind rule =>
        have holds := inductionHypothesis mode (show rule.IsBlind from blind) shown
        exact holds.below kind
    | named part =>
        have holds := inductionHypothesis mode (Part.isBlind_rule part) shown
        have holdsNamed := holds.imp (fun _ _ => Reads.named) fun _ => Refuses.named
        exact holdsNamed.skipping (Nat.le_add_right slack (depth + 1)) shown

/-- A rule that is foreseen to read over some sights reads over their tokens. -/
theorem reads_of_foresee
    {depth : Nat}
    {mode : Mode}
    {rule : Rule Part}
    {rest : List Sight}
    {others : List (List Token)}
    (blind : rule.IsBlind)
    (shown : List.Forall₂ (Sight.Shows slack) sights chunks)
    (shownRest : List.Forall₂ (Sight.Shows slack) rest others)
    (foreseen : rule.foresee depth mode (sights ++ rest) = .reads rest) :
    rule.Reads (slack + depth) mode chunks.flatten others.flatten := by
  have holds := holds_foresee depth mode blind (List.rel_append shown shownRest)
  rw [foreseen] at holds
  obtain ⟨front, behind, cut, shownBehind, reads⟩ := holds
  have lengths : others.length = behind.length := by
    rw [← shownRest.length_eq, shownBehind.length_eq]
  obtain ⟨rfl, rfl⟩ := List.append_inj' cut lengths
  exact reads

theorem forall₂_single (slack : Nat) (tokens : List Token) :
    List.Forall₂ (Sight.Shows slack) (tokens.map Sight.single) (tokens.map ([·])) := by
  induction tokens with
  | nil => exact .nil
  | cons first rest inductionHypothesis => exact .cons rfl inductionHypothesis

theorem flatten_map_single (tokens : List Token) : (tokens.map ([·])).flatten = tokens := by
  induction tokens with
  | nil => rfl
  | cons first rest inductionHypothesis => simp [inductionHypothesis]

/-- A rule that is foreseen to read over some tokens reads over them. -/
theorem reads_of_foresee_tokens
    {depth : Nat}
    {mode : Mode}
    {rule : Rule Part}
    {front behind : List Token}
    (blind : rule.IsBlind)
    (foreseen : rule.foresee depth mode (front.map Sight.single ++ behind.map Sight.single) =
      .reads (behind.map Sight.single)) :
    rule.Reads depth mode front behind := by
  have reads := reads_of_foresee blind (forall₂_single 0 front) (forall₂_single 0 behind)
    foreseen
  rwa [flatten_map_single, flatten_map_single, Nat.zero_add] at reads

/-- A rule that is foreseen not to fit some tokens does not fit them. -/
theorem refuses_of_foresee_tokens
    {depth : Nat}
    {mode : Mode}
    {rule : Rule Part}
    {behind : List Token}
    (blind : rule.IsBlind)
    (foreseen : rule.foresee depth mode (behind.map Sight.single) = .refuses) :
    rule.Refuses depth mode behind := by
  have holds := holds_foresee depth mode blind (forall₂_single 0 behind)
  rw [foreseen, Foresight.Holds, flatten_map_single, Nat.zero_add] at holds
  exact holds

end Rule
end Go
end ConfigWiring
