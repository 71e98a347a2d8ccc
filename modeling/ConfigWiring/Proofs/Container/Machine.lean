import ConfigWiring.Proofs.Container.Request

/-!
# Work step by step

A moment of a run is the session, the constructors at work, each with what goes on behind its
answer, and the work that is left in the innermost of them.  A step does one thing that the
work asks for, or answers the request of a constructor whose factory has ended.  Running work
takes such steps, from its start to where it ends.
-/

namespace ConfigWiring

variable {value : Type}

/-- A constructor at work, with the work that waits for it. -/
structure Frame (value : Type) where
  /-- The constructor. -/
  constructor : Constructor value
  /-- What goes on with the answer. -/
  next : Except WiringError (Instance value) -> Work value

/-- A moment of a run. -/
structure Moment (value : Type) where
  /-- The session. -/
  session : Session value
  /-- The constructors at work, the innermost first. -/
  waiting : List (Frame value)
  /-- The work that is left in the innermost constructor, or in the work itself. -/
  work : Work value

namespace Moment

/-- The first moment of work in a new scope. -/
def start (work : Work value) (host : Host) : Moment value := ⟨⟨.empty, host⟩, [], work⟩

/-- The steps that work takes, each with the keys whose factories it sets to work. -/
inductive Step : Moment value -> List Key -> Moment value -> Prop
  /-- A value that is known is the answer. -/
  | known {session : Session value} {waiting : List (Frame value)} (request : Request)
      {next : Except WiringError (Instance value) -> Work value} {made : Instance value}
      (verdict : session.scope.verdict request = .known made) :
      Step ⟨session, waiting, request.work next⟩ [] ⟨session, waiting, next (.ok made)⟩
  /-- A refusal is the answer. -/
  | refused {session : Session value} {waiting : List (Frame value)} (request : Request)
      {next : Except WiringError (Instance value) -> Work value} {error : WiringError}
      (verdict : session.scope.verdict request = .refused error) :
      Step ⟨session, waiting, request.work next⟩ [] ⟨session, waiting, next (.error error)⟩
  /-- A constructor is put to work, and the work waits for it. -/
  | build {session : Session value} {waiting : List (Frame value)} (request : Request)
      {next : Except WiringError (Instance value) -> Work value} {constructor : Constructor value}
      (verdict : session.scope.verdict request = .build constructor) :
      Step ⟨session, waiting, request.work next⟩ [constructor.key]
        ⟨session.enter constructor.key, ⟨constructor, next⟩ :: waiting, constructor.factory⟩
  /-- What a factory made is kept if it is of the type that the key promises. -/
  | keep {session : Session value} {waiting : List (Frame value)} {frame : Frame value}
      {result : value} {made : Instance value}
      (new : made = (session.leave frame.constructor.key).scope.newInstance frame.constructor result)
      (fits : made.fits frame.constructor.key = true) :
      Step ⟨session, frame :: waiting, .done result⟩ []
        ⟨(session.leave frame.constructor.key).keep frame.constructor.key made, waiting,
          frame.next (.ok made)⟩
  /-- What a factory made is dropped if it is not of that type. -/
  | mismatch {session : Session value} {waiting : List (Frame value)} {frame : Frame value}
      {result : value}
      (unfit : ((session.leave frame.constructor.key).scope.newInstance frame.constructor
        result).fits frame.constructor.key = false) :
      Step ⟨session, frame :: waiting, .done result⟩ []
        ⟨session.leave frame.constructor.key, waiting,
          frame.next (.error (.typeMismatch frame.constructor.key.typeName
            frame.constructor.key.name))⟩
  /-- The error of a factory is the answer, under the name of the constructor. -/
  | fail {session : Session value} {waiting : List (Frame value)} {frame : Frame value}
      {error : ComponentError} :
      Step ⟨session, frame :: waiting, .fail error⟩ []
        ⟨session.leave frame.constructor.key, waiting,
          frame.next (.error (.ofFactory frame.constructor.key error))⟩
  /-- The scope is looked at for an instance. -/
  | constructed {session : Session value} {waiting : List (Frame value)} {key : Key}
      {next : Option (Instance value) -> Work value} :
      Step ⟨session, waiting, .constructed key next⟩ []
        ⟨session, waiting, next (session.scope.constructed? key)⟩
  /-- The scope is given a constructor. -/
  | provide {session : Session value} {waiting : List (Frame value)} {key : Key}
      {factory : Work value} {next : Except WiringError Unit -> Work value} :
      Step ⟨session, waiting, .provide key factory next⟩ []
        ⟨(session.provide ⟨key, factory⟩).2, waiting, next (session.provide ⟨key, factory⟩).1⟩
  /-- The scope is asked for its size. -/
  | measure {session : Session value} {waiting : List (Frame value)}
      {next : ScopeSize -> Work value} :
      Step ⟨session, waiting, .measure next⟩ [] ⟨session, waiting, next session.scope.size⟩
  /-- The host is looked at. -/
  | look {session : Session value} {waiting : List (Frame value)} {next : Host -> Work value} :
      Step ⟨session, waiting, .look next⟩ [] ⟨session, waiting, next session.host⟩
  /-- The host is replaced. -/
  | change {session : Session value} {waiting : List (Frame value)} {host : Host}
      {next : Work value} :
      Step ⟨session, waiting, .change host next⟩ [] ⟨{ session with host }, waiting, next⟩

/-- A moment comes to another in steps that set the factories of the given keys to work, in
order. -/
inductive Run : Moment value -> List Key -> Moment value -> Prop
  /-- No step is taken. -/
  | refl (moment : Moment value) : Run moment [] moment
  /-- One more step is taken. -/
  | tail {first second third : Moment value} {started more : List Key}
      (before : Run first started second) (step : Step second more third) :
      Run first (started ++ more) third

namespace Run

variable {first second third : Moment value} {started more : List Key}

theorem trans
    (before : Run first started second)
    (behind : Run second more third) :
    Run first (started ++ more) third := by
  induction behind with
  | refl => rwa [List.append_nil]
  | tail _ step inductionHypothesis =>
      rw [← List.append_assoc]
      exact inductionHypothesis.tail step

theorem head
    (step : Step first started second)
    (behind : Run second more third) :
    Run first (started ++ more) third :=
  ((Run.refl first).tail step).trans behind

end Run

/-- A moment comes to another in any number of steps. -/
def Reaches (first second : Moment value) : Prop := ∃ started, Run first started second

namespace Reaches

variable {first second third : Moment value} {started : List Key}

theorem refl (moment : Moment value) : Reaches moment moment := ⟨[], .refl moment⟩

theorem trans (before : Reaches first second) (behind : Reaches second third) :
    Reaches first third := by
  obtain ⟨started, ran⟩ := before
  obtain ⟨more, ranOn⟩ := behind
  exact ⟨started ++ more, ran.trans ranOn⟩

theorem tail (before : Reaches first second) (step : Step second started third) :
    Reaches first third := by
  obtain ⟨earlier, ran⟩ := before
  exact ⟨earlier ++ started, ran.tail step⟩

end Reaches

end Moment

open Moment

/-! ## Runs -/

/-- Where an outcome of work shows in the steps: behind the work itself, or deeper inside of it
where the run was cut short. -/
def Arrives (depth : Nat) (origin : Moment value) (waiting : List (Frame value)) :
    Outcome ComponentError value × Session value -> Prop
  | (.done result, behind) => Reaches origin ⟨behind, waiting, .done result⟩
  | (.failed error, behind) => Reaches origin ⟨behind, waiting, .fail error⟩
  | (.brokenDown message, behind) =>
      ∃ inner, Reaches origin ⟨behind, inner ++ waiting, .breakDown message⟩
  | (.tooDeep, behind) =>
      ∃ inner work, depth ≤ inner.length ∧ Reaches origin ⟨behind, inner ++ waiting, work⟩

/-- Where the answer to a request shows in the steps. -/
def Returns (depth : Nat) (origin : Moment value) (waiting : List (Frame value))
    (next : Except WiringError (Instance value) -> Work value) :
    Outcome WiringError (Instance value) × Session value -> Prop
  | (.done made, behind) => Reaches origin ⟨behind, waiting, next (.ok made)⟩
  | (.failed error, behind) => Reaches origin ⟨behind, waiting, next (.error error)⟩
  | (.brokenDown message, behind) =>
      ∃ inner, Reaches origin ⟨behind, inner ++ waiting, .breakDown message⟩
  | (.tooDeep, behind) =>
      ∃ inner work, depth ≤ inner.length ∧ Reaches origin ⟨behind, inner ++ waiting, work⟩

/-- A runner takes the steps of the work that it is given, and gives up no sooner than at a
depth. -/
def Follows (depth : Nat) (runner : Runner value) : Prop :=
  ∀ session waiting work, Arrives depth ⟨session, waiting, work⟩ waiting (runner work session)

theorem Arrives.head
    {depth : Nat}
    {first second : Moment value}
    {waiting : List (Frame value)}
    {ending : Outcome ComponentError value × Session value}
    (before : Reaches first second)
    (arrives : Arrives depth second waiting ending) :
    Arrives depth first waiting ending := by
  obtain ⟨outcome, behind⟩ := ending
  cases outcome with
  | done | failed => exact before.trans arrives
  | brokenDown message =>
      obtain ⟨inner, reached⟩ := arrives
      exact ⟨inner, before.trans reached⟩
  | tooDeep =>
      obtain ⟨inner, work, deep, reached⟩ := arrives
      exact ⟨inner, work, deep, before.trans reached⟩

/-- A request is answered in steps if its factory is run in steps. -/
theorem Follows.returns
    {depth : Nat}
    {runner : Runner value}
    (follows : Follows depth runner)
    (session : Session value)
    (waiting : List (Frame value))
    (request : Request)
    (next : Except WiringError (Instance value) -> Work value) :
    Returns (depth + 1) ⟨session, waiting, request.work next⟩ waiting next
      (session.answer runner request) := by
  rw [Session.answer_eq]
  cases verdict : session.scope.verdict request with
  | known made => exact (Reaches.refl _).tail (.known request verdict)
  | refused error => exact (Reaches.refl _).tail (.refused request verdict)
  | build constructor =>
      have entered : Reaches ⟨session, waiting, request.work next⟩
          ⟨session.enter constructor.key, ⟨constructor, next⟩ :: waiting, constructor.factory⟩ :=
        (Reaches.refl _).tail (.build request verdict)
      have arrives := follows (session.enter constructor.key) (⟨constructor, next⟩ :: waiting)
        constructor.factory
      simp only [Session.construct]
      generalize runner constructor.factory (session.enter constructor.key) = ending at arrives
      obtain ⟨outcome, behind⟩ := ending
      cases outcome with
      | done result =>
          simp only [Session.accept]
          split
          · next fits => exact (entered.trans arrives).tail (.keep rfl fits)
          · next unfit => exact (entered.trans arrives).tail (.mismatch (by simpa using unfit))
      | failed error => exact (entered.trans arrives).tail .fail
      | brokenDown message =>
          obtain ⟨inner, reached⟩ := arrives
          refine ⟨inner ++ [⟨constructor, next⟩], ?_⟩
          rw [List.append_assoc]
          exact entered.trans reached
      | tooDeep =>
          obtain ⟨inner, work, deep, reached⟩ := arrives
          refine ⟨inner ++ [⟨constructor, next⟩], work, by simpa using deep, ?_⟩
          rw [List.append_assoc]
          exact entered.trans reached

/-- Work is run in steps if its factories are. -/
theorem Follows.runWith
    {depth : Nat}
    {runner : Runner value}
    (follows : Follows depth runner) :
    Follows (depth + 1) (Work.runWith runner) := by
  intro session waiting work
  have resumed (request : Request) (next : Except WiringError (Instance value) -> Work value)
      (nextHypothesis : ∀ answer session,
        Arrives (depth + 1) ⟨session, waiting, next answer⟩ waiting
          ((next answer).runWith runner session)) (session : Session value) :
      Arrives (depth + 1) ⟨session, waiting, request.work next⟩ waiting
        ((request.work next).runWith runner session) := by
    have returns := follows.returns session waiting request next
    rw [Work.runWith_work]
    generalize session.answer runner request = answered at returns
    obtain ⟨outcome, behind⟩ := answered
    cases outcome with
    | done made => exact (nextHypothesis (.ok made) behind).head returns
    | failed error => exact (nextHypothesis (.error error) behind).head returns
    | brokenDown | tooDeep => exact returns
  induction work generalizing session with
  | done result => exact Reaches.refl _
  | fail error => exact Reaches.refl _
  | breakDown message => exact ⟨[], Reaches.refl _⟩
  | resolve typeName next nextHypothesis =>
      exact resumed (.ofType typeName) next (fun answer session => nextHypothesis answer session)
        session
  | resolveNamed key next nextHypothesis =>
      exact resumed (.ofKey key) next (fun answer session => nextHypothesis answer session) session
  | constructed key next nextHypothesis =>
      rw [Work.runWith]
      exact (nextHypothesis _ session).head ((Reaches.refl _).tail .constructed)
  | provide key factory next _ nextHypothesis =>
      rw [Work.runWith]
      exact (nextHypothesis _ _).head ((Reaches.refl _).tail .provide)
  | measure next nextHypothesis =>
      rw [Work.runWith]
      exact (nextHypothesis _ session).head ((Reaches.refl _).tail .measure)
  | look next nextHypothesis =>
      rw [Work.runWith]
      exact (nextHypothesis _ session).head ((Reaches.refl _).tail .look)
  | change host next nextHypothesis =>
      rw [Work.runWith]
      exact (nextHypothesis _).head ((Reaches.refl _).tail .change)

/-- Work is run in steps, whatever the limit, and is not given up above it. -/
theorem follows_run (limit : Nat) : Follows (limit + 1) (Work.run limit : Runner value) := by
  induction limit with
  | zero =>
      have givesUp : Follows 0 fun (_ : Work value) session => (.tooDeep, session) :=
        fun session waiting work => ⟨[], work, Nat.le_refl 0, Reaches.refl _⟩
      exact givesUp.runWith
  | succ limit inductionHypothesis => exact inductionHypothesis.runWith

end ConfigWiring
