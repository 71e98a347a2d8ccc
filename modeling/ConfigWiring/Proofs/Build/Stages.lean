import ConfigWiring.Build.Context
import ConfigWiring.Proofs.Build.Lifecycle

/-!
# The stages of a build

A run of a command is told as a list of calls, each with how it ends: the preparers first, the
providers next, then the action, and the destroyers last.  The calls of a stage are made in turn,
up to and including the first that stops it, and whether there is a next stage depends on how the
calls ended.  Each call finds what the calls before it left behind, so that the list decides what
a run comes to.  Components that take no part are not seen in it.
-/

namespace ConfigWiring

variable {value : Type}

namespace Outcome

variable {error result : Type}

/-- The outcome with another view of the result. -/
def map {other : Type} (view : result -> other) : Outcome error result -> Outcome error other
  | done value => .done (view value)
  | failed error => .failed error
  | brokenDown message => .brokenDown message
  | tooDeep => .tooDeep

theorem map_some_injective {first second : Outcome error result}
    (same : first.map some = second.map some) :
    first = second := by
  cases first <;> cases second <;> cases same <;> rfl

/-- An outcome without a result, unless it is an error or work that was cut short. -/
def halt? : Outcome error result -> Option (Outcome error Empty)
  | done _ => none
  | failed error => some (.failed error)
  | brokenDown message => some (.brokenDown message)
  | tooDeep => some .tooDeep

/-- The outcome of work that was cut short. -/
def cut? : Outcome error result -> Option (Outcome Empty Empty)
  | done _ | failed _ => none
  | brokenDown message => some (.brokenDown message)
  | tooDeep => some .tooDeep

/-- The error that work ends with. -/
def error? : Outcome error result -> Option error
  | failed error => some error
  | done _ | brokenDown _ | tooDeep => none

end Outcome

/-- What a run calls of the components and of the command. -/
inductive Call (value : Type) where
  /-- A component prepares itself. -/
  | prepare (work : Work value)
  /-- A component offers its constructors. -/
  | offer (provider : Host -> List (Constructor value) × Host)
  /-- The command acts. -/
  | act (work : Work value)
  /-- A component releases what it acquired. -/
  | destroy (work : Work value)

/-- A call with how it ends; an offer ends without a value. -/
abbrev Call.Entry (value : Type) := Call value × Outcome ComponentError (Option value)

namespace Call

variable {limit : Nat} {session middle behind last : Session value} {call : Call value}
  {calls : List (Call value)} {entries others first second : List (Entry value)}
  {stop : Type} {halts : Outcome ComponentError (Option value) -> Option stop} {stop? : Option stop}

/-- How a call ends, and the session behind it.  A preparation has a scope of its own; the
constructors of an offer are given to the scope; an error of a release comes with a notice. -/
def perform (limit : Nat) :
    Call value -> Session value -> Outcome ComponentError (Option value) × Session value
  | prepare work, session =>
      let (outcome, behind) := work.run limit ⟨.empty, session.host⟩
      (outcome.map some, ⟨session.scope, behind.host⟩)
  | offer provider, session =>
      let (constructors, host) := provider session.host
      match Lifecycle.provideAll constructors { session with host } with
      | (.ok (), behind) => (.done none, behind)
      | (.error error, behind) => (.failed (.wiring error), behind)
  | act work, session =>
      let (outcome, behind) := work.run limit session
      (outcome.map some, behind)
  | destroy work, session =>
      match work.run limit session with
      | (.failed error, behind) => (.failed error, behind.tell [.destroyerFailed])
      | (outcome, behind) => (outcome.map some, behind)

/-- Calls are made one after another, and end as noted. -/
inductive Trace (limit : Nat) : Session value -> List (Entry value) -> Session value -> Prop
  /-- No call is made. -/
  | nil (session : Session value) : Trace limit session [] session
  /-- A call is made, and others behind it. -/
  | cons {session middle behind : Session value} {call : Call value}
      {ending : Outcome ComponentError (Option value)} {entries : List (Entry value)}
      (performed : call.perform limit session = (ending, middle))
      (others : Trace limit middle entries behind) :
      Trace limit session ((call, ending) :: entries) behind

/-- Calls in their order, up to and including the first whose ending halts them. -/
inductive Turns {stop : Type} (halts : Outcome ComponentError (Option value) -> Option stop) :
    List (Call value) -> List (Entry value) -> Option stop -> Prop
  /-- No call is left. -/
  | nil : Turns halts [] [] none
  /-- The first call halts the others. -/
  | halt {call : Call value} {ending : Outcome ComponentError (Option value)} {reason : stop}
      {rest : List (Call value)} (halted : halts ending = some reason) :
      Turns halts (call :: rest) [(call, ending)] (some reason)
  /-- The first call goes by, and the others have their turns. -/
  | next {call : Call value} {ending : Outcome ComponentError (Option value)}
      {stop? : Option stop} {rest : List (Call value)}
      {entries : List (Entry value)}
      (passed : halts ending = none) (others : Turns halts rest entries stop?) :
      Turns halts (call :: rest) ((call, ending) :: entries) stop?

theorem Trace.append
    (before : Trace limit session first middle)
    (afterwards : Trace limit middle second behind) :
    Trace limit session (first ++ second) behind := by
  induction before with
  | nil => exact afterwards
  | cons performed _ inductionHypothesis => exact .cons performed (inductionHypothesis afterwards)

theorem Trace.append_nil
    (trace : Trace limit session entries behind) :
    Trace limit session (entries ++ []) behind := by
  simpa using trace

theorem Trace.split
    (trace : Trace limit session (first ++ second) behind) :
    ∃ middle, Trace limit session first middle ∧ Trace limit middle second behind := by
  induction first generalizing session with
  | nil => exact ⟨session, .nil session, trace⟩
  | cons entry first inductionHypothesis =>
      cases trace with
      | cons performed others =>
          obtain ⟨middle, before, afterwards⟩ := inductionHypothesis others
          exact ⟨middle, .cons performed before, afterwards⟩

/-- The calls decide what is left behind them. -/
theorem Trace.unique
    (trace : Trace limit session entries behind)
    (other : Trace limit session entries last) :
    last = behind := by
  induction trace with
  | nil => cases other; rfl
  | cons performed _ inductionHypothesis =>
      cases other with
      | cons again others =>
          obtain ⟨-, rfl⟩ := Prod.mk.inj (again.symm.trans performed)
          exact inductionHypothesis others

/-- The same calls from one session leave one session behind them. -/
theorem Trace.rest
    {left right : List (Entry value)}
    (trace : Trace limit session (entries ++ left) behind)
    (other : Trace limit session (entries ++ right) last) :
    ∃ middle, Trace limit middle left behind ∧ Trace limit middle right last := by
  obtain ⟨middle, before, afterwards⟩ := trace.split
  obtain ⟨same, again, further⟩ := other.split
  obtain rfl := before.unique again
  exact ⟨same, afterwards, further⟩

/-- Calls can always be made in turn. -/
theorem exists_turns
    (limit : Nat)
    (halts : Outcome ComponentError (Option value) -> Option stop)
    (calls : List (Call value))
    (session : Session value) :
    ∃ entries stop? behind, Trace limit session entries behind ∧
      Turns halts calls entries stop? := by
  induction calls generalizing session with
  | nil => exact ⟨[], none, session, .nil session, .nil⟩
  | cons call rest inductionHypothesis =>
      rcases performed : call.perform limit session with ⟨ending, middle⟩
      cases halted : halts ending with
      | some reason => exact ⟨_, some reason, middle, .cons performed (.nil middle), .halt halted⟩
      | none =>
          obtain ⟨entries, stop?, behind, trace, turns⟩ := inductionHypothesis middle
          exact ⟨_, stop?, behind, .cons performed trace, .next halted turns⟩

/-- The first of calls in turn halts the others, or they have their turns behind it. -/
theorem Turns.cons_cases
    {ending : Outcome ComponentError (Option value)}
    {left : List (Entry value)}
    (turns : Turns halts (call :: calls) entries stop?)
    (trace : Trace limit session (entries ++ left) behind)
    (performs : call.perform limit session = (ending, middle)) :
    (∃ reason, halts ending = some reason ∧ stop? = some reason ∧ entries = [(call, ending)] ∧
        Trace limit middle left behind) ∨
      ∃ others, halts ending = none ∧ entries = (call, ending) :: others ∧
        Turns halts calls others stop? ∧ Trace limit middle (others ++ left) behind := by
  cases turns with
  | halt halted =>
      cases trace with
      | cons performed others =>
          obtain ⟨rfl, rfl⟩ := Prod.mk.inj (performed.symm.trans performs)
          exact .inl ⟨_, halted, rfl, rfl, others⟩
  | next passed turns =>
      cases trace with
      | cons performed others =>
          obtain ⟨rfl, rfl⟩ := Prod.mk.inj (performed.symm.trans performs)
          exact .inr ⟨_, passed, rfl, turns, others⟩

/-- There is one way to make calls in turn. -/
theorem Turns.unique
    {left right : List (Entry value)}
    {other? : Option stop}
    (turns : Turns halts calls first stop?)
    (others : Turns halts calls second other?)
    (trace : Trace limit session (first ++ left) behind)
    (further : Trace limit session (second ++ right) last) :
    second = first ∧ other? = stop? := by
  induction calls generalizing session first second with
  | nil =>
      cases turns
      cases others
      exact ⟨rfl, rfl⟩
  | cons call rest inductionHypothesis =>
      rcases performs : call.perform limit session with ⟨ending, middle⟩
      obtain ⟨stop, halted, rfl, rfl, -⟩ | ⟨behindFirst, passed, rfl, turns, trace⟩ :=
        turns.cons_cases trace performs
      · obtain ⟨other, again, rfl, rfl, -⟩ | ⟨_, passed, -⟩ := others.cons_cases further performs
        · exact ⟨rfl, again.symm.trans halted⟩
        · rw [halted] at passed
          cases passed
      · obtain ⟨_, halted, -⟩ | ⟨_, -, rfl, others, further⟩ := others.cons_cases further performs
        · rw [passed] at halted
          cases halted
        · obtain ⟨rfl, same⟩ := inductionHypothesis turns others trace further
          exact ⟨rfl, same⟩

/-! ## What the stages come to -/

variable {left : List (Entry value)} {halt? : Option (Outcome ComponentError Empty)}
  {cut? : Option (Outcome Empty Empty)}

/-- Preparation comes to what the calls of the preparers come to, and leaves the scope alone. -/
theorem Turns.prepareAll_eq
    {works : List (Work value)}
    (turns : Turns Outcome.halt? (works.map prepare) entries halt?)
    (trace : Trace limit session (entries ++ left) behind) :
    ∃ middle, middle.scope = session.scope ∧ Trace limit middle left behind ∧
      Context.prepareAll limit works session.host =
        (halt?.elim (.done ()) fun halt => (halt.mapError Failure.ofAction).map Empty.elim,
          middle.host) := by
  induction works generalizing session entries with
  | nil =>
      cases turns
      exact ⟨session, rfl, trace, rfl⟩
  | cons work rest inductionHypothesis =>
      rw [Context.prepareAll]
      rcases run : work.run limit ⟨.empty, session.host⟩ with ⟨outcome, inner⟩
      have performs : (prepare work).perform limit session =
          (outcome.map some, ⟨session.scope, inner.host⟩) := by
        rw [perform, run]
      obtain ⟨stop, halted, rfl, rfl, ended⟩ | ⟨others, passed, rfl, further, goesOn⟩ :=
        turns.cons_cases trace performs
      · cases outcome <;> cases halted <;>
          exact ⟨⟨session.scope, inner.host⟩, rfl, ended, rfl⟩
      · cases outcome <;> cases passed
        exact inductionHypothesis further goesOn

/-- Constructors are refused only because a key is taken. -/
theorem eq_duplicate_of_provideAll
    {constructors : List (Constructor value)}
    {error : WiringError}
    (refused : Lifecycle.provideAll constructors session = (.error error, behind)) :
    ∃ typeName name, error = .duplicate typeName name := by
  induction constructors generalizing session with
  | nil => cases refused
  | cons constructor rest inductionHypothesis =>
      rw [Lifecycle.provideAll] at refused
      by_cases taken : constructor.key ∈ session.keys
      · rw [Session.provide_of_mem taken] at refused
        cases refused
        exact ⟨_, _, rfl⟩
      · rw [Session.provide_of_not_mem taken] at refused
        exact inductionHypothesis refused

/-- Registration comes to what the offers of the providers come to, and stops only at a key that is
taken. -/
theorem Turns.register_eq
    {components : List (Component value)}
    (turns : Turns Outcome.halt? ((components.filterMap Component.provider?).map offer) entries
      halt?)
    (trace : Trace limit session (entries ++ left) behind) :
    ∃ middle, Trace limit middle left behind ∧
      (halt? = none ∧ Lifecycle.register components session = (.ok (), middle) ∨
        ∃ typeName name, halt? = some (.failed (.wiring (.duplicate typeName name))) ∧
          Lifecycle.register components session = (.error (.duplicate typeName name), middle)) := by
  induction components generalizing session entries with
  | nil =>
      cases turns
      exact ⟨session, trace, .inl ⟨rfl, rfl⟩⟩
  | cons component rest inductionHypothesis =>
      rw [Lifecycle.register]
      cases offered : component.provider? with
      | none =>
          rw [List.filterMap_cons_none offered] at turns
          exact inductionHypothesis turns trace
      | some provider =>
          rw [List.filterMap_cons_some offered, List.map_cons] at turns
          dsimp only
          rcases provided : Lifecycle.provideAll (provider session.host).1
            { session with host := (provider session.host).2 } with ⟨refusal | _, middle⟩
          · have performs : (offer provider).perform limit session =
                (.failed (.wiring refusal), middle) := by
              simp only [perform, provided]
            obtain ⟨typeName, name, rfl⟩ := eq_duplicate_of_provideAll provided
            obtain ⟨stop, halted, rfl, rfl, ended⟩ | ⟨_, passed, -⟩ :=
              turns.cons_cases trace performs
            · cases halted
              exact ⟨middle, ended, .inr ⟨typeName, name, rfl, rfl⟩⟩
            · cases passed
          · have performs : (offer provider).perform limit session = (.done none, middle) := by
              simp only [perform, provided]
            obtain ⟨_, halted, -⟩ | ⟨_, -, rfl, further, goesOn⟩ := turns.cons_cases trace performs
            · cases halted
            · exact inductionHypothesis further goesOn

/-- The errors that calls end with, in order. -/
def errors (entries : List (Entry value)) : List ComponentError :=
  entries.filterMap fun entry => entry.2.error?

/-- The outcome of a release, from its errors and what cut it short. -/
def releaseOf (errors : List ComponentError) :
    Option (Outcome Empty Empty) -> Outcome ComponentError Unit
  | none => Lifecycle.release errors
  | some cut => (cut.mapError Empty.elim).map Empty.elim

/-- The release comes to what the calls of the destroyers come to. -/
theorem Turns.tearDown_eq
    {works : List (Work value)}
    (turns : Turns Outcome.cut? (works.map destroy) entries cut?)
    (trace : Trace limit session (entries ++ []) behind) :
    Lifecycle.tearDown limit works session = (releaseOf (errors entries) cut?, behind) := by
  induction works generalizing session entries with
  | nil =>
      cases turns
      cases trace
      rfl
  | cons work rest inductionHypothesis =>
      rw [Lifecycle.tearDown]
      rcases run : work.run limit session with ⟨outcome, inner⟩
      cases outcome with
      | done result =>
          have performs : (destroy work).perform limit session = (.done (some result), inner) := by
            rw [perform, run]
            rfl
          obtain ⟨_, halted, -⟩ | ⟨others, -, rfl, further, goesOn⟩ :=
            turns.cons_cases trace performs
          · cases halted
          · have rested := inductionHypothesis further goesOn
            exact rested
      | failed error =>
          have performs : (destroy work).perform limit session =
              (.failed error, inner.tell [.destroyerFailed]) := by
            rw [perform, run]
          obtain ⟨_, halted, -⟩ | ⟨others, -, rfl, further, goesOn⟩ :=
            turns.cons_cases trace performs
          · cases halted
          · have rested := inductionHypothesis further goesOn
            have first :
                errors ((destroy work, .failed error) :: others) = error :: errors others :=
              rfl
            dsimp only
            rw [rested, first]
            cases cut? with
            | none => cases errors others <;> rfl
            | some cut =>
                cases cut with
                | done impossible | failed impossible => exact impossible.elim
                | brokenDown | tooDeep => rfl
      | brokenDown message =>
          have performs : (destroy work).perform limit session = (.brokenDown message, inner) := by
            rw [perform, run]
            rfl
          obtain ⟨_, halted, rfl, rfl, ended⟩ | ⟨_, passed, -⟩ := turns.cons_cases trace performs
          · cases halted
            cases ended
            rfl
          · cases passed
      | tooDeep =>
          have performs : (destroy work).perform limit session = (.tooDeep, inner) := by
            rw [perform, run]
            rfl
          obtain ⟨_, halted, rfl, rfl, ended⟩ | ⟨_, passed, -⟩ := turns.cons_cases trace performs
          · cases halted
            cases ended
            rfl
          · cases passed

end Call

namespace Component

/-- Whether a component does anything. -/
def takesPart (component : Component value) : Bool :=
  component.isProvider || component.isDestroyer || component.isPreparer ||
    component.isConfigurer || component.isCommander

end Component

open Call

namespace Context

variable {context : Context value} {name : String} {limit : Nat} {host : Host}
  {entries : List (Entry value)} {outcome : Outcome Failure value}

/-- The calls of the preparers, in the order of the components. -/
def preparations (context : Context value) : List (Call value) :=
  (context.modules.filterMap Component.preparer?).map .prepare

/-- The calls of the providers, in the order of the components. -/
def registrations (context : Context value) : List (Call value) :=
  (context.modules.filterMap Component.provider?).map .offer

/-- The calls of the destroyers, in the reverse order of the components. -/
def releases (context : Context value) : List (Call value) :=
  (context.modules.reverse.filterMap Component.destroyer?).map .destroy

/-- What the action comes to behind the offers of the providers: it does not run if a key is
taken. -/
inductive Acts (work : Work value) :
    Option (Outcome ComponentError Empty) -> List (Entry value) ->
      Outcome ComponentError value -> Prop
  /-- Everything is registered, and the action runs. -/
  | acted (outcome : Outcome ComponentError value) :
      Acts work none [(.act work, outcome.map some)] outcome
  /-- A key is taken, and the action does not run. -/
  | refused {typeName key : String} :
      Acts work (some (.failed (.wiring (.duplicate typeName key)))) []
        (.failed (.wiring (.duplicate typeName key)))

/-- The result of a run, from the outcome of its action, the errors of the destroyers and what cut
the release short. -/
def result : Outcome ComponentError value -> List ComponentError -> Option (Outcome Empty Empty) ->
    Outcome Failure value
  | .done _, _, some cut | .failed _, _, some cut => (cut.mapError Empty.elim).map Empty.elim
  | outcome, errors, _ => Lifecycle.verdict outcome errors

/-- The calls of a run of a command, each with how it ends, and the result of the run. -/
inductive Course (context : Context value) (name : String) :
    List (Entry value) -> Outcome Failure value -> Prop
  /-- The project has no name. -/
  | nameless (empty : context.name = "") :
      Course context name [] (.failed (.invalidContext "Name"))
  /-- The project has no directory. -/
  | rootless (named : context.name ≠ "") (empty : context.root.text = "") :
      Course context name [] (.failed (.invalidContext "Root"))
  /-- A preparer fails or is cut short, and its ending is the result. -/
  | unprepared {prepared : List (Entry value)} {halt : Outcome ComponentError Empty}
      (valid : context.name ≠ "" ∧ context.root.text ≠ "")
      (preparation : Turns Outcome.halt? context.preparations prepared (some halt)) :
      Course context name prepared ((halt.mapError .ofAction).map Empty.elim)
  /-- No component offers the command. -/
  | unknown {prepared : List (Entry value)}
      (valid : context.name ≠ "" ∧ context.root.text ≠ "")
      (preparation : Turns Outcome.halt? context.preparations prepared none)
      (absent : ∀ command ∈ context.commands, command.name ≠ name) :
      Course context name prepared (.failed (.unknownCommand name))
  /-- The first command of the name runs between registration and release. -/
  | ran {prepared provided acts released : List (Entry value)} {command : BuildCommand value}
      {before behind : List (BuildCommand value)} {outcome : Outcome ComponentError value}
      {halt? : Option (Outcome ComponentError Empty)} {cut? : Option (Outcome Empty Empty)}
      (valid : context.name ≠ "" ∧ context.root.text ≠ "")
      (preparation : Turns Outcome.halt? context.preparations prepared none)
      (commands : context.commands = before ++ command :: behind)
      (called : command.name = name)
      (others : ∀ other ∈ before, other.name ≠ name)
      (registration : Turns Outcome.halt? context.registrations provided halt?)
      (action : Acts (command.action context.briefing) halt? acts outcome)
      (release : Turns Outcome.cut? context.releases released cut?) :
      Course context name (prepared ++ (provided ++ (acts ++ released)))
        (result outcome (errors released) cut?)

theorem fault?_eq_none
    (valid : context.name ≠ "" ∧ context.root.text ≠ "") :
    context.fault? = none := by
  simp [fault?, valid]

theorem command?_eq_some
    {command : BuildCommand value}
    {before behind : List (BuildCommand value)}
    (commands : context.commands = before ++ command :: behind)
    (called : command.name = name)
    (others : ∀ other ∈ before, other.name ≠ name) :
    context.command? name = some command := by
  rw [command?, List.find?_eq_some_iff_append]
  exact ⟨by simpa using called, before, behind, commands, by simpa using others⟩

/-- Registration and the action come to what the offers and the call of the action come to. -/
theorem Acts.enact_eq
    {work : Work value}
    {halt? : Option (Outcome ComponentError Empty)}
    {provided acts left : List (Entry value)}
    {ending : Outcome ComponentError value}
    {session behind : Session value}
    (action : Acts work halt? acts ending)
    (fresh : session.scope = .empty)
    (registration : Turns Outcome.halt? context.registrations provided halt?)
    (trace : Trace limit session (provided ++ (acts ++ left)) behind) :
    ∃ middle, Trace limit middle left behind ∧
      Lifecycle.enact limit context.modules work session.host = (ending, middle) := by
  have new : (⟨.empty, session.host⟩ : Session value) = session := by
    rw [← fresh]
  rw [Lifecycle.enact, new]
  obtain ⟨middle, acting, ⟨rfl, registered⟩ | ⟨typeName, key, rfl, registered⟩⟩ :=
    registration.register_eq trace
  · cases action
    rw [registered]
    cases acting with
    | cons performed others =>
        rcases ran : work.run limit middle with ⟨outcome, inner⟩
        rw [perform, ran] at performed
        obtain ⟨same, rfl⟩ := Prod.mk.inj performed
        obtain rfl := Outcome.map_some_injective same
        exact ⟨inner, others, ran⟩
  · cases action
    exact ⟨middle, acting, by rw [registered]⟩

/-- There is one way for an action to come to something. -/
theorem Acts.unique
    {work : Work value}
    {halt? : Option (Outcome ComponentError Empty)}
    {acts others left right : List (Entry value)}
    {ending result : Outcome ComponentError value}
    {session behind last : Session value}
    (action : Acts work halt? acts ending)
    (other : Acts work halt? others result)
    (trace : Trace limit session (acts ++ left) behind)
    (further : Trace limit session (others ++ right) last) :
    others = acts := by
  cases action with
  | acted =>
      cases other
      cases trace with
      | cons performed =>
          cases further with
          | cons again =>
              obtain ⟨same, -⟩ := Prod.mk.inj (again.symm.trans performed)
              rw [same]
  | refused =>
      cases other
      rfl

/-- The result of a run is what its action and its release settle. -/
theorem settle_releaseOf
    (outcome : Outcome ComponentError value)
    (errors : List ComponentError)
    (cut? : Option (Outcome Empty Empty)) :
    Lifecycle.settle outcome (releaseOf errors cut?) = result outcome errors cut? := by
  cases cut? with
  | none =>
      rw [releaseOf, Lifecycle.settle_release]
      cases outcome <;> rfl
  | some cut =>
      cases cut with
      | done impossible | failed impossible => exact impossible.elim
      | brokenDown | tooDeep => cases outcome <;> rfl

/-- The list of calls decides what a run comes to. -/
theorem Course.run_eq
    {behind : Session value}
    (course : Course context name entries outcome)
    (trace : Trace limit ⟨.empty, host⟩ entries behind) :
    context.run limit name host = (outcome, behind.host) := by
  cases course with
  | nameless empty =>
      cases trace
      simp [run, prepare, fault?, empty]
  | rootless named empty =>
      cases trace
      simp [run, prepare, fault?, named, empty]
  | @unprepared _ halt valid preparation =>
      obtain ⟨middle, -, ended, prepared⟩ := preparation.prepareAll_eq trace.append_nil
      cases ended
      rw [run, prepare, fault?_eq_none valid]
      dsimp only at prepared ⊢
      rw [prepared]
      cases halt with
      | done impossible => exact impossible.elim
      | failed | brokenDown | tooDeep => rfl
  | unknown valid preparation absent =>
      obtain ⟨middle, -, ended, prepared⟩ := preparation.prepareAll_eq trace.append_nil
      cases ended
      have missing : context.command? name = none := by
        simpa [command?] using absent
      rw [run, prepare, fault?_eq_none valid]
      dsimp only at prepared ⊢
      rw [prepared]
      dsimp only [Option.elim]
      rw [missing]
  | @ran prepared provided acts released command before later ending halt? cut? valid preparation
      commands called others registration action release =>
      obtain ⟨middle, fresh, registering, preparing⟩ := preparation.prepareAll_eq trace
      have found := command?_eq_some commands called others
      rw [run, prepare, fault?_eq_none valid]
      dsimp only at preparing ⊢
      rw [preparing]
      dsimp only [Option.elim]
      rw [found]
      dsimp only
      obtain ⟨session, releasing, enacted⟩ := action.enact_eq fresh registration registering
      rw [runAction, Lifecycle.runAction, enacted]
      dsimp only
      rw [Lifecycle.destroyers, release.tearDown_eq releasing.append_nil]
      dsimp only
      rw [settle_releaseOf]

/-- A run has a list of calls. -/
theorem exists_course (limit : Nat) (context : Context value) (name : String) (host : Host) :
    ∃ entries outcome behind, Trace limit ⟨.empty, host⟩ entries behind ∧
      Course context name entries outcome := by
  by_cases named : context.name = ""
  · exact ⟨[], _, _, .nil _, .nameless named⟩
  by_cases rooted : context.root.text = ""
  · exact ⟨[], _, _, .nil _, .rootless named rooted⟩
  have valid := And.intro named rooted
  obtain ⟨prepared, halt?, middle, preparing, preparation⟩ :=
    exists_turns limit Outcome.halt? context.preparations ⟨.empty, host⟩
  cases halt? with
  | some halt => exact ⟨prepared, _, middle, preparing, .unprepared valid preparation⟩
  | none =>
      by_cases absent : ∀ command ∈ context.commands, command.name ≠ name
      · exact ⟨prepared, _, middle, preparing, .unknown valid preparation absent⟩
      · obtain ⟨command, found⟩ : ∃ command, context.command? name = some command := by
          rw [← Option.isSome_iff_exists, command?, List.find?_isSome]
          simpa using absent
        rw [command?, List.find?_eq_some_iff_append] at found
        obtain ⟨called, before, later, commands, others⟩ := found
        obtain ⟨provided, halt?, second, registering, registration⟩ :=
          exists_turns limit Outcome.halt? context.registrations middle
        obtain ⟨acts, ending, third, acting, action⟩ : ∃ acts ending third,
            Trace limit second acts third ∧
              Acts (command.action context.briefing) halt? acts ending := by
          obtain ⟨-, -, ⟨rfl, -⟩ | ⟨typeName, key, rfl, -⟩⟩ :=
            registration.register_eq registering.append_nil
          · exact ⟨_, _, _, .cons rfl (.nil _), .acted _⟩
          · exact ⟨_, _, _, .nil _, .refused⟩
        obtain ⟨released, cut?, behind, releasing, release⟩ :=
          exists_turns limit Outcome.cut? context.releases third
        exact ⟨_, _, behind, preparing.append (registering.append (acting.append releasing)),
          .ran valid preparation commands (by simpa using called) (by simpa using others)
            registration action release⟩

/-- A run has one list of calls. -/
theorem Course.unique
    {others : List (Entry value)}
    {result : Outcome Failure value}
    {behind last : Session value}
    (course : Course context name entries outcome)
    (other : Course context name others result)
    (trace : Trace limit ⟨.empty, host⟩ entries behind)
    (further : Trace limit ⟨.empty, host⟩ others last) :
    others = entries := by
  cases course with
  | nameless empty =>
      cases other with
      | nameless | rootless => rfl
      | unprepared valid | unknown valid | ran valid => exact absurd empty valid.1
  | rootless named empty =>
      cases other with
      | nameless | rootless => rfl
      | unprepared valid | unknown valid | ran valid => exact absurd empty valid.2
  | unprepared valid preparation =>
      cases other with
      | nameless empty => exact absurd empty valid.1
      | rootless _ empty => exact absurd empty valid.2
      | unprepared _ again =>
          exact (preparation.unique again trace.append_nil further.append_nil).1
      | unknown _ again => cases (preparation.unique again trace.append_nil further.append_nil).2
      | ran _ again => cases (preparation.unique again trace.append_nil further).2
  | unknown valid preparation absent =>
      cases other with
      | nameless empty => exact absurd empty valid.1
      | rootless _ empty => exact absurd empty valid.2
      | unprepared _ again => cases (preparation.unique again trace.append_nil further.append_nil).2
      | unknown _ again =>
          exact (preparation.unique again trace.append_nil further.append_nil).1
      | ran _ _ commands called => exact absurd called (absent _ (by simp [commands]))
  | ran valid preparation commands called first registration action release =>
      cases other with
      | nameless empty => exact absurd empty valid.1
      | rootless _ empty => exact absurd empty valid.2
      | unprepared _ again => cases (preparation.unique again trace further.append_nil).2
      | unknown _ _ absent => exact absurd called (absent _ (by simp [commands]))
      | ran _ again commandsAgain calledAgain firstAgain registrationAgain actionAgain
          releaseAgain =>
          have found := command?_eq_some commands called first
          rw [command?_eq_some commandsAgain calledAgain firstAgain] at found
          cases found
          obtain ⟨rfl, -⟩ := preparation.unique again trace further
          obtain ⟨middle, registering, registeringAgain⟩ := trace.rest further
          obtain ⟨rfl, rfl⟩ :=
            registration.unique registrationAgain registering registeringAgain
          obtain ⟨second, acting, actingAgain⟩ := registering.rest registeringAgain
          obtain rfl := action.unique actionAgain acting actingAgain
          obtain ⟨third, releasing, releasingAgain⟩ := acting.rest actingAgain
          obtain ⟨rfl, -⟩ :=
            release.unique releaseAgain releasing.append_nil releasingAgain.append_nil
          rfl

/-! ## Components that take no part -/

/-- What is gathered from components does not depend on those that take no part. -/
theorem filterMap_eq_of_filter_eq
    {result : Type}
    {components others : List (Component value)}
    (view : Component value -> Option result)
    (idle : ∀ component, component.takesPart = false -> view component = none)
    (same : others.filter Component.takesPart = components.filter Component.takesPart) :
    others.filterMap view = components.filterMap view := by
  have kept (list : List (Component value)) :
      list.filterMap view = (list.filter Component.takesPart).filterMap view := by
    rw [List.filterMap_filter]
    refine List.filterMap_congr fun component _ => ?_
    cases takes : component.takesPart with
    | true => rfl
    | false => exact idle component takes
  rw [kept others, same, ← kept]

variable {others : List (Component value)}

theorem preparations_withModules
    (same : others.filter Component.takesPart = context.modules.filter Component.takesPart) :
    preparations { context with modules := others } = context.preparations := by
  rw [preparations, preparations, filterMap_eq_of_filter_eq Component.preparer? _ same]
  intro component idle
  simp_all [Component.takesPart, Component.isPreparer]

theorem registrations_withModules
    (same : others.filter Component.takesPart = context.modules.filter Component.takesPart) :
    registrations { context with modules := others } = context.registrations := by
  rw [registrations, registrations, filterMap_eq_of_filter_eq Component.provider? _ same]
  intro component idle
  simp_all [Component.takesPart, Component.isProvider]

theorem releases_withModules
    (same : others.filter Component.takesPart = context.modules.filter Component.takesPart) :
    releases { context with modules := others } = context.releases := by
  rw [releases, releases, List.filterMap_reverse, List.filterMap_reverse,
    filterMap_eq_of_filter_eq Component.destroyer? _ same]
  intro component idle
  simp_all [Component.takesPart, Component.isDestroyer]

theorem commands_withModules
    (same : others.filter Component.takesPart = context.modules.filter Component.takesPart) :
    commands { context with modules := others } = context.commands := by
  rw [commands, commands, filterMap_eq_of_filter_eq Component.commander? _ same]
  intro component idle
  simp_all [Component.takesPart, Component.isCommander]

theorem briefing_withModules
    (same : others.filter Component.takesPart = context.modules.filter Component.takesPart) :
    briefing { context with modules := others } =
      { context.briefing with moduleCount := others.length } := by
  have described : descriptors { context with modules := others } = context.descriptors := by
    rw [descriptors, descriptors, filterMap_eq_of_filter_eq Component.configurer? _ same]
    intro component idle
    simp_all [Component.takesPart, Component.isConfigurer]
  rw [briefing, described]
  rfl

/-- The commands of a name act in one way, however many components there are. -/
def Uncounting (context : Context value) (name : String) : Prop :=
  ∀ command ∈ context.commands, command.name = name -> ∀ count,
    command.action { context.briefing with moduleCount := count } = command.action context.briefing

theorem Uncounting.withModules
    (uncounting : context.Uncounting name)
    (same : others.filter Component.takesPart = context.modules.filter Component.takesPart) :
    Uncounting { context with modules := others } name := by
  intro command present called count
  rw [commands_withModules same] at present
  rw [briefing_withModules same]
  exact (uncounting command present called count).trans
    (uncounting command present called others.length).symm

/-- The calls of a run do not depend on the components that take no part. -/
theorem Course.withModules
    (course : Course context name entries outcome)
    (uncounting : context.Uncounting name)
    (same : others.filter Component.takesPart = context.modules.filter Component.takesPart) :
    Course { context with modules := others } name entries outcome := by
  cases course with
  | nameless empty => exact .nameless empty
  | rootless named empty => exact .rootless named empty
  | unprepared valid preparation =>
      exact .unprepared valid (by rwa [preparations_withModules same])
  | unknown valid preparation absent =>
      exact .unknown valid (by rwa [preparations_withModules same])
        (by rwa [commands_withModules same])
  | ran valid preparation commands called first registration action release =>
      refine .ran valid (by rwa [preparations_withModules same])
        (by rwa [commands_withModules same]) called first
        (by rwa [registrations_withModules same]) ?_ (by rwa [releases_withModules same])
      rw [briefing_withModules same, uncounting _ (by simp [commands]) called]
      exact action

/-- A run of a command makes exactly one list of calls.  It makes none if the project has no name or
no directory, of which the first is told; it calls the preparers in order, up to and including the
first that fails, whose error is the result; nothing more if no component offers the command;
otherwise the providers in order, the action of the first command of the name unless a key is
taken, and every destroyer once in reverse order, unless one is cut short.  Components that take no
part can stand anywhere: the calls and the result are the same, for commands that do not count
components. -/
theorem run_stages
    (limit : Nat)
    (context : Context value)
    (name : String)
    (host : Host) :
    (∃ entries outcome behind,
        Trace limit ⟨.empty, host⟩ entries behind ∧ Course context name entries outcome ∧
          context.run limit name host = (outcome, behind.host) ∧
            ∀ others result last, Trace limit ⟨.empty, host⟩ others last ->
              Course context name others result -> others = entries) ∧
      ∀ modules : List (Component value),
        modules.filter Component.takesPart = context.modules.filter Component.takesPart ->
          context.Uncounting name ->
            (∀ entries outcome, Course { context with modules } name entries outcome ↔
              Course context name entries outcome) ∧
            run limit { context with modules } name host = context.run limit name host := by
  obtain ⟨entries, outcome, behind, trace, course⟩ := exists_course limit context name host
  have result := course.run_eq trace
  refine ⟨⟨entries, outcome, behind, trace, course, result, ?_⟩, ?_⟩
  · intro others result last further other
    exact course.unique other trace further
  · intro modules same uncounting
    refine ⟨fun entries outcome => ⟨fun other => ?_, fun other => ?_⟩, ?_⟩
    · exact other.withModules (uncounting.withModules same) same.symm
    · exact other.withModules uncounting same
    · rw [result]
      exact (course.withModules uncounting same).run_eq trace

/-- Two components take part, between others that do not.  Both prepare themselves, both commands
have one name, and the destroyer of the second component fails. -/
theorem run_stages_of_idle_components :
    let note (line : String) : Work Nat := Work.write line (.done 0)
    let offer (name : String) : Option (Host -> List (Constructor Nat) × Host) :=
      some fun host => ([⟨⟨"u32", name⟩, .done 1⟩], host)
    let first : Component Nat := ⟨offer "a", some (note "close a"), some (note "prepare a"), none,
      some [⟨"go", "", fun briefing => note ("act for " ++ briefing.name)⟩]⟩
    let second : Component Nat := ⟨offer "b",
      some (Work.write "close b" (.fail (.message "stuck"))), some (note "prepare b"), none,
      some [⟨"go", "", fun _ => note "other"⟩]⟩
    let context : Context Nat := ⟨"shop", ⟨"."⟩, "", "", [first, second]⟩
    let wider : Context Nat :=
      { context with modules := [.idle, first, .idle, .idle, second, .idle] }
    wider.run 1 "go" default = context.run 1 "go" default ∧
      (∀ entries outcome,
        Course wider "go" entries outcome ↔ Course context "go" entries outcome) ∧
      ∃ behind, context.run 1 "go" default = (.failed (.teardown (.message "stuck")), behind) ∧
        behind.output = ["prepare a", "prepare b", "act for shop", "close b", "close a"] := by
  intro note offer first second context wider
  have uncounting : context.Uncounting "go" := by
    intro command present _ count
    have either : command = ⟨"go", "", fun briefing => note ("act for " ++ briefing.name)⟩ ∨
        command = ⟨"go", "", fun _ => note "other"⟩ := by
      simpa [context, commands, first, second] using present
    rcases either with rfl | rfl <;> rfl
  obtain ⟨courses, runs⟩ := (run_stages 1 context "go" default).2 wider.modules rfl uncounting
  exact ⟨runs, courses, _, rfl, rfl⟩

end Context
end ConfigWiring
