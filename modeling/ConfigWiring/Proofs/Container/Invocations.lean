import ConfigWiring.Proofs.Build.Lifecycle
import ConfigWiring.Proofs.Container.Invariants

/-!
# How often factories are invoked

A scope serves one work after another: registration, the action and the destroyers of a run, or
whatever else asks it for values.  What is kept of all this are the events of its factories, the
start of each and the errors that they end with.  Each start of a factory but the first stands
behind an error of it, since a factory that is at work or has made its instance is not started
again.  A factory that failed is: the claim that none is invoked twice holds of a history exactly
if no factory is started behind an error of its own.
-/

namespace ConfigWiring

variable {value : Type}

/-- What happens to the factory of a key. -/
inductive FactoryEvent where
  /-- It is set to work. -/
  | started (key : Key)
  /-- It ends with an error. -/
  | failed (key : Key)
  deriving DecidableEq, Repr

namespace FactoryEvent

/-- The key of a factory that is set to work. -/
def startedKey? : FactoryEvent -> Option Key
  | started key => some key
  | failed _ => none

/-- The keys of the factories that are set to work, in order. -/
def starts (events : List FactoryEvent) : List Key := events.filterMap startedKey?

theorem count_starts (events : List FactoryEvent) (key : Key) :
    (starts events).count key = events.count (started key) := by
  induction events with
  | nil => rfl
  | cons event events inductionHypothesis =>
      cases event with
      | started other =>
          have first : starts (started other :: events) = other :: starts events := rfl
          rw [first, List.count_cons, List.count_cons, inductionHypothesis]
          simp
      | failed other =>
          have first : starts (failed other :: events) = starts events := rfl
          rw [first, List.count_cons, inductionHypothesis]
          simp

/-- Whenever one looks, a factory has failed as often as it was started, or once less. -/
def Alternate (events : List FactoryEvent) : Prop :=
  ∀ key front, front <+: events ->
    front.count (failed key) ≤ front.count (started key) ∧
      front.count (started key) ≤ front.count (failed key) + 1

namespace Alternate

variable {events front middle back : List FactoryEvent} {key : Key}

/-- A factory that is started has failed as often as it was started before. -/
theorem count_eq_of_started
    (alternate : Alternate events)
    (split : events = front ++ started key :: back) :
    front.count (started key) = front.count (failed key) := by
  have before := alternate key front ⟨_, split.symm⟩
  have behind := alternate key (front ++ [started key]) ⟨back, by simp [split]⟩
  simp only [List.count_append, List.count_singleton_self] at behind
  have other : [started key].count (failed key) = 0 := by simp
  omega

/-- Between two starts of a factory it fails. -/
theorem failed_mem_of_started_twice
    (alternate : Alternate events)
    (split : events = front ++ started key :: (middle ++ started key :: back)) :
    failed key ∈ middle := by
  have first := alternate.count_eq_of_started split
  have later : events = (front ++ started key :: middle) ++ started key :: back := by simp [split]
  have second := alternate.count_eq_of_started later
  simp only [List.count_append, List.count_cons] at second
  have apart : (started key == failed key) = false := by simp
  rw [apart] at second
  rw [← List.count_pos_iff]
  simp only [beq_self_eq_true, if_true] at second
  simp at second
  omega

/-- No factory is started twice exactly if none is started behind an error of its own. -/
theorem nodup_starts_iff
    (alternate : Alternate events) :
    (starts events).Nodup ↔
      ∀ front key back, events = front ++ started key :: back -> failed key ∉ front := by
  rw [List.nodup_iff_count_le_one]
  constructor
  · intro once front key back split failedBefore
    have before := alternate.count_eq_of_started split
    have some := List.count_pos_iff.2 failedBefore
    have atMost := once key
    rw [count_starts, split, List.count_append, List.count_cons_self] at atMost
    omega
  · intro spared key
    rw [count_starts]
    refine Nat.not_lt.1 fun twice => ?_
    obtain ⟨front, rest, split, new⟩ :=
      List.eq_append_cons_of_mem (List.count_pos_iff.1 (Nat.lt_of_succ_lt twice))
    rw [split, List.count_append, List.count_eq_zero.2 new, List.count_cons_self] at twice
    have further : 0 < rest.count (started key) := by omega
    obtain ⟨middle, back, rfl⟩ := List.append_of_mem (List.count_pos_iff.1 further)
    have failedBetween := alternate.failed_mem_of_started_twice split
    exact spared (front ++ started key :: middle) key back (by simp [split])
      (List.mem_append_right _ (List.mem_cons_of_mem _ failedBetween))

end Alternate
end FactoryEvent

open FactoryEvent

namespace Scope

/-- How often the factory of a key has been started and has not failed: once if it is at work or
has made the instance of the key. -/
def held (scope : Scope value) (key : Key) : Nat :=
  if key ∈ scope.inProgress ∨ (scope.instance? key).isSome = true then 1 else 0

variable {scope : Scope value} {key : Key}

theorem held_of_mem (atWork : key ∈ scope.inProgress) : scope.held key = 1 :=
  if_pos (.inl atWork)

theorem held_of_isSome (made : (scope.instance? key).isSome = true) : scope.held key = 1 :=
  if_pos (.inr made)

theorem held_of_not_mem
    (idle : key ∉ scope.inProgress)
    (unmade : scope.instance? key = none) :
    scope.held key = 0 := by
  rw [held, if_neg]
  simp [idle, unmade]

/-- What counts of a scope is which keys are at work and have instances. -/
theorem held_congr
    {other : Scope value}
    (work : key ∈ scope.inProgress ↔ key ∈ other.inProgress)
    (made : scope.instance? key = other.instance? key) :
    scope.held key = other.held key := by
  simp only [held, work, made]

/-- To leave a key counts for no other key. -/
theorem held_leave
    {left : Key}
    (apart : key ≠ left) :
    (scope.leave left).held key = scope.held key :=
  held_congr (by simp [leave, apart]) rfl

end Scope

namespace Moment

variable {first second third moment : Moment value} {started more : List Key}
  {events : List FactoryEvent} {waiting : List (Frame value)} {host : Host} {work : Work value}

/-! ## Histories -/

/-- The key of the innermost constructor if its factory has come to an error. -/
def failing? (moment : Moment value) : Option Key :=
  match moment.work with
  | .fail _ => moment.waiting.head?.map (·.constructor.key)
  | _ => none

/-- The events of a step from a moment that sets the factories of keys to work. -/
def stepEvents (moment : Moment value) (started : List Key) : List FactoryEvent :=
  started.map .started ++ moment.failing?.toList.map .failed

/-- What happens to factories while a scope serves works one after another.  A work may be left at
any moment, be it at its end or because it breaks down, and the next one finds the scope as it
is. -/
inductive History : Moment value -> List FactoryEvent -> Moment value -> Prop
  /-- Nothing has happened. -/
  | refl (moment : Moment value) : History moment [] moment
  /-- The work takes a step. -/
  | step {first second third : Moment value} {events : List FactoryEvent} {started : List Key}
      (before : History first events second) (step : Step second started third) :
      History first (events ++ second.stepEvents started) third
  /-- The scope serves another work, perhaps on another host. -/
  | next {first second : Moment value} {events : List FactoryEvent}
      (before : History first events second) (host : Host) (work : Work value) :
      History first events ⟨⟨second.session.scope, host⟩, [], work⟩

/-- The moment with further constructors that wait outside of the others. -/
def within (moment : Moment value) (outer : List (Frame value)) : Moment value :=
  { moment with waiting := moment.waiting ++ outer }

/-- A step is taken in the same way, whatever waits outside. -/
theorem Step.within
    (step : Step first started second)
    (outer : List (Frame value)) :
    Step (first.within outer) started (second.within outer) := by
  cases step with
  | known request verdict => exact .known request verdict
  | refused request verdict => exact .refused request verdict
  | build request verdict => exact .build request verdict
  | keep new fits => exact .keep new fits
  | mismatch unfit => exact .mismatch unfit
  | fail => exact .fail
  | constructed => exact .constructed
  | provide => exact .provide
  | measure => exact .measure
  | look => exact .look
  | change => exact .change

/-- A step has at most one event. -/
theorem Step.length_events_le
    (step : Step first started second) :
    (first.stepEvents started).length ≤ 1 := by
  cases step with
  | known request | refused request | build request =>
      cases request <;> simp [stepEvents, failing?, Request.work]
  | keep | mismatch | fail | constructed | provide | measure | look | change =>
      simp [stepEvents, failing?]

/-- The innermost constructor that waits is at work. -/
theorem Consistent.innermost_mem
    {session : Session value}
    {frame : Frame value}
    {work : Work value}
    (consistent : Consistent ⟨session, frame :: waiting, work⟩) :
    frame.constructor.key ∈ session.scope.inProgress := by
  rw [show session.scope.inProgress = _ from consistent.waiting]
  exact List.mem_cons_self

/-- A constructor that is given to a scope counts for nothing before it is put to work. -/
theorem held_provide (session : Session value) (constructor : Constructor value) (key : Key) :
    (session.provide constructor).2.scope.held key = session.scope.held key := by
  unfold Session.provide Scope.provide
  by_cases present : (session.scope.find? constructor.key).isSome = true
  · rw [if_pos present]
  · rw [if_neg present]
    rfl

/-- A step that starts a factory finds it idle and leaves it at work; one that ends with an error
leaves it idle; any other step leaves what a factory has made or is about to make. -/
theorem Consistent.held_step
    (consistent : first.Consistent)
    (step : Step first started second)
    (key : Key) :
    (first.stepEvents started).count (.started key) + first.session.scope.held key =
      (first.stepEvents started).count (.failed key) + second.session.scope.held key := by
  cases step with
  | known request | refused request => cases request <;> simp [stepEvents, failing?, Request.work]
  | constructed | measure | look | change => simp [stepEvents, failing?]
  | @build session waiting request next constructor verdict =>
      obtain ⟨_, _, unmade, idle⟩ := Scope.verdict_eq_build verdict
      rw [consistent.guarded.constructed?_eq] at unmade
      have calm : failing? ⟨session, waiting, request.work next⟩ = none := by
        cases request <;> rfl
      have entered : (session.enter constructor.key).scope.inProgress =
          constructor.key :: session.scope.inProgress := rfl
      by_cases same : key = constructor.key
      · subst same
        rw [Scope.held_of_not_mem idle unmade, Scope.held_of_mem (by simp [entered])]
        simp [stepEvents, calm]
      · have others : (session.enter constructor.key).scope.held key = session.scope.held key :=
          Scope.held_congr (by simp [entered, same]) rfl
        simp [stepEvents, calm, others, Ne.symm same]
  | @keep session waiting frame result made new fits =>
      have atWork := consistent.innermost_mem
      have calm : stepEvents ⟨session, frame :: waiting, .done result⟩ [] = [] := rfl
      rw [calm]
      by_cases same : key = frame.constructor.key
      · subst same
        rw [Scope.held_of_mem atWork, Scope.held_of_isSome (by simp [Session.keep])]
        rfl
      · have kept :
            ((session.leave frame.constructor.key).keep frame.constructor.key made).scope.held key =
              (session.leave frame.constructor.key).scope.held key :=
          Scope.held_congr Iff.rfl (by simp [Session.keep, same])
        have left : (session.leave frame.constructor.key).scope.held key = session.scope.held key :=
          Scope.held_leave same
        simp [kept, left]
  | mismatch unfit =>
      rw [newInstance_fits] at unfit
      cases unfit
  | @fail session waiting frame error =>
      obtain ⟨_, _, idle, unmade⟩ := consistent.leave
      have events : stepEvents ⟨session, frame :: waiting, .fail error⟩ [] =
          [.failed frame.constructor.key] := rfl
      rw [events]
      by_cases same : key = frame.constructor.key
      · subst same
        rw [Scope.held_of_mem consistent.innermost_mem, Scope.held_of_not_mem idle unmade]
        simp
      · have left : (session.leave frame.constructor.key).scope.held key = session.scope.held key :=
          Scope.held_leave same
        simp [left, Ne.symm same]
  | @provide session waiting key factory next =>
      simp [stepEvents, failing?, held_provide]

/-- What stands outside does not change the events of a step. -/
theorem Step.stepEvents_within
    (step : Step first started second)
    (outer : List (Frame value)) :
    (first.within outer).stepEvents started = first.stepEvents started := by
  cases step with
  | known request | refused request | build request => cases request <;> rfl
  | keep | mismatch | fail | constructed | provide | measure | look | change => rfl

/-- The balance of a history: each start of a factory is matched by an error of it, save the one
that is still at work or has made the instance. -/
theorem History.balanced
    (history : History (start work host) events moment) :
    ∃ outer, (moment.within outer).Consistent ∧
      ∀ key, events.count (.started key) =
        events.count (.failed key) + moment.session.scope.held key := by
  induction history with
  | refl =>
      refine ⟨[], consistent_start work host, fun key => ?_⟩
      have unmade : (start work host).session.scope.instance? key = none := rfl
      rw [Scope.held_of_not_mem List.not_mem_nil unmade]
      rfl
  | @step second third events started _ step inductionHypothesis =>
      obtain ⟨outer, consistent, balance⟩ := inductionHypothesis
      have wider := step.within outer
      refine ⟨outer, (consistent.step wider).1, fun key => ?_⟩
      have change : (second.stepEvents started).count (.started key) +
          second.session.scope.held key = (second.stepEvents started).count (.failed key) +
            third.session.scope.held key := by
        rw [← step.stepEvents_within outer]
        exact consistent.held_step wider key
      have before := balance key
      rw [List.count_append, List.count_append]
      omega
  | @next second _ _ host work inductionHypothesis =>
      -- The constructors that a work leaves behind stay at work in the scope.
      obtain ⟨outer, consistent, balance⟩ := inductionHypothesis
      exact ⟨second.waiting ++ outer, ⟨consistent.guarded, consistent.waiting⟩, balance⟩

/-- A history has a moment behind each of its events. -/
theorem History.exists_of_prefix
    {front : List FactoryEvent}
    (history : History first events second)
    (before : front <+: events) :
    ∃ moment, History first front moment := by
  induction history with
  | refl =>
      rw [List.prefix_nil] at before
      exact ⟨first, before ▸ .refl first⟩
  | @step second third events started earlier step inductionHypothesis =>
      have atMost := step.length_events_le
      rcases event : second.stepEvents started with _ | ⟨last, others⟩
      · rw [event, List.append_nil] at before
        exact inductionHypothesis before
      · have alone : others = [] := by
          rw [event, List.length_cons] at atMost
          exact List.length_eq_zero_iff.1 (by omega)
        rw [event, alone, List.prefix_concat_iff] at before
        obtain whole | inside := before
        · refine ⟨third, ?_⟩
          rw [whole, ← alone, ← event]
          exact earlier.step step
        · exact inductionHypothesis inside
  | next _ _ _ inductionHypothesis => exact inductionHypothesis before

/-- In a history starts and errors of a factory alternate. -/
theorem History.alternate
    (history : History (start work host) events moment) :
    Alternate events := by
  intro key front before
  obtain ⟨inner, earlier⟩ := history.exists_of_prefix before
  obtain ⟨_, _, balance⟩ := earlier.balanced
  have count := balance key
  have once : inner.session.scope.held key ≤ 1 := by
    unfold Scope.held
    split <;> omega
  omega

/-! ## Runs are histories -/

/-- The steps of a run go on with a history. -/
theorem History.run
    (before : History first events second)
    (ran : Run second started third) :
    ∃ more, History first (events ++ more) third := by
  induction ran with
  | refl => exact ⟨[], by simpa using before⟩
  | tail _ step inductionHypothesis =>
      obtain ⟨more, earlier⟩ := inductionHypothesis
      exact ⟨more ++ _, by simpa using earlier.step step⟩

/-- A scope that serves one more work goes on with its history. -/
theorem History.serve
    (before : History first events second)
    (limit : Nat)
    (host : Host)
    (work : Work value) :
    ∃ more third, History first (events ++ more) third ∧
      third.session = (work.run limit ⟨second.session.scope, host⟩).2 := by
  have arrives := follows_run limit ⟨second.session.scope, host⟩ [] work
  have asked := before.next host work
  generalize work.run limit ⟨second.session.scope, host⟩ = ending at arrives
  obtain ⟨outcome, behind⟩ := ending
  have along (third : Moment value) (ends : third.session = behind)
      (reached : Reaches ⟨⟨second.session.scope, host⟩, [], work⟩ third) :
      ∃ more third, History first (events ++ more) third ∧ third.session = behind := by
    obtain ⟨started, ran⟩ := reached
    obtain ⟨more, history⟩ := asked.run ran
    exact ⟨more, third, history, ends⟩
  cases outcome with
  | done | failed => exact along _ rfl arrives
  | brokenDown =>
      obtain ⟨inner, reached⟩ := arrives
      exact along _ rfl reached
  | tooDeep =>
      obtain ⟨inner, left, _, reached⟩ := arrives
      exact along _ rfl reached

/-- A scope that is given a constructor goes on with its history. -/
theorem History.provide
    (before : History first events second)
    (host : Host)
    (constructor : Constructor value) :
    ∃ third, History first events third ∧
      third.session = (Session.provide ⟨second.session.scope, host⟩ constructor).2 := by
  have asked := before.next host
    (.provide constructor.key constructor.factory fun _ => .breakDown "")
  exact ⟨_, by simpa [stepEvents, failing?] using asked.step .provide, rfl⟩

theorem History.provideAll
    (before : History first events second)
    (host : Host)
    (constructors : List (Constructor value)) :
    ∃ third, History first events third ∧
      third.session = (Lifecycle.provideAll constructors ⟨second.session.scope, host⟩).2 := by
  induction constructors generalizing second host with
  | nil => exact ⟨_, before.next host (.breakDown ""), rfl⟩
  | cons constructor rest inductionHypothesis =>
      obtain ⟨third, given, provided⟩ := before.provide host constructor
      rw [Lifecycle.provideAll]
      rcases answer : Session.provide ⟨second.session.scope, host⟩ constructor with
        ⟨_ | _, behind⟩
      · exact ⟨third, given, by rw [provided, answer]⟩
      · rw [answer] at provided
        obtain rfl : third.session = behind := provided
        exact inductionHypothesis given third.session.host

theorem History.register
    (before : History first events second)
    (host : Host)
    (components : List (Component value)) :
    ∃ third, History first events third ∧
      third.session = (Lifecycle.register components ⟨second.session.scope, host⟩).2 := by
  induction components generalizing second host with
  | nil => exact ⟨_, before.next host (.breakDown ""), rfl⟩
  | cons component rest inductionHypothesis =>
      rw [Lifecycle.register]
      cases component.provider? with
      | none => exact inductionHypothesis before host
      | some offer =>
          obtain ⟨third, given, provided⟩ := before.provideAll (offer host).2 (offer host).1
          dsimp only
          rcases answer : Lifecycle.provideAll (offer host).1 ⟨second.session.scope, (offer host).2⟩
            with ⟨_ | _, behind⟩
          · exact ⟨third, given, by rw [provided, answer]⟩
          · rw [answer] at provided
            obtain rfl : third.session = behind := provided
            exact inductionHypothesis given third.session.host

theorem History.tearDown
    (before : History first events second)
    (limit : Nat)
    (host : Host)
    (works : List (Work value)) :
    ∃ more third, History first (events ++ more) third ∧
      third.session = (Lifecycle.tearDown limit works ⟨second.session.scope, host⟩).2 := by
  induction works generalizing second host events with
  | nil => exact ⟨[], _, by simpa using before.next host (.breakDown ""), rfl⟩
  | cons work rest inductionHypothesis =>
      obtain ⟨more, third, served, ends⟩ := before.serve limit host work
      rw [Lifecycle.tearDown]
      rcases run : work.run limit ⟨second.session.scope, host⟩ with ⟨outcome, behind⟩
      rw [run] at ends
      obtain rfl : third.session = behind := ends
      cases outcome with
      | done result =>
          obtain ⟨further, last, history, release⟩ :=
            inductionHypothesis served third.session.host
          exact ⟨more ++ further, last, by simpa using history, release⟩
      | failed error =>
          obtain ⟨further, last, history, release⟩ :=
            inductionHypothesis served (third.session.tell [.destroyerFailed]).host
          refine ⟨more ++ further, last, by simpa using history, ?_⟩
          rw [release]
          dsimp only
          have told : (⟨third.session.scope, (third.session.tell [.destroyerFailed]).host⟩ :
              Session value) = third.session.tell [.destroyerFailed] := rfl
          rw [told]
          rcases Lifecycle.tearDown limit rest (third.session.tell [.destroyerFailed]) with
            ⟨_ | _ | _ | _, _⟩ <;> rfl
      | brokenDown | tooDeep => exact ⟨more, third, served, rfl⟩

/-- Registration, the action and the destroyers of a run are a history of its scope. -/
theorem exists_history_runAction
    (limit : Nat)
    (components : List (Component value))
    (action : Work value)
    (host : Host) :
    ∃ events moment, History (start action host) events moment ∧
      moment.session = (Lifecycle.tearDown limit (Lifecycle.destroyers components)
        (Lifecycle.enact limit components action host).2).2 := by
  obtain ⟨second, registered, given⟩ :=
    (History.refl (start action host)).register host components
  have enacted : ∃ events third, History (start action host) events third ∧
      third.session = (Lifecycle.enact limit components action host).2 := by
    rw [Lifecycle.enact]
    rcases registration : Lifecycle.register components ⟨.empty, host⟩ with ⟨_ | _, behind⟩
    · exact ⟨[], second, registered, by simpa [start, registration] using given⟩
    · obtain ⟨more, third, served, ends⟩ := registered.serve limit second.session.host action
      have same : second.session = behind := by simpa [start, registration] using given
      exact ⟨more, third, served, by simpa [same] using ends⟩
  obtain ⟨events, third, served, ends⟩ := enacted
  obtain ⟨more, last, history, released⟩ :=
    served.tearDown limit third.session.host (Lifecycle.destroyers components)
  exact ⟨events ++ more, last, history, by rw [released, ← ends]⟩

/-! ## How often -/

/-- Whatever a scope serves, no factory is invoked twice exactly if none is started behind an error
of its own.  Between two starts of a factory there is an error of it, and in all it is started
once for each of its errors, and once more if it is at work or has made its instance.  Each further
work that the scope is given goes on with its history, and what registration, the action and the
destroyers of a run do is such a history from beginning to end. -/
theorem nodup_starts_iff_of_history
    (history : History (start work host) events moment) :
    ((starts events).Nodup ↔
        ∀ front key back, events = front ++ .started key :: back -> .failed key ∉ front) ∧
      (∀ front key middle back,
        events = front ++ .started key :: (middle ++ .started key :: back) ->
          .failed key ∈ middle) ∧
      (∀ key, (starts events).count key = events.count (.failed key) +
        if key ∈ moment.session.scope.inProgress ∨
          (moment.session.scope.instance? key).isSome = true then 1 else 0) ∧
      (∀ limit anyHost (further : Work value), ∃ more third,
        History (start work host) (events ++ more) third ∧
          third.session = (further.run limit ⟨moment.session.scope, anyHost⟩).2) ∧
      ∀ limit components (action : Work value) host, ∃ events last,
        History (start action host) events last ∧
          last.session = (Lifecycle.tearDown limit (Lifecycle.destroyers components)
            (Lifecycle.enact limit components action host).2).2 := by
  obtain ⟨_, _, balance⟩ := history.balanced
  refine ⟨history.alternate.nodup_starts_iff,
    fun _ _ _ _ => history.alternate.failed_mem_of_started_twice,
    fun key => ?_, history.serve, exists_history_runAction⟩
  rw [count_starts]
  exact balance key

/-- Work that gives a scope a factory that fails and one that asks for its value, and carries on
without it. -/
private def spare : Work Nat :=
  .provide ⟨"u16", "b"⟩ (.fail (.message "no")) fun _ =>
    .provide ⟨"u32", "a"⟩ (.resolve "u16" fun _ => .done 1) fun _ =>
      .resolve "u32" fun _ => .resolve "u32" fun _ => .done 0

/-- The second request finds the instance that the first one made, although a factory failed on
the way: three events, and no factory is started behind an error of its own. -/
theorem nodup_starts_of_spare :
    let events : List FactoryEvent :=
      [.started ⟨"u32", "a"⟩, .started ⟨"u16", "b"⟩, .failed ⟨"u16", "b"⟩]
    ∃ moment, History (start spare default) events moment ∧
      (∀ front key back, events = front ++ .started key :: back -> .failed key ∉ front) ∧
        (starts events).count ⟨"u32", "a"⟩ = 1 := by
  intro events
  have given : History (start spare default) _ _ :=
    ((History.refl _).step .provide).step .provide
  have built := (given.step (.build (.ofType "u32") rfl)).step (.build (.ofType "u16") rfl)
  have kept := (built.step .fail).step (.keep rfl rfl)
  have asked : History (start spare default) events _ :=
    kept.step (.known (.ofType "u32") rfl)
  obtain ⟨spared, _, counted, _⟩ := nodup_starts_iff_of_history asked
  exact ⟨_, asked, spared.1 (by decide), counted _⟩

/-- Work that asks twice for the value of a factory that fails. -/
private def persistent : Work Nat :=
  .provide ⟨"u32", "a"⟩ (.fail (.message "no")) fun _ =>
    .resolve "u32" fun _ => .resolve "u32" fun _ => .done 0

/-- A factory that failed is invoked again. -/
theorem not_nodup_starts_of_persistent :
    ¬∀ (work : Work Nat) (host : Host) (events : List FactoryEvent) (moment : Moment Nat),
      History (start work host) events moment -> (starts events).Nodup := by
  intro never
  have given : History (start persistent default) _ _ := (History.refl _).step .provide
  have failed := (given.step (.build (.ofType "u32") rfl)).step .fail
  have again := failed.step (.build (.ofType "u32") rfl)
  exact absurd (never _ _ _ _ again) (by decide)

end Moment
end ConfigWiring
