import ConfigWiring.Build.Lifecycle
import Mathlib.Data.List.Induction
import Mathlib.Data.List.Nodup

/-!
# From registration to release

What a run of an action comes to is told apart from how it is computed.  The constructors that
the components offer are registered in order, up to the first whose key is taken; the action
runs if there is none.  Behind that, whatever its outcome, each destroyer is called once, the
last component's first.  The result is read off the outcome and the errors of the destroyers.
-/

namespace ConfigWiring

variable {value : Type}

namespace Session

variable {session : Session value} {constructor : Constructor value}

/-- The keys of the constructors of the scope. -/
def keys (session : Session value) : List Key := session.scope.constructors.map Constructor.key

/-- The session with further constructors, on another host. -/
def extend (session : Session value) (constructors : List (Constructor value)) (host : Host) :
    Session value :=
  ⟨{ session.scope with constructors := session.scope.constructors ++ constructors }, host⟩

@[simp] theorem extend_extend
    (session : Session value)
    (front others : List (Constructor value))
    (middle behind : Host) :
    (session.extend front middle).extend others behind = session.extend (front ++ others) behind := by
  simp [extend]

@[simp] theorem extend_nil (session : Session value) : session.extend [] session.host = session := by
  simp [extend]

@[simp] theorem host_extend
    (session : Session value)
    (constructors : List (Constructor value))
    (host : Host) :
    (session.extend constructors host).host = host := rfl

@[simp] theorem keys_extend
    (session : Session value)
    (constructors : List (Constructor value))
    (host : Host) :
    (session.extend constructors host).keys = session.keys ++ constructors.map Constructor.key := by
  simp [keys, extend]

theorem isSome_find?_iff :
    (session.scope.find? constructor.key).isSome = true ↔ constructor.key ∈ session.keys := by
  simp [Scope.find?, keys]

/-- A constructor with a new key is added. -/
theorem provide_of_not_mem
    (fresh : constructor.key ∉ session.keys) :
    session.provide constructor = (.ok (), session.extend [constructor] session.host) := by
  rw [← isSome_find?_iff] at fresh
  rw [provide, Scope.provide, if_neg fresh]
  rfl

/-- A constructor whose key is taken is refused. -/
theorem provide_of_mem
    (taken : constructor.key ∈ session.keys) :
    session.provide constructor =
      (.error (.duplicate constructor.key.typeName constructor.key.name), session) := by
  rw [← isSome_find?_iff] at taken
  rw [provide, Scope.provide, if_pos taken]

end Session

namespace Lifecycle

variable {limit : Nat} {components : List (Component value)} {action : Work value} {host : Host}

/-! ## Registration -/

/-- Constructors with keys of their own are all added, in order. -/
theorem provideAll_of_nodup
    {constructors : List (Constructor value)}
    {session : Session value}
    (distinct : (session.keys ++ constructors.map Constructor.key).Nodup) :
    provideAll constructors session = (.ok (), session.extend constructors session.host) := by
  induction constructors generalizing session with
  | nil => simp [provideAll]
  | cons constructor rest inductionHypothesis =>
      have fresh : constructor.key ∉ session.keys := by
        have apart := (List.nodup_append.1 distinct).2.2
        intro taken
        exact apart _ taken constructor.key (by simp) rfl
      rw [provideAll, Session.provide_of_not_mem fresh]
      dsimp only
      rw [inductionHypothesis (by simpa using distinct)]
      simp

/-- The first constructor whose key is taken is refused; those before it have been added. -/
theorem provideAll_of_mem
    {earlier later : List (Constructor value)}
    {constructor : Constructor value}
    {session : Session value}
    (distinct : (session.keys ++ earlier.map Constructor.key).Nodup)
    (taken : constructor.key ∈ session.keys ++ earlier.map Constructor.key) :
    provideAll (earlier ++ constructor :: later) session =
      (.error (.duplicate constructor.key.typeName constructor.key.name),
        session.extend earlier session.host) := by
  induction earlier generalizing session with
  | nil =>
      have known : constructor.key ∈ session.keys := by simpa using taken
      rw [List.nil_append, provideAll, Session.provide_of_mem known]
      simp
  | cons first earlier inductionHypothesis =>
      have fresh : first.key ∉ session.keys := by
        have apart := (List.nodup_append.1 distinct).2.2
        intro present
        exact apart _ present first.key (by simp) rfl
      rw [List.cons_append, provideAll, Session.provide_of_not_mem fresh]
      dsimp only
      rw [inductionHypothesis (by simpa using distinct) (by simpa using taken)]
      simp

/-- The constructors that components offer, in order, and the host behind the offers. -/
def offers : List (Component value) -> Host -> List (Constructor value) × Host
  | [], host => ([], host)
  | component :: rest, host =>
      match component.provider? with
      | none => offers rest host
      | some offer =>
          let (constructors, middle) := offer host
          let (others, behind) := offers rest middle
          (constructors ++ others, behind)

theorem offers_cons_of_none
    {component : Component value}
    (offered : component.provider? = none)
    (rest : List (Component value))
    (host : Host) :
    offers (component :: rest) host = offers rest host := by
  rw [offers, offered]

theorem offers_cons_of_some
    {component : Component value}
    {offer : Host -> List (Constructor value) × Host}
    (offered : component.provider? = some offer)
    (rest : List (Component value))
    (host : Host) :
    offers (component :: rest) host =
      ((offer host).1 ++ (offers rest (offer host).2).1, (offers rest (offer host).2).2) := by
  rw [offers, offered]

theorem offers_append (front rest : List (Component value)) (host : Host) :
    offers (front ++ rest) host =
      ((offers front host).1 ++ (offers rest (offers front host).2).1,
        (offers rest (offers front host).2).2) := by
  induction front generalizing host with
  | nil => rfl
  | cons component front inductionHypothesis =>
      rw [List.cons_append]
      cases offered : component.provider? with
      | none =>
          rw [offers_cons_of_none offered, offers_cons_of_none offered, inductionHypothesis]
      | some offer =>
          rw [offers_cons_of_some offered, offers_cons_of_some offered, inductionHypothesis,
            List.append_assoc]

/-- Components that offer constructors with keys of their own are registered, in order. -/
theorem register_append_of_nodup
    {front : List (Component value)}
    (session : Session value)
    (distinct : (session.keys ++ (offers front session.host).1.map Constructor.key).Nodup)
    (rest : List (Component value)) :
    register (front ++ rest) session =
      register rest
        (session.extend (offers front session.host).1 (offers front session.host).2) := by
  induction front generalizing session with
  | nil => simp [offers]
  | cons component front inductionHypothesis =>
      rw [List.cons_append, register]
      cases offered : component.provider? with
      | none =>
          rw [offers_cons_of_none offered] at distinct ⊢
          exact inductionHypothesis session distinct
      | some offer =>
          rw [offers_cons_of_some offered, List.map_append, ← List.append_assoc] at distinct
          rw [offers_cons_of_some offered]
          have first : provideAll (offer session.host).1 { session with host := (offer session.host).2 } =
              (.ok (), session.extend (offer session.host).1 (offer session.host).2) :=
            provideAll_of_nodup (List.nodup_append.1 distinct).1
          dsimp only
          rw [first]
          dsimp only
          rw [inductionHypothesis _ (by simpa using distinct), Session.extend_extend,
            Session.host_extend]

/-- Registration comes to a constructor whose key is taken: the constructors that were accepted
before it, the constructor, and the host behind the offer of its component. -/
def Refuses
    (components : List (Component value))
    (host : Host)
    (accepted : List (Constructor value))
    (constructor : Constructor value)
    (middle : Host) : Prop :=
  (accepted.map Constructor.key).Nodup ∧ constructor.key ∈ accepted.map Constructor.key ∧
    ∃ before component behind offer earlier later,
      components = before ++ component :: behind ∧ component.provider? = some offer ∧
        offer (offers before host).2 = (earlier ++ constructor :: later, middle) ∧
          accepted = (offers before host).1 ++ earlier

/-- Constructors that cannot all be accepted have a first one whose key is taken. -/
theorem exists_taken
    {known constructors : List (Constructor value)}
    (distinct : (known.map Constructor.key).Nodup)
    (collide : ¬((known ++ constructors).map Constructor.key).Nodup) :
    ∃ earlier constructor later, constructors = earlier ++ constructor :: later ∧
      ((known ++ earlier).map Constructor.key).Nodup ∧
        constructor.key ∈ (known ++ earlier).map Constructor.key := by
  induction constructors using List.reverseRecOn with
  | nil => exact absurd (by simpa using distinct) collide
  | append_singleton constructors last inductionHypothesis =>
      by_cases before : ((known ++ constructors).map Constructor.key).Nodup
      · refine ⟨constructors, last, [], rfl, before, ?_⟩
        by_contra fresh
        apply collide
        rw [← List.append_assoc, List.map_append, List.map_singleton, ← List.concat_eq_append]
        exact before.concat fresh
      · obtain ⟨earlier, constructor, later, rfl, rest⟩ := inductionHypothesis before
        exact ⟨earlier, constructor, later ++ [last], by simp, rest⟩

/-- Either all keys are distinct, or registration comes to one that is taken. -/
theorem exists_refuses
    (collide : ¬((offers components host).1.map Constructor.key).Nodup) :
    ∃ accepted constructor middle, Refuses components host accepted constructor middle := by
  induction components using List.reverseRecOn with
  | nil => exact absurd List.nodup_nil collide
  | append_singleton components component inductionHypothesis =>
      by_cases before : ((offers components host).1.map Constructor.key).Nodup
      · cases offered : component.provider? with
        | none =>
            rw [offers_append, offers_cons_of_none offered] at collide
            exact absurd before (by simpa [offers] using collide)
        | some offer =>
            have all : (offers (components ++ [component]) host).1 =
                (offers components host).1 ++ (offer (offers components host).2).1 := by
              rw [offers_append, offers_cons_of_some offered]
              simp [offers]
            rw [all] at collide
            obtain ⟨earlier, constructor, later, gives, distinct, taken⟩ :=
              exists_taken before collide
            exact ⟨_, constructor, _, distinct, taken, components, component, [], offer, earlier,
              later, rfl, offered, Prod.ext gives rfl, rfl⟩
      · obtain ⟨accepted, constructor, middle, distinct, taken, front, other, rest, offer, earlier,
          later, rfl, found⟩ := inductionHypothesis before
        exact ⟨accepted, constructor, middle, distinct, taken, front, other, rest ++ [component],
          offer, earlier, later, by simp, found⟩

/-! ## The action -/

/-- What registration and the action come to.  The action runs in a scope with all constructors
if no key is taken; otherwise it does not run, and the constructors that were accepted stay. -/
inductive Enacts
    (limit : Nat)
    (components : List (Component value))
    (action : Work value)
    (host : Host) : Outcome ComponentError value -> Session value -> Prop
  /-- Everything is registered, and the action runs. -/
  | acted {outcome : Outcome ComponentError value} {session : Session value}
      (distinct : ((offers components host).1.map Constructor.key).Nodup)
      (run : action.run limit ⟨⟨(offers components host).1, [], []⟩, (offers components host).2⟩ =
        (outcome, session)) :
      Enacts limit components action host outcome session
  /-- A key is taken, and the action does not run. -/
  | refused {accepted : List (Constructor value)} {constructor : Constructor value} {middle : Host}
      (refuses : Refuses components host accepted constructor middle) :
      Enacts limit components action host
        (.failed (.wiring (.duplicate constructor.key.typeName constructor.key.name)))
        ⟨⟨accepted, [], []⟩, middle⟩

/-- Registration and the action always come to something. -/
theorem exists_enacts
    (limit : Nat)
    (components : List (Component value))
    (action : Work value)
    (host : Host) :
    ∃ outcome session, Enacts limit components action host outcome session := by
  by_cases distinct : ((offers components host).1.map Constructor.key).Nodup
  · exact ⟨_, _, .acted distinct rfl⟩
  · obtain ⟨accepted, constructor, middle, refuses⟩ := exists_refuses distinct
    exact ⟨_, _, .refused refuses⟩

/-- `enact` gives what registration and the action come to. -/
theorem Enacts.enact_eq
    {outcome : Outcome ComponentError value}
    {session : Session value}
    (enacts : Enacts limit components action host outcome session) :
    enact limit components action host = (outcome, session) := by
  cases enacts with
  | acted distinct run =>
      have registered : register components ⟨.empty, host⟩ =
          (.ok (), ⟨⟨(offers components host).1, [], []⟩, (offers components host).2⟩) := by
        have all := register_append_of_nodup ⟨.empty, host⟩ distinct []
        rw [List.append_nil] at all
        rw [all]
        rfl
      rw [enact, registered]
      exact run
  | @refused accepted constructor middle refuses =>
      obtain ⟨distinct, taken, before, component, behind, offer, earlier, later, rfl, offered, gives,
        rfl⟩ := refuses
      rw [List.map_append] at distinct taken
      have front : ((offers before host).1.map Constructor.key).Nodup :=
        (List.nodup_append.1 distinct).1
      have registered : register (before ++ component :: behind) ⟨.empty, host⟩ =
          (.error (.duplicate constructor.key.typeName constructor.key.name),
            ⟨⟨(offers before host).1 ++ earlier, [], []⟩, middle⟩) := by
        rw [register_append_of_nodup ⟨.empty, host⟩ front, register, offered]
        have refused : provideAll (earlier ++ constructor :: later)
            { Session.extend ⟨.empty, host⟩ (offers before host).1 (offers before host).2 with
              host := middle } =
              (.error (.duplicate constructor.key.typeName constructor.key.name),
                ⟨⟨(offers before host).1 ++ earlier, [], []⟩, middle⟩) :=
          provideAll_of_mem distinct taken
        dsimp only
        rw [Session.host_extend, gives]
        dsimp only
        rw [refused]
      rw [enact, registered]

/-! ## The release -/

/-- Works are called in turn, each once, and each returns: the errors of those that fail, in
order, and the session behind the last.  Each error comes with a notice. -/
inductive Calls (limit : Nat) :
    List (Work value) -> Session value -> List ComponentError -> Session value -> Prop
  /-- There is nothing left to call. -/
  | nil (session : Session value) : Calls limit [] session [] session
  /-- The first work ends with a value. -/
  | done {work : Work value} {rest : List (Work value)} {session middle behind : Session value}
      {result : value} {errors : List ComponentError}
      (run : work.run limit session = (.done result, middle))
      (others : Calls limit rest middle errors behind) :
      Calls limit (work :: rest) session errors behind
  /-- The first work ends with an error. -/
  | failed {work : Work value} {rest : List (Work value)} {session middle behind : Session value}
      {error : ComponentError} {errors : List ComponentError}
      (run : work.run limit session = (.failed error, middle))
      (others : Calls limit rest (middle.tell [.destroyerFailed]) errors behind) :
      Calls limit (work :: rest) session (error :: errors) behind

/-- Works are called in turn, each once, up to the first that is cut short, if there is one. -/
theorem exists_calls_or_cutShort
    (limit : Nat)
    (works : List (Work value))
    (session : Session value) :
    (∃ errors behind, Calls limit works session errors behind) ∨
      ∃ called work left errors middle, works = called ++ work :: left ∧
        Calls limit called session errors middle ∧
          (work.run limit middle).1.isCutShort = true := by
  induction works generalizing session with
  | nil => exact .inl ⟨_, _, .nil session⟩
  | cons work rest inductionHypothesis =>
      rcases run : work.run limit session with ⟨outcome, middle⟩
      cases outcome with
      | done result =>
          obtain ⟨errors, behind, calls⟩ | ⟨called, cut, left, errors, behind, rfl, calls, short⟩ :=
            inductionHypothesis middle
          · exact .inl ⟨errors, behind, .done run calls⟩
          · exact .inr ⟨work :: called, cut, left, errors, behind, rfl, .done run calls, short⟩
      | failed error =>
          obtain ⟨errors, behind, calls⟩ | ⟨called, cut, left, errors, behind, rfl, calls, short⟩ :=
            inductionHypothesis (middle.tell [.destroyerFailed])
          · exact .inl ⟨error :: errors, behind, .failed run calls⟩
          · exact .inr ⟨work :: called, cut, left, error :: errors, behind, rfl, .failed run calls,
              short⟩
      | brokenDown | tooDeep =>
          exact .inr ⟨[], work, rest, [], session, rfl, .nil session, by rw [run]; rfl⟩

/-- The outcome of a release with the given errors. -/
def release : List ComponentError -> Outcome ComponentError Unit
  | [] => .done ()
  | first :: _ => .failed first

/-- `tearDown` calls the works in turn, and gives the first error. -/
theorem Calls.tearDown_eq
    {works : List (Work value)}
    {session behind : Session value}
    {errors : List ComponentError}
    (calls : Calls limit works session errors behind) :
    tearDown limit works session = (release errors, behind) := by
  induction calls with
  | nil => rfl
  | done run _ inductionHypothesis =>
      rw [tearDown, run]
      exact inductionHypothesis
  | @failed _ _ _ _ _ _ errors run _ inductionHypothesis =>
      rw [tearDown, run]
      dsimp only
      rw [inductionHypothesis]
      cases errors <;> rfl

/-! ## The whole -/

/-- The result of a run, from the outcome of registration and action and the errors of the
destroyers. -/
def verdict :
    Outcome ComponentError value -> List ComponentError -> Outcome Failure value
  | .done result, [] => .done result
  | .done _, first :: _ => .failed (.teardown first)
  | .failed (.wiring error), _ => .failed (.wiring error)
  | .failed (.failure failure), _ => .failed failure
  | .failed error, _ => .failed (.action error)
  | .brokenDown message, _ => .brokenDown message
  | .tooDeep, _ => .tooDeep

theorem settle_release
    (outcome : Outcome ComponentError value)
    (errors : List ComponentError) :
    settle outcome (release errors) = verdict outcome errors := by
  cases outcome with
  | done result => cases errors <;> rfl
  | failed error => cases error <;> cases errors <;> rfl
  | brokenDown | tooDeep => rfl

/-- A run of an action registers the constructors of the components in order and runs the action
unless a key is taken.  Whatever came of that, it then calls the destroyers in the reverse order
of the components, each once unless one of them is cut short, and nothing happens behind them.
Its result is read off the outcome and the errors of the destroyers. -/
theorem runAction_lifecycle
    (limit : Nat)
    (components : List (Component value))
    (action : Work value)
    (host : Host) :
    (∃ outcome session, Enacts limit components action host outcome session) ∧
      (∀ session,
        (∃ errors behind,
          Calls limit (components.reverse.filterMap Component.destroyer?) session errors behind) ∨
        ∃ called work left errors middle,
          components.reverse.filterMap Component.destroyer? = called ++ work :: left ∧
            Calls limit called session errors middle ∧
              (work.run limit middle).1.isCutShort = true) ∧
        ∀ outcome session errors behind,
          Enacts limit components action host outcome session ->
            Calls limit (components.reverse.filterMap Component.destroyer?) session errors behind ->
              runAction limit components action host = (verdict outcome errors, behind.host) := by
  refine ⟨exists_enacts limit components action host, exists_calls_or_cutShort limit _, ?_⟩
  intro outcome session errors behind enacts calls
  rw [runAction, enacts.enact_eq]
  dsimp only
  rw [destroyers, calls.tearDown_eq]
  dsimp only
  rw [settle_release]

/-- Two components offer a constructor and a destroyer each, and the destroyer of the second one
fails: the action sees both constructors, both destroyers are called, and the one error is the
result. -/
theorem runAction_lifecycle_of_failing_destroyer :
    let note (line : String) (next : Work Nat) : Work Nat := Work.write line next
    let offer (name : String) : Option (Host -> List (Constructor Nat) × Host) :=
      some fun host => ([⟨⟨"u32", name⟩, .done 1⟩], host)
    let components : List (Component Nat) := [
      ⟨offer "a", some (note "close a" (.done 0)), none, none, none⟩,
      ⟨offer "b", some (note "close b" (.fail (.message "stuck"))), none, none, none⟩]
    let action : Work Nat := .measure fun size => note "act" (.done size.constructors)
    ∃ behind, runAction 1 components action default =
        (.failed (.teardown (.message "stuck")), behind) ∧
      behind.output = ["act", "close b", "close a"] := by
  intro note offer components action
  have run := (runAction_lifecycle 1 components action default).2.2 _ _ _ _
    (.acted (by decide) rfl) (.failed rfl (.done rfl (.nil _)))
  exact ⟨_, run, rfl⟩

end Lifecycle
end ConfigWiring
