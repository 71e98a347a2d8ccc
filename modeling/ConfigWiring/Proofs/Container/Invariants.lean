import ConfigWiring.Proofs.Container.Machine
import Mathlib.Data.List.Nodup

/-!
# What holds of a scope at every moment

Whatever work does in a scope, and however its factories nest, the keys at work are those of
the constructors that wait, each once, and none of them has an instance.  Constructors and
instances are only ever added.  A request therefore leaves the keys at work as they were, and
an instance answers every later request for its key.
-/

namespace ConfigWiring

variable {value : Type}

namespace Scope

variable {scope behind : Scope value} {key : Key}

/-! ## The keys at work -/

/-- The keys at work are registered, each is at work once, and none of them has an instance;
every instance is of the type that its key promises. -/
structure Guarded (scope : Scope value) : Prop where
  /-- No key is at work twice. -/
  distinct : scope.inProgress.Nodup
  /-- Every key at work has a constructor. -/
  registered : ∀ key ∈ scope.inProgress, (scope.find? key).isSome = true
  /-- No key at work has an instance. -/
  unbuilt : ∀ key ∈ scope.inProgress, scope.instance? key = none
  /-- Every instance is of the promised type. -/
  fits : ∀ key made, scope.instance? key = some made -> made.fits key = true

theorem guarded_empty : (empty : Scope value).Guarded where
  distinct := List.nodup_nil
  registered := by simp [empty]
  unbuilt := by simp [empty]
  fits := by simp

/-- In a guarded scope to look for an instance is to find the one that is kept. -/
theorem Guarded.constructed?_eq
    (guarded : scope.Guarded)
    (key : Key) :
    scope.constructed? key = scope.instance? key := by
  unfold constructed?
  cases kept : scope.instance? key with
  | none => rfl
  | some made => simp [guarded.fits key made kept]

/-- There are no more keys at work than constructors. -/
theorem Guarded.length_inProgress_le
    (guarded : scope.Guarded) :
    scope.inProgress.length ≤ scope.constructors.length := by
  have included : scope.inProgress ⊆ scope.constructors.map Constructor.key := by
    intro key present
    exact isSome_find?_iff.1 (guarded.registered key present)
  calc scope.inProgress.length
      ≤ (scope.constructors.map Constructor.key).length :=
        guarded.distinct.length_le_of_subset included
    _ = scope.constructors.length := List.length_map _

/-- The key of a constructor that is put to work joins the keys at work. -/
theorem Guarded.enter
    (guarded : scope.Guarded)
    (registered : (scope.find? key).isSome = true)
    (unmade : scope.instance? key = none)
    (idle : key ∉ scope.inProgress) :
    (scope.enter key).Guarded where
  distinct := List.nodup_cons.2 ⟨idle, guarded.distinct⟩
  registered := by
    intro other present
    rcases List.mem_cons.1 present with rfl | further
    · exact registered
    · exact guarded.registered other further
  unbuilt := by
    intro other present
    rcases List.mem_cons.1 present with rfl | further
    · exact unmade
    · exact guarded.unbuilt other further
  fits := guarded.fits

/-- A key that leaves the keys at work leaves the others in their order. -/
theorem inProgress_leave
    {others : List Key}
    (distinct : scope.inProgress.Nodup)
    (innermost : scope.inProgress = key :: others) :
    (scope.leave key).inProgress = others := by
  show scope.inProgress.filter _ = others
  rw [innermost] at distinct ⊢
  rw [List.filter_cons_of_neg (by simp), List.filter_eq_self]
  intro other present
  have apart : other ≠ key := by
    rintro rfl
    exact (List.nodup_cons.1 distinct).1 present
  simpa using apart

theorem Guarded.leave
    (guarded : scope.Guarded)
    (key : Key) :
    (scope.leave key).Guarded where
  distinct := guarded.distinct.filter _
  registered := fun other present => guarded.registered other (List.mem_filter.1 present).1
  unbuilt := fun other present => guarded.unbuilt other (List.mem_filter.1 present).1
  fits := guarded.fits

/-- An instance may be kept under a key that is not at work. -/
theorem Guarded.keep
    {made : Instance value}
    (guarded : scope.Guarded)
    (idle : key ∉ scope.inProgress)
    (fit : made.fits key = true) :
    (scope.keep key made).Guarded where
  distinct := guarded.distinct
  registered := guarded.registered
  unbuilt := by
    intro other present
    have apart : other ≠ key := by
      rintro rfl
      exact idle present
    rw [instance?_keep, if_neg apart]
    exact guarded.unbuilt other present
  fits := by
    intro other kept found
    rw [instance?_keep] at found
    split at found
    · next same =>
        cases found
        rw [same]
        exact fit
    · exact guarded.fits other kept found

theorem Guarded.provide
    {constructor : Constructor value}
    (guarded : scope.Guarded)
    (provided : scope.provide constructor = .ok behind) :
    behind.Guarded := by
  have registered (key : Key) (present : (scope.find? key).isSome = true) :
      (behind.find? key).isSome = true := by
    rw [find?_of_provide provided]
    split
    · rfl
    · exact present
  obtain ⟨_, rfl⟩ := provide_eq_ok_iff.1 provided
  exact {
    distinct := guarded.distinct
    registered := fun key present => registered key (guarded.registered key present)
    unbuilt := guarded.unbuilt
    fits := guarded.fits }

/-! ## What is never taken back -/

/-- A scope has every constructor and every instance of another one. -/
structure Extends (later earlier : Scope value) : Prop where
  /-- No constructor is taken away or replaced. -/
  constructors : ∀ key constructor,
    earlier.find? key = some constructor -> later.find? key = some constructor
  /-- No instance is taken away or replaced. -/
  instances : ∀ key made, earlier.instance? key = some made -> later.instance? key = some made

theorem Extends.refl (scope : Scope value) : scope.Extends scope :=
  ⟨fun _ _ => id, fun _ _ => id⟩

theorem Extends.trans
    {first second third : Scope value}
    (behind : third.Extends second)
    (before : second.Extends first) :
    third.Extends first where
  constructors key constructor found :=
    behind.constructors key constructor (before.constructors key constructor found)
  instances key made kept := behind.instances key made (before.instances key made kept)

/-- To keep an instance under a key that has none takes nothing back. -/
theorem extends_keep
    (unmade : scope.instance? key = none)
    (made : Instance value) :
    (scope.keep key made).Extends scope where
  constructors _ _ := id
  instances := by
    intro other kept found
    have apart : other ≠ key := by
      rintro rfl
      rw [unmade] at found
      cases found
    rw [instance?_keep, if_neg apart]
    exact found

theorem extends_provide
    {constructor : Constructor value}
    (provided : scope.provide constructor = .ok behind) :
    behind.Extends scope where
  constructors := by
    intro key other found
    rw [find?_of_provide provided]
    split
    · next same =>
        rw [same, (provide_eq_ok_iff.1 provided).1] at found
        cases found
    · exact found
  instances := by
    obtain ⟨_, rfl⟩ := provide_eq_ok_iff.1 provided
    exact fun _ _ => id

end Scope

/-! ## Every step -/

namespace Moment

variable {first second moment : Moment value}

/-- The constructors that wait are those at work, in a guarded scope. -/
structure Consistent (moment : Moment value) : Prop where
  /-- The scope is guarded. -/
  guarded : moment.session.scope.Guarded
  /-- The keys at work are those of the constructors that wait. -/
  waiting : moment.session.scope.inProgress = moment.waiting.map (·.constructor.key)

/-- Whether a moment is consistent does not depend on the work that is left. -/
theorem Consistent.withWork
    (consistent : moment.Consistent)
    (work : Work value) :
    Consistent ⟨moment.session, moment.waiting, work⟩ :=
  ⟨consistent.guarded, consistent.waiting⟩

theorem consistent_start (work : Work value) (host : Host) : (start work host).Consistent :=
  ⟨Scope.guarded_empty, rfl⟩

/-- What is left behind a constructor whose factory has ended: its key is no longer at work, and
has no instance. -/
theorem Consistent.leave
    {session : Session value}
    {waiting : List (Frame value)}
    {frame : Frame value}
    {work : Work value}
    (consistent : Consistent ⟨session, frame :: waiting, work⟩) :
    (session.leave frame.constructor.key).scope.Guarded ∧
      (session.leave frame.constructor.key).scope.inProgress =
        waiting.map (·.constructor.key) ∧
      frame.constructor.key ∉ (session.leave frame.constructor.key).scope.inProgress ∧
      (session.leave frame.constructor.key).scope.instance? frame.constructor.key = none := by
  have distinct : session.scope.inProgress.Nodup := consistent.guarded.distinct
  have innermost : session.scope.inProgress =
      frame.constructor.key :: waiting.map (·.constructor.key) := consistent.waiting
  have left : (session.leave frame.constructor.key).scope.inProgress =
      waiting.map (·.constructor.key) := Scope.inProgress_leave distinct innermost
  refine ⟨consistent.guarded.leave _, left, ?_, ?_⟩
  · rw [left]
    rw [innermost] at distinct
    exact (List.nodup_cons.1 distinct).1
  · apply consistent.guarded.unbuilt
    show _ ∈ session.scope.inProgress
    rw [innermost]
    exact List.mem_cons_self

/-- What a constructor made is of the type that its key promises. -/
theorem newInstance_fits (scope : Scope value) (constructor : Constructor value) (result : value) :
    (scope.newInstance constructor result).fits constructor.key = true := by
  simp [Scope.newInstance, Instance.fits]

/-- A step keeps a moment consistent, and takes no constructor and no instance back. -/
theorem Consistent.step
    {started : List Key}
    (consistent : first.Consistent)
    (step : Step first started second) :
    second.Consistent ∧ second.session.scope.Extends first.session.scope := by
  cases step with
  | known | refused | constructed | measure | look | change =>
      exact ⟨⟨consistent.guarded, consistent.waiting⟩, Scope.Extends.refl _⟩
  | build request verdict =>
      obtain ⟨_, found, unmade, idle⟩ := Scope.verdict_eq_build verdict
      rw [consistent.guarded.constructed?_eq] at unmade
      refine ⟨⟨consistent.guarded.enter (by simp [found]) unmade idle, ?_⟩, ⟨fun _ _ => id,
        fun _ _ => id⟩⟩
      show _ :: _ = _ :: _
      rw [consistent.waiting]
  | keep new fits =>
      obtain ⟨guarded, left, idle, unmade⟩ := consistent.leave
      refine ⟨⟨guarded.keep idle fits, left⟩, ?_⟩
      exact (Scope.extends_keep unmade _).trans ⟨fun _ _ => id, fun _ _ => id⟩
  | mismatch unfit =>
      rw [newInstance_fits] at unfit
      cases unfit
  | fail =>
      obtain ⟨guarded, left, _, _⟩ := consistent.leave
      exact ⟨⟨guarded, left⟩, ⟨fun _ _ => id, fun _ _ => id⟩⟩
  | @provide session waiting key factory next =>
      simp only [Session.provide]
      split
      · next scope provided =>
          refine ⟨⟨consistent.guarded.provide provided, ?_⟩, Scope.extends_provide provided⟩
          have kept : scope.inProgress = session.scope.inProgress := by
            rw [(Scope.provide_eq_ok_iff.1 provided).2]
          exact kept.trans consistent.waiting
      · exact ⟨⟨consistent.guarded, consistent.waiting⟩, Scope.Extends.refl _⟩

/-- Any number of steps keep a moment consistent, and take nothing back. -/
theorem Consistent.reaches
    (consistent : first.Consistent)
    (reached : Reaches first second) :
    second.Consistent ∧ second.session.scope.Extends first.session.scope := by
  obtain ⟨started, ran⟩ := reached
  induction ran with
  | refl => exact ⟨consistent, Scope.Extends.refl _⟩
  | tail _ step inductionHypothesis =>
      obtain ⟨inner, extended⟩ := inductionHypothesis
      obtain ⟨outer, further⟩ := inner.step step
      exact ⟨outer, further.trans extended⟩

/-! ## Every request -/

variable {limit : Nat} {request : Request} {behind : Session value}

/-- A request that is answered leaves the keys at work as they were, and takes nothing back. -/
theorem Consistent.answer
    {outcome : Outcome WiringError (Instance value)}
    (consistent : moment.Consistent)
    (answered : moment.session.answer (Work.run limit) request = (outcome, behind))
    (whole : outcome.isCutShort = false) :
    behind.scope.inProgress = moment.session.scope.inProgress ∧
      behind.scope.Extends moment.session.scope := by
  have asking := consistent.withWork (request.work fun _ => .breakDown "")
  have returns := (follows_run limit).returns moment.session moment.waiting request
    fun _ => .breakDown ""
  rw [answered] at returns
  cases outcome with
  | done | failed =>
      obtain ⟨ends, extended⟩ := asking.reaches returns
      exact ⟨ends.waiting.trans consistent.waiting.symm, extended⟩
  | brokenDown | tooDeep => cases whole

/-- A request is given up as too deep only where more constructors are at work than the limit
allows. -/
theorem Consistent.limit_lt_of_tooDeep
    (consistent : moment.Consistent)
    (answered : moment.session.answer (Work.run limit) request = (.tooDeep, behind)) :
    limit + 1 < behind.scope.constructors.length := by
  have asking := consistent.withWork (request.work fun _ => .breakDown "")
  have returns := (follows_run limit).returns moment.session moment.waiting request
    fun _ => .breakDown ""
  rw [answered] at returns
  obtain ⟨inner, work, deep, reached⟩ := returns
  obtain ⟨ends, _⟩ := asking.reaches reached
  have count := ends.guarded.length_inProgress_le
  rw [ends.waiting, List.length_map, List.length_append] at count
  exact Nat.le_trans deep (Nat.le_trans (Nat.le_add_right _ _) count)

/-- A request that puts a constructor to work answers with an error only if the factory ended
with one, and the key has no instance then. -/
theorem Consistent.construct
    {error : WiringError}
    {constructor : Constructor value}
    (consistent : moment.Consistent)
    (build : moment.session.scope.verdict request = .build constructor)
    (failed : moment.session.construct (Work.run limit) constructor.key constructor =
      (.failed error, behind)) :
    behind.scope.instance? constructor.key = none ∧ ∃ source inner,
      constructor.factory.run limit (moment.session.enter constructor.key) =
        (.failed source, inner) ∧ error = .ofFactory constructor.key source := by
  have asking := consistent.withWork (request.work fun _ => .breakDown "")
  obtain ⟨entered, _⟩ := asking.step (.build request build)
  have arrives := follows_run limit (moment.session.enter constructor.key)
    (⟨constructor, fun _ => .breakDown ""⟩ :: moment.waiting) constructor.factory
  unfold Session.construct at failed
  split at failed
  · next result inner ran =>
      dsimp only [Session.accept] at failed
      rw [newInstance_fits, if_pos rfl] at failed
      cases failed
  · next source inner ran =>
      cases failed
      rw [ran] at arrives
      obtain ⟨ended, _⟩ := entered.reaches arrives
      obtain ⟨_, _, _, unmade⟩ := ended.leave
      exact ⟨unmade, source, inner, ran, rfl⟩
  · cases failed
  · cases failed

/-- A request for a key that is answered with an error leaves the key without an instance. -/
theorem Consistent.instance?_of_failed
    {error : WiringError}
    {key : Key}
    (consistent : moment.Consistent)
    (asked : request.key moment.session.scope = .ok key)
    (failed : moment.session.answer (Work.run limit) request = (.failed error, behind)) :
    behind.scope.instance? key = none := by
  have onKey : moment.session.scope.verdict request = moment.session.scope.verdictOn key := by
    rw [Scope.verdict, asked]
  rw [Session.answer_eq] at failed
  cases verdict : moment.session.scope.verdict request with
  | known made =>
      rw [verdict] at failed
      cases failed
  | refused reason =>
      rw [verdict] at failed
      cases failed
      rw [onKey] at verdict
      rw [← consistent.guarded.constructed?_eq]
      exact (Scope.verdictOn_eq_refused verdict).1
  | build constructor =>
      rw [verdict] at failed
      obtain ⟨asks, _, _, _⟩ := Scope.verdict_eq_build verdict
      rw [asked] at asks
      cases asks
      exact (consistent.construct verdict failed).1

/-- The scope reports no type mismatch of its own: the factory that it put to work ended with
that very error. -/
theorem Consistent.factory_of_typeMismatch
    {typeName name : String}
    (consistent : moment.Consistent)
    (failed : moment.session.answer (Work.run limit) request =
      (.failed (.typeMismatch typeName name), behind)) :
    ∃ constructor inner, moment.session.scope.verdict request = .build constructor ∧
      constructor.factory.run limit (moment.session.enter constructor.key) =
        (.failed (.wiring (.typeMismatch typeName name)), inner) := by
  rw [Session.answer_eq] at failed
  cases verdict : moment.session.scope.verdict request with
  | known made =>
      rw [verdict] at failed
      cases failed
  | refused reason =>
      rw [verdict] at failed
      cases failed
      exact absurd verdict (Scope.verdict_ne_typeMismatch typeName name)
  | build constructor =>
      rw [verdict] at failed
      obtain ⟨_, source, inner, ran, passed⟩ := consistent.construct verdict failed
      refine ⟨constructor, inner, rfl, ?_⟩
      cases source with
      | wiring error =>
          have same : error = .typeMismatch typeName name := passed.symm
          rw [ran, same]
      | message | failure | config => cases passed

/-! ## Every moment -/

/-- What holds of the scope at a moment, of the requests that can be made then, and of all
moments behind it. -/
structure Sound (moment : Moment value) : Prop where
  /-- No key is at work twice. -/
  distinct : moment.session.scope.inProgress.Nodup
  /-- The keys at work have constructors. -/
  registered : ∀ key ∈ moment.session.scope.inProgress,
    (moment.session.scope.find? key).isSome = true
  /-- The keys at work have no instances. -/
  unbuilt : ∀ key ∈ moment.session.scope.inProgress, moment.session.scope.instance? key = none
  /-- Constructors nest no deeper than there are constructors. -/
  bounded : moment.waiting.length ≤ moment.session.scope.constructors.length
  /-- A request is given up as too deep only with more constructors than the limit. -/
  shallow : ∀ limit request behind,
    moment.session.answer (Work.run limit) request = (.tooDeep, behind) ->
      limit < behind.scope.constructors.length
  /-- A request that is answered leaves the keys at work as they were. -/
  restored : ∀ limit request outcome behind,
    moment.session.answer (Work.run limit) request = (outcome, behind) ->
      outcome.isCutShort = false ->
        behind.scope.inProgress = moment.session.scope.inProgress
  /-- A request that is answered takes no constructor and no instance back. -/
  kept : ∀ limit request outcome behind,
    moment.session.answer (Work.run limit) request = (outcome, behind) ->
      outcome.isCutShort = false -> behind.scope.Extends moment.session.scope
  /-- A request that is answered with an error keeps nothing for its key. -/
  failed : ∀ limit request key error behind, request.key moment.session.scope = .ok key ->
    moment.session.answer (Work.run limit) request = (.failed error, behind) ->
      behind.scope.instance? key = none
  /-- A type mismatch is reported only where the factory ended with that very error. -/
  mismatch : ∀ limit request typeName name behind,
    moment.session.answer (Work.run limit) request =
        (.failed (.typeMismatch typeName name), behind) ->
      ∃ constructor inner, moment.session.scope.verdict request = .build constructor ∧
        constructor.factory.run limit (moment.session.enter constructor.key) =
          (.failed (.wiring (.typeMismatch typeName name)), inner)
  /-- No constructor and no instance is ever taken back. -/
  extended : ∀ later, Reaches moment later ->
    later.session.scope.Extends moment.session.scope
  /-- An instance answers every later request for its key, and the factory is not run again. -/
  answered : ∀ later key made, Reaches moment later ->
    moment.session.scope.instance? key = some made ->
      later.session.scope.constructed? key = some made ∧
        key ∉ later.session.scope.inProgress ∧
        ∀ runner, later.session.resolveNamed runner key = (.done made, later.session)
  /-- A second constructor of a key is refused, and changes nothing. -/
  duplicate : ∀ constructor : Constructor value,
    (moment.session.scope.find? constructor.key).isSome = true ->
      moment.session.provide constructor =
        (.error (.duplicate constructor.key.typeName constructor.key.name), moment.session)

theorem Consistent.sound
    (consistent : moment.Consistent) :
    moment.Sound where
  distinct := consistent.guarded.distinct
  registered := consistent.guarded.registered
  unbuilt := consistent.guarded.unbuilt
  bounded := by
    have count := consistent.guarded.length_inProgress_le
    rwa [consistent.waiting, List.length_map] at count
  shallow := fun _ _ _ answered => Nat.lt_of_succ_lt (consistent.limit_lt_of_tooDeep answered)
  restored := fun _ _ _ _ answered whole => (consistent.answer answered whole).1
  kept := fun _ _ _ _ answered whole => (consistent.answer answered whole).2
  failed := fun _ _ _ _ _ asked failed => consistent.instance?_of_failed asked failed
  mismatch := fun _ _ _ _ _ failed => consistent.factory_of_typeMismatch failed
  extended := fun _ reached => (consistent.reaches reached).2
  answered := by
    intro later key made reached kept
    obtain ⟨ends, extended⟩ := consistent.reaches reached
    have keptLater := extended.instances key made kept
    have looked : later.session.scope.constructed? key = some made := by
      rw [ends.guarded.constructed?_eq, keptLater]
    refine ⟨looked, ?_, ?_⟩
    · intro present
      rw [ends.guarded.unbuilt key present] at keptLater
      cases keptLater
    · intro runner
      unfold Session.resolveNamed
      rw [looked]
  duplicate := by
    intro constructor present
    have refused := (Scope.provide_eq_error_iff moment.session.scope constructor _).2
      ⟨present, rfl⟩
    rw [Session.provide, refused]

/-- Every moment that work comes to in a new scope is sound, whatever its factories do. -/
theorem sound_of_reaches_start
    {work : Work value}
    {host : Host}
    (reached : Reaches (start work host) moment) :
    moment.Sound :=
  ((consistent_start work host).reaches reached).1.sound

/-- Work that gives the scope two constructors, the first of which asks for the value of the
second, and then asks for the value of the first. -/
private def chain : Work Nat :=
  .provide ⟨"u32", "a"⟩ (Work.invoke "u16" fun made => .done (made + 1)) fun _ =>
    .provide ⟨"u16", "b"⟩ (.done 1) fun _ => Work.invoke "u32" .done

/-- The moment at which both constructors of the chain are at work. -/
theorem sound_within_chain :
    ∃ moment : Moment Nat, Reaches (start chain default) moment ∧
      moment.session.scope.inProgress = [⟨"u16", "b"⟩, ⟨"u32", "a"⟩] ∧ moment.Sound := by
  have first : Reaches (start chain default) ⟨_, [], Work.invoke "u32" .done⟩ :=
    ((Reaches.refl _).tail .provide).tail .provide
  have second := first.tail (.build (.ofType "u32") rfl)
  have third := second.tail (.build (.ofType "u16") rfl)
  exact ⟨_, third, rfl, sound_of_reaches_start third⟩

/-- A factory may end with a type mismatch of its own, and then that is the answer. -/
theorem exists_typeMismatch :
    ¬∀ (work : Work Nat) (host : Host) (moment : Moment Nat), Reaches (start work host) moment ->
      ∀ limit request typeName name behind,
        moment.session.answer (Work.run limit) request ≠
          (.failed (.typeMismatch typeName name), behind) := by
  intro never
  let mismatch : Work Nat := .fail (.wiring (.typeMismatch "u32" "a"))
  have reached : Reaches (start (.provide ⟨"u32", "a"⟩ mismatch fun _ => .done 0) default) _ :=
    (Reaches.refl _).tail .provide
  exact never _ _ _ reached 0 (.ofKey ⟨"u32", "a"⟩) "u32" "a" _ rfl

end Moment
end ConfigWiring
