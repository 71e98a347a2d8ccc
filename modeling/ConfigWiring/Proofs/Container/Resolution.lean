import ConfigWiring.Build.Lifecycle
import ConfigWiring.Proofs.Container.Progress

/-!
# Answering requests

A request to a scope that is wired by a graph is answered by a depth-first walk of the graph.
It is answered with a value exactly if nothing stands in its way, and then the factories of
all that it reaches and that had no instance have run, each once and behind all that it depends
on; otherwise it is answered with the first error that the walk comes upon.
-/

namespace ConfigWiring

open Relation Moment

variable {value : Type}

namespace Wiring

variable {wiring : Wiring} {scope : Scope value} {request : Request} {key : Key}
  {depth : Nat} {runner : Runner value}

/-- What the answer to a request tells: progress that the request called for, or the error that
the walk comes upon. -/
def Answered (wiring : Wiring) (session : Session value) (request : Request) :
    Outcome WiringError (Instance value) × Session value -> Prop
  | (.done made, behind) =>
      ∃ started key, wiring.Progress session [request] started behind ∧
        wiring.target request = .ok key ∧ behind.scope.instance? key = some made ∧
          ∀ waiting next, Run ⟨session, waiting, request.work next⟩ started
            ⟨behind, waiting, next (.ok made)⟩
  | (.failed error, behind) =>
      wiring.Fails session.scope.inProgress request error ∧ wiring.Wired behind.scope ∧
        behind.scope.inProgress = session.scope.inProgress ∧
          behind.scope.constructors = session.scope.constructors
  | _ => False

/-- Requests are answered as the graph tells wherever no more keys are left to be set to work
than the depth. -/
def Answers (wiring : Wiring) (depth : Nat) (runner : Runner value) : Prop :=
  ∀ session request, wiring.Wired session.scope ->
    session.scope.constructors.length ≤ depth + session.scope.inProgress.length ->
      wiring.Answered session request (session.answer runner request)

/-- What the end of a factory tells: progress that its requests called for, or the error of the
first of them that is not answered, or its own. -/
def Ended (wiring : Wiring) (session : Session value) (requests : List Request)
    (error? : Option ComponentError) (work : Work value) :
    Outcome ComponentError value × Session value -> Prop
  | (.done result, behind) =>
      error? = none ∧ ∃ started, wiring.Progress session requests started behind ∧
        ∀ waiting, Run ⟨session, waiting, work⟩ started ⟨behind, waiting, .done result⟩
  | (.failed error, behind) =>
      wiring.Wired behind.scope ∧ behind.scope.inProgress = session.scope.inProgress ∧
        behind.scope.constructors = session.scope.constructors ∧
          ((∃ before failing after inner, requests = before ++ failing :: after ∧
              error = .wiring inner ∧ (∀ earlier ∈ before, wiring.Answerable earlier) ∧
                wiring.Fails session.scope.inProgress failing inner) ∨
            error? = some error ∧ (∀ inner, error ≠ .wiring inner) ∧
              ∀ request ∈ requests, wiring.Answerable request)
  | _ => False

/-- Work that takes a step first ends as what is left behind the step. -/
theorem Ended.head
    {session : Session value}
    {host : Host}
    {requests : List Request}
    {error? : Option ComponentError}
    {work rest : Work value}
    {ending : Outcome ComponentError value × Session value}
    (step : ∀ waiting, Step ⟨session, waiting, work⟩ [] ⟨{ session with host }, waiting, rest⟩)
    (ended : wiring.Ended { session with host } requests error? rest ending) :
    wiring.Ended session requests error? work ending := by
  obtain ⟨outcome, behind⟩ := ending
  cases outcome with
  | done result =>
      obtain ⟨quiet, started, progress, ran⟩ := ended
      refine ⟨quiet, started, ?_, fun waiting => (ran waiting).head (step waiting)⟩
      exact { progress with }
  | failed error => exact ended
  | brokenDown | tooDeep => exact ended

/-- Work whose first request made progress ends as what is left behind that request. -/
theorem Ended.behindRequest
    {session middle : Session value}
    {requests : List Request}
    {error? : Option ComponentError}
    {started : List Key}
    {made : Instance value}
    {next : Except WiringError (Instance value) -> Work value}
    {ending : Outcome ComponentError value × Session value}
    (progress : wiring.Progress session [request] started middle)
    (ran : ∀ waiting, Run ⟨session, waiting, request.work next⟩ started
      ⟨middle, waiting, next (.ok made)⟩)
    (ended : wiring.Ended middle requests error? (next (.ok made)) ending) :
    wiring.Ended session (request :: requests) error? (request.work next) ending := by
  obtain ⟨outcome, behind⟩ := ending
  cases outcome with
  | done result =>
      obtain ⟨quiet, further, more, ranOn⟩ := ended
      refine ⟨quiet, started ++ further, progress.trans more, fun waiting => ?_⟩
      exact (ran waiting).trans (ranOn waiting)
  | failed error =>
      obtain ⟨wiredBehind, inProgress, constructors, reason⟩ := ended
      refine ⟨wiredBehind, inProgress.trans progress.inProgress,
        constructors.trans progress.constructors, ?_⟩
      have first := progress.answerable request (List.mem_singleton_self request)
      rcases reason with ⟨before, failing, after, inner, split, wrapped, earlier, fails⟩ |
        ⟨ends, own, all⟩
      · refine .inl ⟨request :: before, failing, after, inner, by rw [split]; rfl, wrapped,
          ?_, progress.inProgress ▸ fails⟩
        exact List.forall_mem_cons.2 ⟨first, earlier⟩
      · exact .inr ⟨ends, own, List.forall_mem_cons.2 ⟨first, all⟩⟩
  | brokenDown | tooDeep => exact ended

/-- The work of a factory ends as its plan tells, if its requests are answered as the graph
tells. -/
theorem Answers.ended
    (answers : wiring.Answers depth runner)
    {requests : List Request}
    {error? : Option ComponentError}
    {work : Work value}
    (issues : Issues requests error? work)
    {session : Session value}
    (wired : wiring.Wired session.scope)
    (room : session.scope.constructors.length ≤ depth + session.scope.inProgress.length) :
    wiring.Ended session requests error? work (work.runWith runner session) := by
  induction issues generalizing session with
  | done result =>
      exact ⟨rfl, [], .refl wired, fun _ => .refl _⟩
  | fail own =>
      exact ⟨wired, rfl, rfl, .inr ⟨rfl, own, by simp⟩⟩
  | look _ inductionHypothesis =>
      rw [Work.runWith]
      exact (inductionHypothesis session.host wired room).head fun _ => .look
  | @change requests error? host next _ inductionHypothesis =>
      rw [Work.runWith]
      exact (@inductionHypothesis { session with host } wired room).head fun _ => .change
  | @request request requests error? next _ gives inductionHypothesis =>
      rw [Work.runWith_work]
      have answered := answers session request wired room
      generalize session.answer runner request = answer at answered
      obtain ⟨outcome, middle⟩ := answer
      cases outcome with
      | done made =>
          obtain ⟨started, key, progress, leads, had, ran⟩ := answered
          have roomBehind :
              middle.scope.constructors.length ≤ depth + middle.scope.inProgress.length := by
            rwa [progress.constructors, progress.inProgress]
          exact (inductionHypothesis made progress.wired roomBehind).behindRequest progress
            fun waiting => ran waiting next
      | failed error =>
          obtain ⟨fails, wiredBehind, inProgress, constructors⟩ := answered
          have given : Work.resume (fun answer => (next answer).runWith runner)
              (.failed error, middle) = (.failed (.wiring error), middle) := by
            simp only [Work.resume, gives, Work.runWith]
          rw [given]
          exact ⟨wiredBehind, inProgress, constructors,
            .inl ⟨[], request, requests, error, rfl, rfl, by simp, fails⟩⟩
      | brokenDown | tooDeep => exact answered

/-- Where the constructor of a key is put to work, the keys at work leave room for it. -/
theorem Wired.length_inProgress_lt
    (wired : wiring.Wired scope)
    (registered : key ∈ wiring.keys)
    (idle : key ∉ scope.inProgress) :
    scope.inProgress.length < scope.constructors.length := by
  have distinct : (key :: scope.inProgress).Nodup :=
    List.nodup_cons.2 ⟨idle, wired.guarded.distinct⟩
  have included : key :: scope.inProgress ⊆ wiring.keys := by
    intro other present
    rcases List.mem_cons.1 present with rfl | further
    · exact registered
    · exact wired.isSome_find?.1 (wired.guarded.registered other further)
  calc scope.inProgress.length + 1
      = (key :: scope.inProgress).length := rfl
    _ ≤ wiring.keys.length := distinct.length_le_of_subset included
    _ = scope.constructors.length := by rw [← wired.keys, List.length_map]

/-- A scope in which the constructor of a key is put to work is still wired. -/
theorem Wired.enter
    (wired : wiring.Wired scope)
    (registered : key ∈ wiring.keys)
    (unmade : scope.instance? key = none)
    (idle : key ∉ scope.inProgress) :
    wiring.Wired (scope.enter key) where
  keys := wired.keys
  issues := wired.issues
  guarded := wired.guarded.enter (wired.isSome_find?.2 registered) unmade idle
  settled := wired.settled

theorem Wired.leave
    (wired : wiring.Wired scope)
    (key : Key) :
    wiring.Wired (scope.leave key) where
  keys := wired.keys
  issues := wired.issues
  guarded := wired.guarded.leave key
  settled := wired.settled

/-- The progress of a factory whose requests were answered is completed by keeping what it
made. -/
theorem Progress.construct
    {session behind : Session value}
    {started : List Key}
    {made : Instance value}
    (leads : wiring.target request = .ok key)
    (unmade : session.scope.instance? key = none)
    (idle : key ∉ session.scope.inProgress)
    (quiet : (wiring.plan key).error? = none)
    (fit : made.fits key = true)
    (progress : wiring.Progress (session.enter key) (wiring.plan key).requests started behind) :
    wiring.Progress session [request] (key :: started) ((behind.leave key).keep key made) := by
  have registered := mem_keys_of_target leads
  have atWork : key ∈ (session.enter key).scope.inProgress := List.mem_cons_self
  have alone : key ∉ started := fun present => progress.idle key present atWork
  have left : (behind.leave key).scope.inProgress = session.scope.inProgress :=
    Scope.inProgress_leave progress.wired.guarded.distinct progress.inProgress
  exact {
    wired := {
      keys := progress.wired.keys
      issues := progress.wired.issues
      guarded := (progress.wired.guarded.leave key).keep (left ▸ idle) fit
      settled := by
        refine ⟨⟨registered, quiet, ?_⟩, progress.wired.settled⟩
        intro inner asked
        obtain ⟨other, leadsOn, had⟩ := progress.answered inner asked
        exact ⟨other, had, leadsOn⟩ }
    inProgress := left
    constructors := progress.constructors
    distinct := List.nodup_cons.2 ⟨alone, progress.distinct⟩
    idle := by
      intro other present
      rcases List.mem_cons.1 present with rfl | further
      · exact idle
      · exact fun member => progress.idle other further (List.mem_cons_of_mem _ member)
    fresh := by
      intro other present
      rcases List.mem_cons.1 present with rfl | further
      · exact Scope.instance?_eq_none_iff.1 unmade
      · exact progress.fresh other further
    grown := by
      obtain ⟨finished, permuted, grown⟩ := progress.grown
      exact ⟨key :: finished, permuted.cons key, congrArg (key :: ·) grown⟩
    reached := by
      intro other present
      refine ⟨request, List.mem_singleton_self request, key, leads, ?_⟩
      rcases List.mem_cons.1 present with rfl | further
      · exact ReflTransGen.refl
      · obtain ⟨inner, asked, root, leadsOn, reaches⟩ := progress.reached other further
        exact ReflTransGen.head ⟨inner, asked, leadsOn⟩ reaches
    answered := by
      intro other asked
      obtain rfl := List.mem_singleton.1 asked
      exact ⟨key, leads, List.mem_cons_self⟩ }

/-- A request is answered as the graph tells if it is so where a constructor has to be put to
work. -/
theorem Wired.answered
    {session : Session value}
    (wired : wiring.Wired session.scope)
    (runner : Runner value)
    (constructs : ∀ constructor, session.scope.verdict request = .build constructor ->
      wiring.target request = .ok constructor.key ->
        session.scope.instance? constructor.key = none ->
          constructor.key ∉ session.scope.inProgress ->
            wiring.Answered session request
              (session.construct runner constructor.key constructor)) :
    wiring.Answered session request (session.answer runner request) := by
  rw [Session.answer_eq]
  cases leads : wiring.target request with
  | error error =>
      rw [wired.verdict_of_target_error leads]
      exact ⟨.refused leads, wired, rfl, rfl⟩
  | ok key =>
      have onKey := wired.verdict_of_target leads
      cases verdict : session.scope.verdict request with
      | known made =>
          have had : session.scope.instance? key = some made := by
            rw [← wired.guarded.constructed?_eq]
            exact Scope.verdictOn_eq_known (onKey ▸ verdict)
          have kept : key ∈ session.scope.kept := by
            rw [← Scope.isSome_instance?_iff, had]
            rfl
          exact ⟨[], key, .of_kept wired leads kept, leads, had, fun waiting next =>
            (Run.refl _).tail (.known request verdict)⟩
      | refused error =>
          obtain ⟨_, ⟨unfound, _⟩ | ⟨atWork, rfl⟩⟩ :=
            Scope.verdictOn_eq_refused (onKey ▸ verdict)
          · have found := wired.isSome_find?.2 (mem_keys_of_target leads)
            rw [unfound] at found
            cases found
          · exact ⟨.cycle leads atWork, wired, rfl, rfl⟩
      | build constructor =>
          obtain ⟨_, rfl, unmade, idle⟩ := Scope.verdictOn_eq_build (onKey ▸ verdict)
          rw [wired.guarded.constructed?_eq] at unmade
          exact constructs constructor verdict leads unmade idle

/-- Requests are answered as the graph tells at one more level of nesting. -/
theorem Answers.runWith
    (answers : wiring.Answers depth runner) :
    wiring.Answers (depth + 1) (Work.runWith runner) := by
  intro session request wired room
  apply wired.answered
  intro constructor verdict leads unmade idle
  obtain ⟨_, found, _, _⟩ := Scope.verdict_eq_build verdict
  have issues := wired.issues constructor (Scope.find?_eq_some found).1
  have entered := wired.enter (mem_keys_of_target leads) unmade idle
  have roomInside : (session.enter constructor.key).scope.constructors.length ≤
      depth + (session.enter constructor.key).scope.inProgress.length := by
    show session.scope.constructors.length ≤ depth + (session.scope.inProgress.length + 1)
    omega
  have ended := answers.ended issues entered roomInside
  simp only [Session.construct]
  generalize constructor.factory.runWith runner (session.enter constructor.key) = ending at ended
  obtain ⟨outcome, behind⟩ := ending
  cases outcome with
  | done result =>
      obtain ⟨quiet, started, progress, ran⟩ := ended
      have fit := newInstance_fits (behind.leave constructor.key).scope constructor result
      simp only [Session.accept]
      rw [if_pos fit]
      refine ⟨constructor.key :: started, constructor.key,
        progress.construct leads unmade idle quiet fit, leads, by simp [Session.keep], ?_⟩
      intro waiting next
      have inside := (ran (⟨constructor, next⟩ :: waiting)).tail (.keep rfl fit)
      rw [List.append_nil] at inside
      exact inside.head (.build request verdict)
  | failed error =>
      obtain ⟨wiredBehind, inProgress, constructors, reason⟩ := ended
      have left : (behind.leave constructor.key).scope.inProgress = session.scope.inProgress :=
        Scope.inProgress_leave wiredBehind.guarded.distinct inProgress
      refine ⟨?_, wiredBehind.leave _, left, constructors⟩
      rcases reason with ⟨before, failing, after, inner, split, rfl, earlier, fails⟩ |
        ⟨ends, own, all⟩
      · exact .inner leads idle split earlier fails
      · have wrapped : WiringError.ofFactory constructor.key error =
            .construct constructor.key.typeName constructor.key.name error := by
          cases error with
          | wiring inner => exact absurd rfl (own inner)
          | message | failure | config => rfl
        rw [wrapped]
        exact .own leads idle all ends
  | brokenDown | tooDeep => exact ended

/-- Requests are answered as the graph tells with a limit that has room for all keys. -/
theorem answers_run (wiring : Wiring) (limit : Nat) :
    wiring.Answers (limit + 1) (Work.run limit : Runner value) := by
  induction limit with
  | zero =>
      have givesUp : wiring.Answers 0 fun (_ : Work value) session => (.tooDeep, session) := by
        intro session request wired room
        apply wired.answered
        intro constructor verdict leads unmade idle
        have more := wired.length_inProgress_lt (mem_keys_of_target leads) idle
        omega
      exact givesUp.runWith
  | succ limit inductionHypothesis => exact inductionHypothesis.runWith

/-! ## Top-level requests -/

/-- The scopes that come of giving a new scope constructors and answering requests in it, each
on whatever host there is then. -/
inductive Arises (constructors : List (Constructor value)) : Scope value -> Prop
  /-- The scope has its constructors. -/
  | provided {host : Host} {session : Session value}
      (provided : Lifecycle.provideAll constructors ⟨.empty, host⟩ = (.ok (), session)) :
      Arises constructors session.scope
  /-- A request was answered, with a value or an error. -/
  | answered {scope : Scope value} {host : Host} {limit : Nat} {request : Request}
      {outcome : Outcome WiringError (Instance value)} {behind : Session value}
      (before : Arises constructors scope)
      (room : constructors.length ≤ limit)
      (answer : Session.answer (Work.run limit) request ⟨scope, host⟩ = (outcome, behind)) :
      Arises constructors behind.scope

/-- The wiring graph of constructors with plans. -/
def ofConstructors (constructors : List (Constructor value)) (plan : Key -> Plan) : Wiring :=
  ⟨constructors.map Constructor.key, plan⟩

/-- Giving a scope constructors adds them behind those that it has. -/
theorem provideAll_eq_ok
    {constructors : List (Constructor value)}
    {session behind : Session value}
    (provided : Lifecycle.provideAll constructors session = (.ok (), behind)) :
    behind.scope = { session.scope with
      constructors := session.scope.constructors ++ constructors } := by
  induction constructors generalizing session with
  | nil =>
      cases provided
      simp
  | cons constructor rest inductionHypothesis =>
      rw [Lifecycle.provideAll] at provided
      split at provided
      · next middle one =>
          have added := inductionHypothesis provided
          have first : middle.scope = { session.scope with
              constructors := session.scope.constructors ++ [constructor] } := by
            unfold Session.provide at one
            split at one
            · next scope taken =>
                cases one
                exact (Scope.provide_eq_ok_iff.1 taken).2
            · cases one
          rw [added, first]
          simp
      · cases provided

/-- A scope that arises is wired, and no constructor is at work in it. -/
theorem Arises.wired
    {constructors : List (Constructor value)}
    {plan : Key -> Plan}
    (issues : ∀ constructor ∈ constructors, Issues (plan constructor.key).requests
      (plan constructor.key).error? constructor.factory)
    (arises : Arises constructors scope) :
    (ofConstructors constructors plan).Wired scope ∧ scope.inProgress = [] ∧
      scope.constructors = constructors := by
  induction arises with
  | provided provided =>
      rw [provideAll_eq_ok provided]
      have guarded : Scope.Guarded (⟨constructors, [], []⟩ : Scope value) :=
        ⟨List.nodup_nil, by simp, by simp, by simp [Scope.instance?]⟩
      exact ⟨⟨rfl, issues, guarded, trivial⟩, rfl, rfl⟩
  | @answered scope host limit request outcome behind before room answer inductionHypothesis =>
      obtain ⟨wired, idle, same⟩ := inductionHypothesis
      have answered := answers_run (ofConstructors constructors plan) limit ⟨scope, host⟩ request
        wired (by
          show scope.constructors.length ≤ _
          rw [same]
          omega)
      rw [answer] at answered
      cases outcome with
      | done made =>
          obtain ⟨started, key, progress, _⟩ := answered
          exact ⟨progress.wired, progress.inProgress.trans idle, progress.constructors.trans same⟩
      | failed error =>
          obtain ⟨_, wiredBehind, inProgress, constructors⟩ := answered
          exact ⟨wiredBehind, inProgress.trans idle, constructors.trans same⟩
      | brokenDown | tooDeep => exact answered.elim

/-- Every request to a scope of constructors that follow plans is answered.  It is answered with
a value exactly if nothing stands in its way, and with an error exactly if a depth-first walk
comes upon that error first.  On the way to a value the factories of those keys run that the
request reaches and that have no instance yet, each once, and every instance is made behind
those of all keys that its key depends on. -/
theorem answer_depthFirst
    {constructors : List (Constructor value)}
    {plan : Key -> Plan}
    {limit : Nat}
    (issues : ∀ constructor ∈ constructors, Issues (plan constructor.key).requests
      (plan constructor.key).error? constructor.factory)
    (arises : Arises constructors scope)
    (room : constructors.length ≤ limit)
    (host : Host)
    (request : Request) :
    let wiring := ofConstructors constructors plan
    let session : Session value := ⟨scope, host⟩
    ∃ outcome behind, session.answer (Work.run limit) request = (outcome, behind) ∧
      outcome.isCutShort = false ∧
      ((∃ made, outcome = .done made) ↔ wiring.Resolvable request) ∧
      (∀ error, outcome = .failed error ↔ wiring.Fails [] request error) ∧
      ∀ made, outcome = .done made -> ∃ root started finished,
        wiring.target request = .ok root ∧ behind.scope.instance? root = some made ∧
        (∀ waiting next, Run ⟨session, waiting, request.work next⟩ started
          ⟨behind, waiting, next (.ok made)⟩) ∧
        started.Nodup ∧
        (∀ key, key ∈ started ↔ wiring.Reachable request key ∧ scope.instance? key = none) ∧
        finished.Perm started ∧ behind.scope.kept = finished ++ scope.kept ∧
        ∀ front key others, behind.scope.kept = front ++ key :: others ->
          ∀ other, wiring.DependsOn key other -> other ∈ others := by
  intro wiring session
  obtain ⟨wired, idle, same⟩ := arises.wired issues
  have enough : session.scope.constructors.length ≤
      limit + 1 + session.scope.inProgress.length := by
    show scope.constructors.length ≤ _
    rw [same]
    omega
  have answered := answers_run wiring limit session request wired enough
  have onPath : wiring.LeadsFrom [] request := by simp [LeadsFrom]
  rcases answer : session.answer (Work.run limit) request with ⟨outcome, behind⟩
  rw [answer] at answered
  refine ⟨outcome, behind, rfl, ?_⟩
  cases outcome with
  | done made =>
      obtain ⟨started, root, progress, leads, had, ran⟩ := answered
      have answerable := progress.answerable request (List.mem_singleton_self request)
      refine ⟨rfl, ?_, ?_, ?_⟩
      · exact iff_of_true ⟨made, rfl⟩ (answerable_iff_resolvable.1 answerable)
      · intro error
        exact iff_of_false (by simp) fun fails => fails.not_answerable onPath answerable
      · intro result same
        cases same
        obtain ⟨finished, permuted, grown⟩ := progress.grown
        refine ⟨root, started, finished, leads, had, ran, progress.distinct,
          fun key => progress.mem_started_iff, permuted, grown, ?_⟩
        intro front key others split other depends
        have settled := progress.wired.settled
        rw [split] at settled
        exact settled.mem_of_dependsOn depends
  | failed error =>
      obtain ⟨fails, _⟩ := answered
      rw [show session.scope.inProgress = [] from idle] at fails
      have unanswerable := fails.not_answerable onPath
      refine ⟨rfl, ?_, ?_, by simp⟩
      · refine iff_of_false (by simp) ?_
        rwa [← answerable_iff_resolvable]
      · intro other
        constructor
        · intro same
          cases same
          exact fails
        · intro failsToo
          rw [fails.unique failsToo onPath]
  | brokenDown | tooDeep => exact answered.elim

/-- Of two constructors the first asks for the value of the second, which has a value: nothing
stands in the way of the first, whose value is made of both. -/
theorem answer_depthFirst_of_two :
    let first : Constructor Nat := ⟨⟨"u32", "a"⟩, Work.invoke "u16" fun made => .done (made + 1)⟩
    let second : Constructor Nat := ⟨⟨"u16", "b"⟩, .done 1⟩
    let plan : Key -> Plan := fun key =>
      ⟨if key.typeName = "u32" then [.ofType "u16"] else [], none⟩
    ∃ made behind, Session.answer (Work.run 2) (.ofType "u32") ⟨⟨[first, second], [], []⟩, default⟩ =
        (.done made, behind) ∧ made.value = 2 ∧
      (ofConstructors [first, second] plan).Resolvable (.ofType "u32") := by
  intro first second plan
  have issues : ∀ constructor ∈ [first, second], Issues (plan constructor.key).requests
      (plan constructor.key).error? constructor.factory := by
    intro constructor present
    simp only [List.mem_cons, List.not_mem_nil, or_false] at present
    rcases present with rfl | rfl
    · exact .request (.ofType "u16") (fun made => .done (made.value + 1)) fun _ => rfl
    · exact .done 1
  have provided : Lifecycle.provideAll [first, second] ⟨.empty, default⟩ =
      (.ok (), ⟨⟨[first, second], [], []⟩, default⟩) := rfl
  obtain ⟨outcome, behind, answer, _, resolvable, _, _⟩ :=
    answer_depthFirst issues (.provided provided) (Nat.le_refl 2) default (.ofType "u32")
  have done : Session.answer (Work.run 2) (.ofType "u32") ⟨⟨[first, second], [], []⟩, default⟩ =
      (.done ⟨1, "u32", 2⟩, _) := rfl
  rw [done] at answer
  cases answer
  exact ⟨_, _, done, rfl, resolvable.1 ⟨_, rfl⟩⟩

end Wiring
end ConfigWiring
