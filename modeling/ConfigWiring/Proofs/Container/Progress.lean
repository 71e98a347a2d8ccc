import ConfigWiring.Proofs.Container.Invariants
import ConfigWiring.Proofs.Container.WiringGraph

/-!
# Progress on a wiring graph

A scope is wired by a graph if its factories follow their plans and every instance was made
after all that it depends on.  What a scope says to a request is then read off the graph, its
instances and the keys at work.  Answering requests makes progress: instances are made behind
what they depend on, each for a key that had none, and nothing else changes.
-/

namespace ConfigWiring

open Relation

variable {value : Type}

/-- The work makes the given requests, in order, ends with the error of the first that is not
answered, and otherwise with the given error of its own or with a value; between the requests it
may look at the host and change it. -/
inductive Issues : List Request -> Option ComponentError -> Work value -> Prop
  /-- There is nothing left to ask for, and the work ends with a value. -/
  | done (result : value) : Issues [] none (.done result)
  /-- There is nothing left to ask for, and the work ends with an error of its own. -/
  | fail {error : ComponentError} (own : ∀ inner, error ≠ .wiring inner) :
      Issues [] (some error) (.fail error)
  /-- The work makes a request, and ends with the error if it is not answered. -/
  | request (request : Request) {requests : List Request} {error? : Option ComponentError}
      {next : Except WiringError (Instance value) -> Work value}
      (goesOn : ∀ made, Issues requests error? (next (.ok made)))
      (gives : ∀ error, next (.error error) = .fail (.wiring error)) :
      Issues (request :: requests) error? (request.work next)
  /-- The work looks at the host. -/
  | look {requests : List Request} {error? : Option ComponentError} {next : Host -> Work value}
      (goesOn : ∀ host, Issues requests error? (next host)) :
      Issues requests error? (.look next)
  /-- The work changes the host. -/
  | change {requests : List Request} {error? : Option ComponentError} {host : Host}
      {next : Work value} (goesOn : Issues requests error? next) :
      Issues requests error? (.change host next)

namespace Scope

variable {scope : Scope value} {key : Key}

/-- The keys that have instances, the youngest first. -/
def kept (scope : Scope value) : List Key := scope.instances.map Prod.fst

theorem isSome_instance?_iff : (scope.instance? key).isSome = true ↔ key ∈ scope.kept := by
  rw [instance?, kept]
  simp

theorem instance?_eq_none_iff : scope.instance? key = none ↔ key ∉ scope.kept := by
  rw [← isSome_instance?_iff]
  simp

end Scope

namespace Wiring

variable {wiring : Wiring} {scope : Scope value} {request : Request} {key : Key}

/-- Keys, the youngest first, each of which was made without an error of its factory, after all
that it depends on. -/
def Settled (wiring : Wiring) : List Key -> Prop
  | [] => True
  | key :: others =>
      (key ∈ wiring.keys ∧ (wiring.plan key).error? = none ∧
        ∀ request ∈ (wiring.plan key).requests, ∃ other ∈ others,
          wiring.target request = .ok other) ∧
      wiring.Settled others

/-- A key that was made can be built. -/
theorem Settled.buildable
    {keys : List Key}
    (settled : wiring.Settled keys)
    (present : key ∈ keys) :
    wiring.Buildable key := by
  induction keys generalizing key with
  | nil => cases present
  | cons first others inductionHypothesis =>
      obtain ⟨⟨_, quiet, met⟩, settledOthers⟩ := settled
      rcases List.mem_cons.1 present with rfl | further
      · refine .intro key quiet ?_ ?_
        · intro request asked
          obtain ⟨other, _, leads⟩ := met request asked
          exact ⟨other, leads⟩
        · intro request asked other leads
          obtain ⟨another, member, leadsToo⟩ := met request asked
          rw [leads] at leadsToo
          cases leadsToo
          exact inductionHypothesis settledOthers member
      · exact inductionHypothesis settledOthers further

theorem Settled.mem_keys
    {keys : List Key}
    (settled : wiring.Settled keys)
    (present : key ∈ keys) :
    key ∈ wiring.keys := by
  induction keys with
  | nil => cases present
  | cons first others inductionHypothesis =>
      rcases List.mem_cons.1 present with rfl | further
      · exact settled.1.1
      · exact inductionHypothesis settled.2 further

/-- Whatever a key that was made depends on was made before it. -/
theorem Settled.mem_of_dependsOn
    {front others : List Key}
    {other : Key}
    (settled : wiring.Settled (front ++ key :: others))
    (depends : wiring.DependsOn key other) :
    other ∈ others := by
  induction front with
  | nil =>
      obtain ⟨request, asked, leads⟩ := depends
      obtain ⟨another, member, leadsToo⟩ := settled.1.2.2 request asked
      rw [leads] at leadsToo
      cases leadsToo
      exact member
  | cons first front inductionHypothesis => exact inductionHypothesis settled.2

/-- Whatever a key that was made reaches was made. -/
theorem Settled.mem_of_reaches
    {keys : List Key}
    {other : Key}
    (settled : wiring.Settled keys)
    (present : key ∈ keys)
    (reaches : ReflTransGen wiring.DependsOn key other) :
    other ∈ keys := by
  induction reaches with
  | refl => exact present
  | tail _ depends inductionHypothesis =>
      obtain ⟨front, others, split⟩ := List.append_of_mem inductionHypothesis
      rw [split] at settled ⊢
      have member := settled.mem_of_dependsOn depends
      simp [member]

/-- The constructors of a scope have the keys of the graph and follow its plans, the scope is
guarded, and every instance was made after all that it depends on. -/
structure Wired (wiring : Wiring) (scope : Scope value) : Prop where
  /-- The keys are those of the graph. -/
  keys : scope.constructors.map Constructor.key = wiring.keys
  /-- The factories follow the plans. -/
  issues : ∀ constructor ∈ scope.constructors,
    Issues (wiring.plan constructor.key).requests (wiring.plan constructor.key).error?
      constructor.factory
  /-- The scope is guarded. -/
  guarded : scope.Guarded
  /-- Every instance was made after all that it depends on. -/
  settled : wiring.Settled scope.kept

theorem Wired.isSome_find?
    (wired : wiring.Wired scope) :
    (scope.find? key).isSome = true ↔ key ∈ wiring.keys := by
  rw [Scope.isSome_find?_iff, wired.keys]

/-- The scope and the graph agree on the only key of a type. -/
theorem Wired.onlyKey_eq
    (wired : wiring.Wired scope)
    (typeName : String) :
    scope.onlyKey typeName = wiring.target (.ofType typeName) := by
  have same : scope.keysOf typeName = wiring.keysOf typeName := by
    rw [Scope.keysOf, keysOf, wired.keys]
  cases listed : wiring.keysOf typeName with
  | nil => simp [Scope.onlyKey, target, same, listed]
  | cons first others =>
      cases others with
      | nil => simp [Scope.onlyKey, target, same, listed]
      | cons second others => simp [Scope.onlyKey, target, same, listed]

/-- A request that leads to a key is decided by the verdict on the key. -/
theorem Wired.verdict_of_target
    (wired : wiring.Wired scope)
    (leads : wiring.target request = .ok key) :
    scope.verdict request = scope.verdictOn key := by
  have asked : request.key scope = .ok key := by
    cases request with
    | ofType typeName => exact (wired.onlyKey_eq typeName).trans leads
    | ofKey other =>
        rw [target] at leads
        split at leads
        · exact leads
        · cases leads
  rw [Scope.verdict, asked]

/-- A request that leads to no key is refused. -/
theorem Wired.verdict_of_target_error
    {error : WiringError}
    (wired : wiring.Wired scope)
    (leads : wiring.target request = .error error) :
    scope.verdict request = .refused error := by
  cases request with
  | ofType typeName =>
      have asked : (Request.ofType typeName).key scope = .error error :=
        (wired.onlyKey_eq typeName).trans leads
      rw [Scope.verdict, asked]
  | ofKey key =>
      rw [target] at leads
      split at leads
      · cases leads
      · next absent =>
          cases leads
          have unfound : scope.find? key = none := by
            rw [← Option.not_isSome_iff_eq_none, wired.isSome_find?]
            exact absent
          have unmade : scope.constructed? key = none := by
            rw [wired.guarded.constructed?_eq, Scope.instance?_eq_none_iff]
            exact fun present => absent (wired.settled.mem_keys present)
          show scope.verdictOn key = _
          unfold Scope.verdictOn
          simp only [unmade, unfound]

/-! ## Progress -/

/-- What lies between two sessions in which requests were answered and the factories of the
given keys ran. -/
structure Progress (wiring : Wiring) (session : Session value) (requests : List Request)
    (started : List Key) (behind : Session value) : Prop where
  /-- The scope is still wired. -/
  wired : wiring.Wired behind.scope
  /-- The keys at work are the same. -/
  inProgress : behind.scope.inProgress = session.scope.inProgress
  /-- The constructors are the same. -/
  constructors : behind.scope.constructors = session.scope.constructors
  /-- No factory ran twice. -/
  distinct : started.Nodup
  /-- No key that was at work was set to work. -/
  idle : ∀ key ∈ started, key ∉ session.scope.inProgress
  /-- No key that had an instance was set to work. -/
  fresh : ∀ key ∈ started, key ∉ session.scope.kept
  /-- Each of the factories that ran has made one instance, on top of those that were there. -/
  grown : ∃ finished, finished.Perm started ∧ behind.scope.kept = finished ++ session.scope.kept
  /-- The requests reach all that was set to work. -/
  reached : ∀ key ∈ started, ∃ request ∈ requests, wiring.Reachable request key
  /-- The requests lead to keys that have instances. -/
  answered : ∀ request ∈ requests, ∃ key, wiring.target request = .ok key ∧
    key ∈ behind.scope.kept

namespace Progress

variable {session middle behind : Session value} {requests more : List Request}
  {started further : List Key}

theorem refl (wired : wiring.Wired session.scope) : wiring.Progress session [] [] session where
  wired := wired
  inProgress := rfl
  constructors := rfl
  distinct := List.nodup_nil
  idle := by simp
  fresh := by simp
  grown := ⟨[], .refl _, rfl⟩
  reached := by simp
  answered := by simp

/-- A request for what is kept calls for nothing. -/
theorem of_kept
    (wired : wiring.Wired session.scope)
    (leads : wiring.target request = .ok key)
    (had : key ∈ session.scope.kept) :
    wiring.Progress session [request] [] session :=
  { refl wired with
    reached := by simp
    answered := by
      intro other asked
      obtain rfl := List.mem_singleton.1 asked
      exact ⟨key, leads, had⟩ }

/-- A key has an instance behind the progress if it had one or was set to work. -/
theorem mem_kept
    (progress : wiring.Progress session requests started behind) :
    key ∈ behind.scope.kept ↔ key ∈ started ∨ key ∈ session.scope.kept := by
  obtain ⟨finished, permuted, grown⟩ := progress.grown
  rw [grown, List.mem_append, permuted.mem_iff]

/-- Progress goes on from where it came to. -/
theorem trans
    (before : wiring.Progress session requests started middle)
    (after : wiring.Progress middle more further behind) :
    wiring.Progress session (requests ++ more) (started ++ further) behind where
  wired := after.wired
  inProgress := after.inProgress.trans before.inProgress
  constructors := after.constructors.trans before.constructors
  distinct := by
    refine List.nodup_append.2 ⟨before.distinct, after.distinct, ?_⟩
    rintro key early _ late rfl
    exact after.fresh key late (before.mem_kept.2 (.inl early))
  idle := by
    intro key present
    rcases List.mem_append.1 present with early | late
    · exact before.idle key early
    · rw [← before.inProgress]
      exact after.idle key late
  fresh := by
    intro key present
    rcases List.mem_append.1 present with early | late
    · exact before.fresh key early
    · exact fun had => after.fresh key late (before.mem_kept.2 (.inr had))
  grown := by
    obtain ⟨first, firstPermuted, firstGrown⟩ := before.grown
    obtain ⟨second, secondPermuted, secondGrown⟩ := after.grown
    refine ⟨second ++ first, ?_, ?_⟩
    · exact (List.perm_append_comm).trans (firstPermuted.append secondPermuted)
    · rw [secondGrown, firstGrown, List.append_assoc]
  reached := by
    intro key present
    rcases List.mem_append.1 present with early | late
    · obtain ⟨request, asked, reaches⟩ := before.reached key early
      exact ⟨request, List.mem_append_left _ asked, reaches⟩
    · obtain ⟨request, asked, reaches⟩ := after.reached key late
      exact ⟨request, List.mem_append_right _ asked, reaches⟩
  answered := by
    intro request asked
    rcases List.mem_append.1 asked with early | late
    · obtain ⟨key, leads, had⟩ := before.answered request early
      exact ⟨key, leads, after.mem_kept.2 (.inr had)⟩
    · exact after.answered request late

/-- Requests that were answered can be answered. -/
theorem answerable
    (progress : wiring.Progress session requests started behind) :
    ∀ request ∈ requests, wiring.Answerable request := by
  intro request asked
  obtain ⟨key, leads, had⟩ := progress.answered request asked
  exact ⟨key, leads, progress.wired.settled.buildable had⟩

/-- Answering one request sets to work what it reaches and had no instance. -/
theorem mem_started_iff
    (progress : wiring.Progress session [request] started behind) :
    key ∈ started ↔ wiring.Reachable request key ∧ session.scope.instance? key = none := by
  rw [Scope.instance?_eq_none_iff]
  constructor
  · intro present
    obtain ⟨asked, member, reaches⟩ := progress.reached key present
    obtain rfl := List.mem_singleton.1 member
    exact ⟨reaches, progress.fresh key present⟩
  · rintro ⟨⟨origin, leads, reaches⟩, unmade⟩
    obtain ⟨root, leadsToo, had⟩ := progress.answered request (List.mem_singleton_self request)
    rw [leads] at leadsToo
    cases leadsToo
    have made := progress.wired.settled.mem_of_reaches had reaches
    exact (progress.mem_kept.1 made).resolve_right unmade

end Progress

end Wiring
end ConfigWiring
