import ConfigWiring.Proofs.Container.Request
import Mathlib.Data.Fintype.Card
import Mathlib.Data.Set.Finite.List
import Mathlib.Logic.Relation

/-!
# The wiring graph

Constructors whose factories make fixed requests form a graph: a key depends on the keys that
its requests lead to.  What can be built is what leads to no failure: no request without a
single target, no factory with an error of its own, and no way back to where it came from.
What fails does so by the first of these in depth-first order.
-/

namespace ConfigWiring

open Relation

/-- What a factory does: the requests that it makes, in order, and the error that it ends with
if all of them are answered, unless it ends with a value. -/
structure Plan where
  /-- The requests. -/
  requests : List Request
  /-- The error of its own. -/
  error? : Option ComponentError

/-- Registered keys with the plans of their factories. -/
structure Wiring where
  /-- The keys. -/
  keys : List Key
  /-- The plans. -/
  plan : Key -> Plan

namespace Wiring

variable {wiring : Wiring} {request : Request} {key : Key} {path : List Key}

/-- The keys of a type. -/
def keysOf (wiring : Wiring) (typeName : String) : List Key :=
  wiring.keys.filter fun key => key.typeName == typeName

/-- Whether a request has one target: a type with a single constructor or a registered key. -/
def Met (wiring : Wiring) (request : Request) : Prop :=
  match request with
  | .ofType typeName => (wiring.keysOf typeName).length = 1
  | .ofKey key => key ∈ wiring.keys

/-- The key that a request leads to, or why it leads to none. -/
def target (wiring : Wiring) (request : Request) : Except WiringError Key :=
  match request with
  | .ofType typeName =>
      match wiring.keysOf typeName with
      | [] => .error (.missing typeName)
      | [key] => .ok key
      | keys => .error (.ambiguous typeName keys.length)
  | .ofKey key =>
      if key ∈ wiring.keys then .ok key else .error (.missingNamed key.typeName key.name)

theorem met_iff : wiring.Met request ↔ ∃ key, wiring.target request = .ok key := by
  cases request with
  | ofKey key =>
      by_cases registered : key ∈ wiring.keys <;> simp [Met, target, registered]
  | ofType typeName =>
      unfold Met target
      simp only
      split
      · next none => simp [none]
      · next key single => simp [single]
      · next keys nonempty several =>
          refine iff_of_false ?_ (by simp)
          intro single
          obtain ⟨key, only⟩ := List.length_eq_one_iff.1 single
          exact several key only

/-- A request leads to registered keys only. -/
theorem mem_keys_of_target
    (leads : wiring.target request = .ok key) :
    key ∈ wiring.keys := by
  cases request with
  | ofKey other =>
      rw [target] at leads
      split at leads
      · next registered =>
          cases leads
          exact registered
      · cases leads
  | ofType typeName =>
      rw [target] at leads
      split at leads
      · cases leads
      · next only single =>
          cases leads
          have member : key ∈ wiring.keysOf typeName := by
            rw [single]
            exact List.mem_singleton_self key
          exact (List.mem_filter.1 member).1
      · cases leads

/-- A key depends on the keys that the requests of its factory lead to. -/
def DependsOn (wiring : Wiring) (key other : Key) : Prop :=
  ∃ request ∈ (wiring.plan key).requests, wiring.target request = .ok other

/-- The keys that a request leads to, at once or through what they depend on. -/
def Reachable (wiring : Wiring) (request : Request) (key : Key) : Prop :=
  ∃ root, wiring.target request = .ok root ∧ ReflTransGen wiring.DependsOn root key

/-- Nothing stands in the way of a request: every request on the way has one target, no key
depends on itself, and no factory ends with an error of its own. -/
structure Resolvable (wiring : Wiring) (request : Request) : Prop where
  /-- The request has one target. -/
  met : wiring.Met request
  /-- So have all requests of the factories that it reaches. -/
  met_inner : ∀ key, wiring.Reachable request key ->
    ∀ inner ∈ (wiring.plan key).requests, wiring.Met inner
  /-- No key that it reaches depends on itself, at once or through others. -/
  acyclic : ∀ key, wiring.Reachable request key -> ¬TransGen wiring.DependsOn key key
  /-- No factory that it reaches ends with an error of its own. -/
  quiet : ∀ key, wiring.Reachable request key -> (wiring.plan key).error? = none

/-! ## What can be built -/

/-- The keys whose factories end with a value once everything that they ask for is built. -/
inductive Buildable (wiring : Wiring) : Key -> Prop
  /-- All requests lead to keys that can be built, and the factory has no error of its own. -/
  | intro (key : Key)
      (quiet : (wiring.plan key).error? = none)
      (met : ∀ request ∈ (wiring.plan key).requests, ∃ other, wiring.target request = .ok other)
      (inner : ∀ request ∈ (wiring.plan key).requests, ∀ other,
        wiring.target request = .ok other -> wiring.Buildable other) :
      wiring.Buildable key

/-- Whether a request leads to a key that can be built. -/
def Answerable (wiring : Wiring) (request : Request) : Prop :=
  ∃ key, wiring.target request = .ok key ∧ wiring.Buildable key

/-- The requests of a key that can be built can be answered. -/
theorem Buildable.answerable
    {inner : Request}
    (buildable : wiring.Buildable key)
    (present : inner ∈ (wiring.plan key).requests) :
    wiring.Answerable inner := by
  cases buildable with
  | intro _ _ met builds =>
      obtain ⟨other, leads⟩ := met inner present
      exact ⟨other, leads, builds inner present other leads⟩

/-- The factory of a key that can be built has no error of its own. -/
theorem Buildable.quiet
    (buildable : wiring.Buildable key) :
    (wiring.plan key).error? = none := by
  cases buildable with
  | intro _ quiet _ _ => exact quiet

theorem Buildable.dependsOn
    {other : Key}
    (buildable : wiring.Buildable key)
    (depends : wiring.DependsOn key other) :
    wiring.Buildable other := by
  obtain ⟨request, present, leads⟩ := depends
  obtain ⟨target, leadsToo, builds⟩ := buildable.answerable present
  rw [leads] at leadsToo
  cases leadsToo
  exact builds

/-- Whatever a key that can be built depends on can be built. -/
theorem Buildable.reaches
    {other : Key}
    (buildable : wiring.Buildable key)
    (reaches : ReflTransGen wiring.DependsOn key other) :
    wiring.Buildable other := by
  induction reaches with
  | refl => exact buildable
  | tail _ depends inductionHypothesis => exact inductionHypothesis.dependsOn depends

/-- A key that can be built does not depend on itself. -/
theorem Buildable.acyclic
    (buildable : wiring.Buildable key) :
    ¬TransGen wiring.DependsOn key key := by
  induction buildable with
  | intro key quiet met inner inductionHypothesis =>
      intro cycle
      -- The next key on the way round is on a way round of its own.
      obtain ⟨next, depends, back⟩ := TransGen.head'_iff.1 cycle
      obtain ⟨request, present, leads⟩ := depends
      exact inductionHypothesis request present next leads
        (TransGen.tail' back ⟨request, present, leads⟩)

/-- The requests that can be answered are those that nothing stands in the way of. -/
theorem answerable_iff_resolvable : wiring.Answerable request ↔ wiring.Resolvable request := by
  constructor
  · rintro ⟨root, leads, buildable⟩
    have reachable (key : Key) (reached : wiring.Reachable request key) :
        wiring.Buildable key := by
      obtain ⟨other, leadsToo, reaches⟩ := reached
      rw [leads] at leadsToo
      cases leadsToo
      exact buildable.reaches reaches
    refine ⟨met_iff.2 ⟨root, leads⟩, ?_, ?_, ?_⟩
    · intro key reached inner present
      obtain ⟨other, leadsOn, _⟩ := (reachable key reached).answerable present
      exact met_iff.2 ⟨other, leadsOn⟩
    · exact fun key reached => (reachable key reached).acyclic
    · exact fun key reached => (reachable key reached).quiet
  · intro resolvable
    obtain ⟨root, leads⟩ := met_iff.1 resolvable.met
    let Node := { key : Key // key ∈ wiring.keys ∧ wiring.Reachable request key }
    let Below (lower upper : Node) : Prop := TransGen wiring.DependsOn upper.1 lower.1
    have finite : Finite Node :=
      Set.Finite.subset (List.finite_toSet wiring.keys) fun _ present => present.1
    have transitive : IsTrans Node Below := ⟨fun _ _ _ first second => second.trans first⟩
    have irreflexive : Std.Irrefl Below := ⟨fun node => resolvable.acyclic node.1 node.2.2⟩
    have founded : WellFounded Below := Finite.wellFounded_of_trans_of_irrefl Below
    have buildable (node : Node) : wiring.Buildable node.1 := by
      induction node using founded.induction with
      | h node inductionHypothesis =>
          obtain ⟨key, registered, reached⟩ := node
          refine .intro key (resolvable.quiet key reached) ?_ ?_
          · exact fun inner present => met_iff.1 (resolvable.met_inner key reached inner present)
          · intro inner present other leadsOn
            have depends : wiring.DependsOn key other := ⟨inner, present, leadsOn⟩
            have reachedOn : wiring.Reachable request other := by
              obtain ⟨origin, leadsTo, reaches⟩ := reached
              exact ⟨origin, leadsTo, reaches.tail depends⟩
            exact inductionHypothesis ⟨other, mem_keys_of_target leadsOn, reachedOn⟩
              (TransGen.single depends)
    exact ⟨root, leads, buildable ⟨root, mem_keys_of_target leads, root, leads, .refl⟩⟩

/-! ## What fails -/

/-- The error of a request that is made while the constructors of a path are at work: the first
that a depth-first walk comes upon. -/
inductive Fails (wiring : Wiring) : List Key -> Request -> WiringError -> Prop
  /-- The request leads nowhere. -/
  | refused {path : List Key} {request : Request} {error : WiringError}
      (leads : wiring.target request = .error error) :
      wiring.Fails path request error
  /-- The request leads back to a constructor at work. -/
  | cycle {path : List Key} {request : Request} {key : Key}
      (leads : wiring.target request = .ok key) (back : key ∈ path) :
      wiring.Fails path request (.cycle key.typeName)
  /-- A request of the factory fails, and those in front of it can be answered. -/
  | inner {path : List Key} {request failing : Request} {key : Key} {before behind : List Request}
      {error : WiringError}
      (leads : wiring.target request = .ok key) (ahead : key ∉ path)
      (split : (wiring.plan key).requests = before ++ failing :: behind)
      (answered : ∀ earlier ∈ before, wiring.Answerable earlier)
      (fails : wiring.Fails (key :: path) failing error) :
      wiring.Fails path request error
  /-- All requests of the factory can be answered, and it ends with an error of its own. -/
  | own {path : List Key} {request : Request} {key : Key} {source : ComponentError}
      (leads : wiring.target request = .ok key) (ahead : key ∉ path)
      (answered : ∀ inner ∈ (wiring.plan key).requests, wiring.Answerable inner)
      (ends : (wiring.plan key).error? = some source) :
      wiring.Fails path request (.construct key.typeName key.name source)

/-- A request that leads nowhere fails for that reason. -/
theorem Fails.of_target_error
    {error reason : WiringError}
    (fails : wiring.Fails path request error)
    (leads : wiring.target request = .error reason) :
    error = reason := by
  cases fails with
  | refused leadsToo =>
      rw [leads] at leadsToo
      cases leadsToo
      rfl
  | cycle leadsToo | inner leadsToo | own leadsToo =>
      rw [leads] at leadsToo
      cases leadsToo

/-- A request that leads to a key fails because the key is at work, because of a request of its
factory, or because of its factory. -/
theorem Fails.of_target
    {error : WiringError}
    (fails : wiring.Fails path request error)
    (leads : wiring.target request = .ok key) :
    key ∈ path ∧ error = .cycle key.typeName ∨
      key ∉ path ∧
        ((∃ before failing behind, (wiring.plan key).requests = before ++ failing :: behind ∧
            (∀ earlier ∈ before, wiring.Answerable earlier) ∧
              wiring.Fails (key :: path) failing error) ∨
          (∀ inner ∈ (wiring.plan key).requests, wiring.Answerable inner) ∧
            ∃ source, (wiring.plan key).error? = some source ∧
              error = .construct key.typeName key.name source) := by
  cases fails with
  | refused leadsToo =>
      rw [leads] at leadsToo
      cases leadsToo
  | cycle leadsToo back =>
      rw [leads] at leadsToo
      cases leadsToo
      exact .inl ⟨back, rfl⟩
  | inner leadsToo ahead split answered fails =>
      rw [leads] at leadsToo
      cases leadsToo
      exact .inr ⟨ahead, .inl ⟨_, _, _, split, answered, fails⟩⟩
  | own leadsToo ahead answered ends =>
      rw [leads] at leadsToo
      cases leadsToo
      exact .inr ⟨ahead, .inr ⟨answered, _, ends, rfl⟩⟩

/-- Every key of a path depends, at once or through others, on what a request leads to. -/
def LeadsFrom (wiring : Wiring) (path : List Key) (request : Request) : Prop :=
  ∀ above ∈ path, ∀ key, wiring.target request = .ok key -> TransGen wiring.DependsOn above key

/-- The requests of a factory at the end of a path lead on from the path. -/
theorem LeadsFrom.cons
    {inner : Request}
    (onPath : wiring.LeadsFrom path request)
    (leads : wiring.target request = .ok key)
    (present : inner ∈ (wiring.plan key).requests) :
    wiring.LeadsFrom (key :: path) inner := by
  intro above member other leadsOn
  have depends : wiring.DependsOn key other := ⟨inner, present, leadsOn⟩
  rcases List.mem_cons.1 member with rfl | further
  · exact TransGen.single depends
  · exact (onPath above further key leads).tail depends

/-- A request that fails cannot be answered. -/
theorem Fails.not_answerable
    {error : WiringError}
    (fails : wiring.Fails path request error)
    (onPath : wiring.LeadsFrom path request) :
    ¬wiring.Answerable request := by
  rintro ⟨other, leadsTo, buildable⟩
  induction fails generalizing other with
  | refused leads =>
      rw [leads] at leadsTo
      cases leadsTo
  | cycle leads back =>
      rw [leads] at leadsTo
      cases leadsTo
      exact buildable.acyclic (onPath _ back _ leads)
  | inner leads ahead split answered fails inductionHypothesis =>
      rw [leads] at leadsTo
      cases leadsTo
      have present := split ▸ List.mem_append_right _ List.mem_cons_self
      obtain ⟨next, leadsOn, builds⟩ := buildable.answerable present
      exact inductionHypothesis (onPath.cons leads present) next leadsOn builds
  | own leads ahead answered ends =>
      rw [leads] at leadsTo
      cases leadsTo
      rw [buildable.quiet] at ends
      cases ends

/-- The first element that a property does not hold of is the same however a list is cut at
it. -/
theorem eq_of_append_cons_eq
    {Good : Request -> Prop}
    {before otherBefore behind otherBehind : List Request}
    {bad otherBad : Request}
    (same : before ++ bad :: behind = otherBefore ++ otherBad :: otherBehind)
    (good : ∀ earlier ∈ before, Good earlier)
    (otherGood : ∀ earlier ∈ otherBefore, Good earlier)
    (notGood : ¬Good bad)
    (otherNotGood : ¬Good otherBad) :
    bad = otherBad := by
  induction before generalizing otherBefore with
  | nil =>
      cases otherBefore with
      | nil => exact (List.cons.inj same).1
      | cons first rest =>
          obtain ⟨rfl, _⟩ := List.cons.inj same
          exact absurd (otherGood bad List.mem_cons_self) notGood
  | cons first rest inductionHypothesis =>
      cases otherBefore with
      | nil =>
          obtain ⟨rfl, _⟩ := List.cons.inj same
          exact absurd (good first List.mem_cons_self) otherNotGood
      | cons otherFirst otherRest =>
          obtain ⟨_, tails⟩ := List.cons.inj same
          exact inductionHypothesis tails (List.forall_mem_cons.1 good).2
            (List.forall_mem_cons.1 otherGood).2

/-- A request fails with one error only. -/
theorem Fails.unique
    {error other : WiringError}
    (fails : wiring.Fails path request error)
    (failsToo : wiring.Fails path request other)
    (onPath : wiring.LeadsFrom path request) :
    error = other := by
  induction fails generalizing other with
  | refused leads => exact (failsToo.of_target_error leads).symm
  | cycle leads back =>
      rcases failsToo.of_target leads with ⟨_, rfl⟩ | ⟨ahead, _⟩
      · rfl
      · exact absurd back ahead
  | inner leads ahead split answered fails inductionHypothesis =>
      have present := split ▸ List.mem_append_right _ List.mem_cons_self
      have fallen := fails.not_answerable (onPath.cons leads present)
      rcases failsToo.of_target leads with
        ⟨back, _⟩ | ⟨_, ⟨_, _, _, splitToo, answeredToo, failsToo⟩ | ⟨all, _⟩⟩
      · exact absurd back ahead
      · have presentToo := splitToo ▸ List.mem_append_right _ List.mem_cons_self
        have fallenToo := failsToo.not_answerable (onPath.cons leads presentToo)
        -- Both walks stop at the first request that cannot be answered.
        obtain rfl :=
          eq_of_append_cons_eq (split.symm.trans splitToo) answered answeredToo fallen fallenToo
        exact inductionHypothesis failsToo (onPath.cons leads present)
      · exact absurd (all _ present) fallen
  | own leads ahead answered ends =>
      rcases failsToo.of_target leads with
        ⟨back, _⟩ | ⟨_, ⟨_, _, _, split, _, failsToo⟩ | ⟨_, _, endsToo, rfl⟩⟩
      · exact absurd back ahead
      · have present := split ▸ List.mem_append_right _ List.mem_cons_self
        exact absurd (answered _ present)
          (failsToo.not_answerable (onPath.cons leads present))
      · rw [ends] at endsToo
        cases endsToo
        rfl

end Wiring
end ConfigWiring
