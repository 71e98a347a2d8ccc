import ConfigWiring.Environment.Custody
import Mathlib.Logic.Relation

/-!
# What guards give back

Variables are guarded and written to in any order.  A guard keeps the value that its variable had
just before it was made, and a scope drops its guards from the youngest to the oldest.  So whatever
is dropped gives each variable that it guards the value from before the oldest of its guards of that
variable, provided that every scope is given its guards in the order in which they were made.  In
which order guards and scopes are dropped, and what was written in between, does not matter.
-/

namespace ConfigWiring

/-! ## Dropping one scope -/

namespace GuardScope

@[simp] theorem restore_nil (environment : Environment) :
    (⟨[]⟩ : GuardScope).restore environment = environment := rfl

@[simp] theorem restore_cons (guard : Guard) (guards : List Guard) (environment : Environment) :
    (⟨guard :: guards⟩ : GuardScope).restore environment =
      guard.restore ((⟨guards⟩ : GuardScope).restore environment) := rfl

theorem get?_restore_of_forall_ne
    {guards : List Guard}
    {key : String}
    (others : ∀ guard ∈ guards, guard.key ≠ key)
    (environment : Environment) :
    ((⟨guards⟩ : GuardScope).restore environment).get? key = environment.get? key := by
  induction guards with
  | nil => rfl
  | cons guard guards inductionHypothesis =>
      rw [List.forall_mem_cons] at others
      rw [restore_cons, Guard.get?_restore, if_neg (Ne.symm others.1), inductionHypothesis others.2]

/-- The oldest guard of a variable decides what the variable is behind a scope. -/
theorem get?_restore_of_oldest
    {guard : Guard}
    {front back : List Guard}
    (oldest : ∀ other ∈ front, other.key ≠ guard.key)
    (environment : Environment) :
    ((⟨front ++ guard :: back⟩ : GuardScope).restore environment).get? guard.key =
      guard.original? := by
  induction front with
  | nil => rw [List.nil_append, restore_cons, Guard.get?_restore, if_pos rfl]
  | cons other others inductionHypothesis =>
      rw [List.forall_mem_cons] at oldest
      rw [List.cons_append, restore_cons, Guard.get?_restore, if_neg (Ne.symm oldest.1),
        inductionHypothesis oldest.2]

end GuardScope

/-! ## Histories -/

/-- A guard with what a bystander notes when it is made. -/
structure Watch where
  /-- The guard. -/
  guard : Guard
  /-- How many guards were made before it. -/
  number : Nat
  /-- The variables just before it was made. -/
  before : Environment

namespace Watch

/-- One guard was made before another one. -/
def Older (one other : Watch) : Prop := one.number < other.number

instance (one other : Watch) : Decidable (one.Older other) :=
  inferInstanceAs (Decidable (one.number < other.number))

/-- The guard keeps what its variable was just before the guard was made. -/
def IsTrue (watch : Watch) : Prop := watch.guard = Guard.of watch.before watch.guard.key

/-- Guards that are made one after the other, as their variables are taken away. -/
def ofGuards (environment : Environment) (made : Nat) : List Guard -> List Watch
  | [] => []
  | guard :: guards =>
      ⟨guard, made, environment⟩ :: ofGuards (environment.erase guard.key) (made + 1) guards

end Watch

/-- What can be dropped: a guard that nobody holds, or the guards of a scope. -/
inductive Keeper where
  | guard (watch : Watch)
  | scope (watches : List Watch)

namespace Keeper

/-- The guards that go when it is dropped. -/
def watches : Keeper -> List Watch
  | guard watch => [watch]
  | scope watches => watches

/-- What is dropped, without the notes of the bystander. -/
def holder : Keeper -> Holder
  | guard watch => .guard watch.guard
  | scope watches => .scope ⟨watches.map Watch.guard⟩

end Keeper

/-- Variables with the guards and scopes that are alive. -/
structure Guarding where
  /-- The variables. -/
  environment : Environment
  /-- How many guards have been made. -/
  made : Nat
  /-- The guards and scopes that are alive, in any order. -/
  alive : List Keeper

namespace Guarding

/-- Variables that nothing guards yet. -/
def start (environment : Environment) : Guarding := ⟨environment, 0, []⟩

/-- A guard or a scope that is alive is dropped. -/
def Drops (before : Guarding) (keeper : Keeper) (behind : Guarding) : Prop :=
  before.alive.Perm (keeper :: behind.alive) ∧ behind.made = before.made ∧
    behind.environment = keeper.holder.restore before.environment

/-- The state behind the making of a guard that nobody holds. -/
def guarded (before : Guarding) (made : Guard × Environment) : Guarding where
  environment := made.2
  made := before.made + 1
  alive := .guard ⟨made.1, before.made, before.environment⟩ :: before.alive

/-- The state behind the making of a scope that takes variables away. -/
def cleared (before : Guarding) (keys : List String) : Guarding where
  environment := (GuardScope.cleared before.environment keys).2
  made := before.made + keys.length
  alive := .scope (Watch.ofGuards before.environment before.made
    (GuardScope.cleared before.environment keys).1.guards) :: before.alive

/-- One step of a history. -/
inductive Step (before : Guarding) : Guarding -> Prop where
  /-- A variable is written past all guards. -/
  | write (key value : String) :
      Step before { before with environment := before.environment.put key value }
  /-- A variable is taken away past all guards. -/
  | erase (key : String) :
      Step before { before with environment := before.environment.erase key }
  /-- A variable is set for a while. -/
  | set (key value : String) :
      Step before (before.guarded (Guard.set before.environment key value))
  /-- A variable is taken away for a while. -/
  | unset (key : String) :
      Step before (before.guarded (Guard.unset before.environment key))
  /-- Variables are taken away for the life of a scope. -/
  | clear (keys : List String) : Step before (before.cleared keys)
  /-- A scope is made of guards, in the order in which they were made. -/
  | gather
      (watches : List Watch)
      (rest : List Keeper)
      (held : before.alive.Perm (watches.map .guard ++ rest))
      (ordered : watches.Pairwise Watch.Older) :
      Step before { before with alive := .scope watches :: rest }
  /-- A scope is given a guard that was made behind those that it holds. -/
  | push
      (watches : List Watch)
      (watch : Watch)
      (rest : List Keeper)
      (held : before.alive.Perm (.scope watches :: .guard watch :: rest))
      (ordered : ∀ other ∈ watches, other.Older watch) :
      Step before { before with alive := .scope (watches ++ [watch]) :: rest }
  /-- A guard or a scope is dropped. -/
  | drop
      (keeper : Keeper)
      (behind : Guarding)
      (drops : before.Drops keeper behind) :
      Step before behind

end Guarding

/-! ## What histories preserve -/

namespace Watch

/-- The guards of a cleared scope keep what their variables were. -/
theorem isTrue_of_mem_cleared
    {environment : Environment}
    {made : Nat}
    {keys : List String}
    {watch : Watch}
    (present : watch ∈ ofGuards environment made (GuardScope.cleared environment keys).1.guards) :
    watch.IsTrue := by
  induction keys generalizing environment made with
  | nil => cases present
  | cons key keys inductionHypothesis =>
      rcases List.mem_cons.1 present with rfl | further
      · rfl
      · exact inductionHypothesis further

theorem le_number_of_mem_ofGuards
    {environment : Environment}
    {made : Nat}
    {guards : List Guard}
    {watch : Watch}
    (present : watch ∈ ofGuards environment made guards) :
    made ≤ watch.number := by
  induction guards generalizing environment made with
  | nil => cases present
  | cons guard guards inductionHypothesis =>
      rcases List.mem_cons.1 present with rfl | further
      · exact Nat.le_refl made
      · exact Nat.le_of_succ_le (inductionHypothesis further)

theorem pairwise_ofGuards (environment : Environment) (made : Nat) (guards : List Guard) :
    (ofGuards environment made guards).Pairwise Older := by
  induction guards generalizing environment made with
  | nil => exact .nil
  | cons guard guards inductionHypothesis =>
      exact .cons (fun _ present => le_number_of_mem_ofGuards present) (inductionHypothesis _ _)

end Watch

namespace Keeper

/-- What is alive holds true guards, the oldest first. -/
structure IsSound (keeper : Keeper) : Prop where
  /-- Every guard keeps what its variable was just before the guard was made. -/
  isTrue : ∀ watch ∈ keeper.watches, watch.IsTrue
  /-- The guards of a scope are held in the order in which they were made. -/
  ordered : keeper.watches.Pairwise Watch.Older

variable {watch : Watch} {keeper : Keeper}

theorem isSound_guard (isTrue : watch.IsTrue) : (guard watch).IsSound where
  isTrue := by simpa [watches] using isTrue
  ordered := List.pairwise_singleton _ _

theorem restore_holder (keeper : Keeper) (environment : Environment) :
    keeper.holder.restore environment =
      (⟨keeper.watches.map Watch.guard⟩ : GuardScope).restore environment := by
  cases keeper <;> rfl

/-- Other variables than those that are guarded stay as they are. -/
theorem get?_restore_of_forall_ne
    {key : String}
    (others : ∀ watch ∈ keeper.watches, watch.guard.key ≠ key)
    (environment : Environment) :
    (keeper.holder.restore environment).get? key = environment.get? key := by
  rw [restore_holder]
  exact GuardScope.get?_restore_of_forall_ne (by simpa using others) environment

/-- A guarded variable gets the value from before the oldest of its guards that go. -/
theorem IsSound.get?_restore
    (sound : keeper.IsSound)
    (present : watch ∈ keeper.watches)
    (oldest : ∀ other ∈ keeper.watches, other.guard.key = watch.guard.key ->
      watch.number ≤ other.number)
    (environment : Environment) :
    (keeper.holder.restore environment).get? watch.guard.key =
      watch.before.get? watch.guard.key := by
  obtain ⟨front, back, cut⟩ := List.append_of_mem present
  have ordered := sound.ordered
  rw [cut, List.pairwise_append] at ordered
  -- A guard of the variable in front of this one would be an older one.
  have first : ∀ guard ∈ front.map Watch.guard, guard.key ≠ watch.guard.key := by
    intro guard member same
    obtain ⟨other, inFront, rfl⟩ := List.mem_map.1 member
    have older : other.number < watch.number := ordered.2.2 other inFront watch List.mem_cons_self
    have within : other ∈ keeper.watches := by
      rw [cut]
      exact List.mem_append_left _ inFront
    exact absurd (oldest other within same) (Nat.not_le.2 older)
  calc (keeper.holder.restore environment).get? watch.guard.key
      = watch.guard.original? := by
        rw [restore_holder, cut, List.map_append, List.map_cons]
        exact GuardScope.get?_restore_of_oldest first environment
    _ = watch.before.get? watch.guard.key := congrArg Guard.original? (sound.isTrue watch present)

end Keeper

namespace Guarding

variable {before behind : Guarding}

/-- All that is alive is sound. -/
def IsSound (guarding : Guarding) : Prop := ∀ keeper ∈ guarding.alive, keeper.IsSound

/-- One step keeps all that is alive sound. -/
theorem IsSound.step
    (sound : before.IsSound)
    (step : Step before behind) :
    behind.IsSound := by
  cases step with
  | write | erase => exact sound
  | set | unset => exact List.forall_mem_cons.2 ⟨Keeper.isSound_guard rfl, sound⟩
  | clear keys =>
      refine List.forall_mem_cons.2 ⟨?_, sound⟩
      exact ⟨fun _ present => Watch.isTrue_of_mem_cleared present, Watch.pairwise_ofGuards _ _ _⟩
  | gather watches rest held ordered =>
      have parts : ∀ keeper ∈ watches.map Keeper.guard ++ rest, keeper.IsSound :=
        fun keeper present => sound keeper (held.mem_iff.2 present)
      rw [List.forall_mem_append] at parts
      refine List.forall_mem_cons.2 ⟨⟨fun watch present => ?_, ordered⟩, parts.2⟩
      exact (parts.1 _ (List.mem_map_of_mem present)).isTrue watch List.mem_cons_self
  | push watches watch rest held ordered =>
      have parts : ∀ keeper ∈ Keeper.scope watches :: .guard watch :: rest, keeper.IsSound :=
        fun keeper present => sound keeper (held.mem_iff.2 present)
      simp only [List.forall_mem_cons] at parts
      obtain ⟨scope, guard, others⟩ := parts
      refine List.forall_mem_cons.2 ⟨⟨?_, ?_⟩, others⟩
      · exact List.forall_mem_append.2 ⟨scope.isTrue, guard.isTrue⟩
      · refine List.pairwise_append.2 ⟨scope.ordered, guard.ordered, fun other present last same => ?_⟩
        rw [List.mem_singleton.1 same]
        exact ordered other present
  | drop keeper _ drops =>
      exact fun other present => sound other (drops.1.mem_iff.2 (List.mem_cons_of_mem _ present))

/-- Behind every history all that is alive is sound. -/
theorem isSound_of_history
    {environment : Environment}
    (history : Relation.ReflTransGen Step (start environment) behind) :
    behind.IsSound := by
  induction history with
  | refl => exact fun keeper present => nomatch present
  | tail _ step inductionHypothesis => exact inductionHypothesis.step step

/-- Behind every history, a guard or a scope that is dropped gives each variable of its guards the
value from just before the oldest of these was made, so that of the outermost guard if that one
goes, and leaves all other variables alone. -/
theorem restored_of_history
    {environment : Environment}
    {keeper : Keeper}
    (history : Relation.ReflTransGen Step (start environment) before)
    (drops : before.Drops keeper behind) :
    (∀ watch ∈ keeper.watches,
      (∀ other ∈ keeper.watches, other.guard.key = watch.guard.key ->
        watch.number ≤ other.number) ->
      behind.environment.get? watch.guard.key = watch.before.get? watch.guard.key) ∧
    ∀ key, (∀ watch ∈ keeper.watches, watch.guard.key ≠ key) ->
      behind.environment.get? key = before.environment.get? key := by
  obtain ⟨held, _, restored⟩ := drops
  have sound := isSound_of_history history keeper (held.mem_iff.2 List.mem_cons_self)
  rw [restored]
  exact ⟨fun watch present oldest => sound.get?_restore present oldest before.environment,
    fun key others => keeper.get?_restore_of_forall_ne others before.environment⟩

/-- A scope that took a variable away twice and was given a guard of it later gives the variable
its first value back, whatever was written in between. -/
theorem restored_of_cleared_scope :
    ∃ before keeper behind,
      Relation.ReflTransGen Step (start ⟨[("A", "1")]⟩) before ∧ before.Drops keeper behind ∧
        before.environment.get? "A" = some "3" ∧ behind.environment.get? "A" = some "1" ∧
          behind.environment.get? "B" = none ∧ behind.environment.get? "C" = some "4" := by
  let first := (start ⟨[("A", "1")]⟩).cleared ["A", "B", "A"]
  let second := first.guarded (Guard.set first.environment "A" "2")
  let watches := Watch.ofGuards ⟨[("A", "1")]⟩ 0
    (GuardScope.cleared ⟨[("A", "1")]⟩ ["A", "B", "A"]).1.guards
  let last : Watch := ⟨Guard.of first.environment "A", 3, first.environment⟩
  let third : Guarding := { second with alive := [.scope (watches ++ [last])] }
  let fourth : Guarding := { third with environment := third.environment.put "A" "3" }
  let before : Guarding := { fourth with environment := fourth.environment.put "C" "4" }
  let behind : Guarding :=
    ⟨(Keeper.scope (watches ++ [last])).holder.restore before.environment, before.made, []⟩
  have pushed : Step second third :=
    .push watches last [] (List.Perm.swap _ _ _) (by decide)
  have history : Relation.ReflTransGen Step (start ⟨[("A", "1")]⟩) before :=
    ((((Relation.ReflTransGen.single (.clear ["A", "B", "A"])).tail (.set "A" "2")).tail pushed).tail
      (.write "A" "3")).tail (.write "C" "4")
  have drops : before.Drops (.scope (watches ++ [last])) behind := ⟨.refl _, rfl, rfl⟩
  obtain ⟨guarded, others⟩ := restored_of_history history drops
  refine ⟨before, _, behind, history, drops, by decide, ?_, ?_, ?_⟩
  · exact guarded ⟨⟨"A", some "1"⟩, 0, ⟨[("A", "1")]⟩⟩ List.mem_cons_self (by decide)
  · exact guarded ⟨⟨"B", none⟩, 1, ⟨[]⟩⟩ (List.mem_cons_of_mem _ List.mem_cons_self) (by decide)
  · rw [others "C" (by decide)]
    decide

end Guarding
end ConfigWiring
