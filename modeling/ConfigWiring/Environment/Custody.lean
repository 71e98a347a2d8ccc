import ConfigWiring.Environment.Basic
import ConfigWiring.Text.Quoted

/-!
# Guards of variables and their custody

A guard is made when a variable is set or taken away for a while, and keeps what the
variable was before.  To drop the guard is to give the variable that value back, or to take
it away if it had none.  A guard scope holds guards and drops them together, the youngest
first.

Guards and guard scopes are kept under names beside the variables that they guard.  A scope
takes over the guards that it gets; a name that is given anew drops what it stood for, after
the new guard or scope is made.
-/

namespace ConfigWiring

/-! ## Guards -/

/-- What a variable was before it was changed for a while. -/
structure Guard where
  /-- The name of the variable. -/
  key : String
  /-- The value, if there was one. -/
  original? : Option String
  deriving DecidableEq, Repr

namespace Guard

/-- The guard of a variable as it is now. -/
def of (environment : Environment) (key : String) : Guard := ⟨key, environment.get? key⟩

/-- Set a variable for a while. -/
def set (environment : Environment) (key value : String) : Guard × Environment :=
  (of environment key, environment.put key value)

/-- Take a variable away for a while. -/
def unset (environment : Environment) (key : String) : Guard × Environment :=
  (of environment key, environment.erase key)

/-- Drop a guard. -/
def restore (guard : Guard) (environment : Environment) : Environment :=
  match guard.original? with
  | some value => environment.put guard.key value
  | none => environment.erase guard.key

/-- How a guard is shown. -/
def text (guard : Guard) : String :=
  "EnvVarGuard \x7b key: " ++ Text.quoted guard.key ++ ", had_original: " ++
    (if guard.original?.isSome then "true" else "false") ++ ", .. \x7d"

@[simp] theorem get?_restore (guard : Guard) (environment : Environment) (name : String) :
    (guard.restore environment).get? name =
      if name = guard.key then guard.original? else environment.get? name := by
  unfold restore
  split
  · next value present => simp [present]
  · next absent => simp [absent]

end Guard

/-- Guards that are dropped together. -/
structure GuardScope where
  /-- The guards, the oldest first. -/
  guards : List Guard
  deriving DecidableEq, Repr

namespace GuardScope

/-- A scope that takes variables away for a while. -/
def cleared (environment : Environment) : List String -> GuardScope × Environment
  | [] => (⟨[]⟩, environment)
  | key :: keys =>
      let (guard, environment) := Guard.unset environment key
      let (scope, environment) := cleared environment keys
      (⟨guard :: scope.guards⟩, environment)

/-- The scope with one more guard. -/
def push (scope : GuardScope) (guard : Guard) : GuardScope := ⟨scope.guards ++ [guard]⟩

/-- Drop all guards of a scope, the youngest first. -/
def restore (scope : GuardScope) (environment : Environment) : Environment :=
  scope.guards.foldr Guard.restore environment

@[simp] theorem restore_push (scope : GuardScope) (guard : Guard) (environment : Environment) :
    (scope.push guard).restore environment = scope.restore (guard.restore environment) := by
  simp [push, restore]

end GuardScope

/-! ## Custody -/

/-- A guard, or guards that are dropped together. -/
inductive Holder where
  | guard (held : Guard)
  | scope (held : GuardScope)
  deriving DecidableEq, Repr

namespace Holder

/-- Drop a guard or a scope. -/
def restore : Holder -> Environment -> Environment
  | .guard held => held.restore
  | .scope held => held.restore

end Holder

/-- Variables with the guards and scopes that are alive. -/
structure Custody where
  /-- The variables. -/
  environment : Environment
  /-- The guards and scopes, by name. -/
  holders : List (String × Holder)
  deriving DecidableEq, Repr

namespace Custody

/-- The guard or scope of a name. -/
def find? (custody : Custody) (name : String) : Option Holder := custody.holders.lookup name

/-- Forget a name without dropping what it stands for. -/
def forget (custody : Custody) (name : String) : Custody :=
  { custody with holders := custody.holders.filter fun entry => entry.1 != name }

/-- Drop what a name stands for. -/
def drop (custody : Custody) (name : String) : Custody :=
  match custody.find? name with
  | some holder => { custody.forget name with environment := holder.restore custody.environment }
  | none => custody

/-- Keep a guard or a scope under a name. -/
def keep (custody : Custody) (name : String) (holder : Holder) : Custody :=
  let custody := custody.drop name
  { custody with holders := (name, holder) :: custody.holders }

/-- Set a variable for a while and keep its guard. -/
def set (custody : Custody) (name key value : String) : Guard × Custody :=
  let (guard, environment) := Guard.set custody.environment key value
  (guard, { custody with environment }.keep name (.guard guard))

/-- Take a variable away for a while and keep its guard. -/
def unset (custody : Custody) (name key : String) : Guard × Custody :=
  let (guard, environment) := Guard.unset custody.environment key
  (guard, { custody with environment }.keep name (.guard guard))

/-- Take variables away for a while and keep their scope. -/
def clear (custody : Custody) (name : String) (keys : List String) : Custody :=
  let (scope, environment) := GuardScope.cleared custody.environment keys
  { custody with environment }.keep name (.scope scope)

/-- The guards of names, which they leave; names of no guard are passed over. -/
def release (custody : Custody) : List String -> List Guard × Custody
  | [] => ([], custody)
  | name :: names =>
      match custody.find? name with
      | some (.guard guard) =>
          let (guards, custody) := (custody.forget name).release names
          (guard :: guards, custody)
      | _ => custody.release names

/-- Keep the guards of names as a scope, and tell how many there are. -/
def gather (custody : Custody) (name : String) (names : List String) : Nat × Custody :=
  let (guards, custody) := custody.release names
  (guards.length, custody.keep name (.scope ⟨guards⟩))

/-- Give a scope the guard of another name, and tell whether both are there. -/
def push (custody : Custody) (name guardName : String) : Bool × Custody :=
  match custody.find? name, custody.find? guardName with
  | some (.scope scope), some (.guard guard) =>
      let custody := (custody.forget guardName).forget name
      (true, { custody with holders := (name, .scope (scope.push guard)) :: custody.holders })
  | _, _ => (false, custody)

end Custody

end ConfigWiring
