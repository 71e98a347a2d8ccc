import ConfigWiring.Container.Running

/-!
# Requests

A request asks for the value of a type or of a key.  What the scope says to it is a verdict:
the value is known, the request is refused, or a constructor has to be put to work.  Only in
the last case does an answer depend on what a factory does.
-/

namespace ConfigWiring

variable {value : Type}

/-- What a value is asked for by. -/
inductive Request where
  /-- By its type, which has one constructor. -/
  | ofType (typeName : String)
  /-- By its key. -/
  | ofKey (key : Key)
  deriving DecidableEq, Repr

namespace Request

/-- The key that a request is for. -/
def key (request : Request) (scope : Scope value) : Except WiringError Key :=
  match request with
  | ofType typeName => scope.onlyKey typeName
  | ofKey key => .ok key

/-- The work that makes a request and goes on with the answer. -/
def work (request : Request) (next : Except WiringError (Instance value) -> Work value) :
    Work value :=
  match request with
  | ofType typeName => .resolve typeName next
  | ofKey key => .resolveNamed key next

end Request

/-- What a scope says to a request. -/
inductive Verdict (value : Type) where
  /-- The value is kept already. -/
  | known (made : Instance value)
  /-- There is no value to be had. -/
  | refused (error : WiringError)
  /-- A constructor has to be put to work. -/
  | build (constructor : Constructor value)

namespace Scope

variable {scope : Scope value} {key : Key} {constructor : Constructor value}

/-- What a scope says to a request for a key. -/
def verdictOn (scope : Scope value) (key : Key) : Verdict value :=
  match scope.constructed? key, scope.find? key with
  | some made, _ => .known made
  | none, none => .refused (.missingNamed key.typeName key.name)
  | none, some constructor =>
      if key ∈ scope.inProgress then .refused (.cycle key.typeName) else .build constructor

/-- What a scope says to a request. -/
def verdict (scope : Scope value) (request : Request) : Verdict value :=
  match request.key scope with
  | .ok key => scope.verdictOn key
  | .error error => .refused error

theorem find?_eq_some
    (found : scope.find? key = some constructor) :
    constructor ∈ scope.constructors ∧ constructor.key = key := by
  have same := List.find?_some found
  exact ⟨List.mem_of_find?_eq_some found, by simpa using same⟩

/-- A key has a constructor exactly if it is the key of one. -/
theorem isSome_find?_iff :
    (scope.find? key).isSome = true ↔ key ∈ scope.constructors.map Constructor.key := by
  rw [find?, List.find?_isSome, List.mem_map]
  simp

/-- A constructor is put to work only if it is that of the key, the key has no instance, and
the key is not at work. -/
theorem verdictOn_eq_build
    (build : scope.verdictOn key = .build constructor) :
    scope.find? key = some constructor ∧ constructor.key = key ∧
      scope.constructed? key = none ∧ key ∉ scope.inProgress := by
  unfold verdictOn at build
  split at build
  · cases build
  · cases build
  · next unmade found =>
      split at build
      · cases build
      · next idle =>
          cases build
          exact ⟨found, (find?_eq_some found).2, unmade, idle⟩

theorem verdict_eq_build
    {request : Request}
    (build : scope.verdict request = .build constructor) :
    request.key scope = .ok constructor.key ∧ scope.find? constructor.key = some constructor ∧
      scope.constructed? constructor.key = none ∧ constructor.key ∉ scope.inProgress := by
  unfold verdict at build
  split at build
  · next key asked =>
      obtain ⟨found, rfl, unmade, idle⟩ := verdictOn_eq_build build
      exact ⟨asked, found, unmade, idle⟩
  · cases build

/-- A request for a key is refused only if the key has no instance, and no constructor or one
that is at work. -/
theorem verdictOn_eq_refused
    {error : WiringError}
    (refused : scope.verdictOn key = .refused error) :
    scope.constructed? key = none ∧
      (scope.find? key = none ∧ error = .missingNamed key.typeName key.name ∨
        key ∈ scope.inProgress ∧ error = .cycle key.typeName) := by
  unfold verdictOn at refused
  split at refused
  · cases refused
  · next unmade unfound =>
      cases refused
      exact ⟨unmade, .inl ⟨unfound, rfl⟩⟩
  · next unmade _ =>
      split at refused
      · next atWork =>
          cases refused
          exact ⟨unmade, .inr ⟨atWork, rfl⟩⟩
      · cases refused

theorem verdictOn_eq_known
    {made : Instance value}
    (known : scope.verdictOn key = .known made) :
    scope.constructed? key = some made := by
  unfold verdictOn at known
  split at known
  · next found =>
      cases known
      exact found
  · cases known
  · split at known <;> cases known

/-- No refusal is about the type of a kept value. -/
theorem verdict_ne_typeMismatch
    {request : Request}
    (typeName name : String) :
    scope.verdict request ≠ .refused (.typeMismatch typeName name) := by
  intro refused
  unfold verdict at refused
  split at refused
  · rcases (verdictOn_eq_refused refused).2 with ⟨_, error⟩ | ⟨_, error⟩ <;> cases error
  · next error asked =>
      cases refused
      cases request with
      | ofType wanted =>
          simp only [Request.key, onlyKey] at asked
          split at asked <;> cases asked
      | ofKey key => cases asked

end Scope

namespace Session

/-- Answer a request. -/
def answer (runner : Runner value) (request : Request) (session : Session value) :
    Outcome WiringError (Instance value) × Session value :=
  match request with
  | .ofType typeName => session.resolve runner typeName
  | .ofKey key => session.resolveNamed runner key

/-- A request for a key is answered by the verdict on the key. -/
theorem resolveNamed_eq
    (runner : Runner value)
    (key : Key)
    (session : Session value) :
    session.resolveNamed runner key =
      match session.scope.verdictOn key with
      | .known made => (.done made, session)
      | .refused error => (.failed error, session)
      | .build constructor => session.construct runner key constructor := by
  unfold resolveNamed Scope.verdictOn
  cases session.scope.constructed? key with
  | some made => rfl
  | none =>
      cases session.scope.find? key with
      | none => rfl
      | some constructor =>
          simp only
          split <;> rfl

/-- A request is answered by the verdict on it. -/
theorem answer_eq
    (runner : Runner value)
    (request : Request)
    (session : Session value) :
    session.answer runner request =
      match session.scope.verdict request with
      | .known made => (.done made, session)
      | .refused error => (.failed error, session)
      | .build constructor => session.construct runner constructor.key constructor := by
  have named (key : Key) : session.resolveNamed runner key =
      match session.scope.verdictOn key with
      | .known made => (.done made, session)
      | .refused error => (.failed error, session)
      | .build constructor => session.construct runner constructor.key constructor := by
    rw [resolveNamed_eq]
    cases verdict : session.scope.verdictOn key with
    | known | refused => rfl
    | build constructor =>
        obtain ⟨_, rfl, _, _⟩ := Scope.verdictOn_eq_build verdict
        rfl
  cases request with
  | ofKey key => exact named key
  | ofType typeName =>
      show session.resolve runner typeName = _
      cases asked : session.scope.onlyKey typeName with
      | error error =>
          have verdict : session.scope.verdict (.ofType typeName) = .refused error := by
            simp only [Scope.verdict, Request.key, asked]
          rw [verdict, resolve, asked]
      | ok key =>
          have verdict : session.scope.verdict (.ofType typeName) =
              session.scope.verdictOn key := by
            simp only [Scope.verdict, Request.key, asked]
          rw [verdict, resolve, asked]
          exact named key

end Session

namespace Work

/-- Work that makes a request goes on with the answer. -/
theorem runWith_work
    (runner : Runner value)
    (request : Request)
    (next : Except WiringError (Instance value) -> Work value)
    (session : Session value) :
    runWith runner (request.work next) session =
      resume (fun answer => runWith runner (next answer)) (session.answer runner request) := by
  cases request with
  | ofType typeName =>
      show runWith runner (.resolve typeName next) session = _
      rw [runWith]
      rfl
  | ofKey key =>
      show runWith runner (.resolveNamed key next) session = _
      rw [runWith]
      rfl

end Work
end ConfigWiring
