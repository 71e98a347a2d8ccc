import ConfigWiring.Host.Basic
import ConfigWiring.Text.Quoted

/-!
# Constructors and scopes

A constructor makes the value of a type under a name.  A scope knows constructors in the
order in which they came, keeps the instances that they made, and knows which of them are
at work.  What a constructor does is work: it asks the scope for other values, gives it
further constructors, sees and changes the host, and ends with a value or an error, or breaks
down.  A step that can fail gives its outcome to the rest of the work, which may go on in
spite of an error.
-/

namespace ConfigWiring

/-- What a value in a scope is known by. -/
structure Key where
  /-- The name of its type. -/
  typeName : String
  /-- The name of its constructor. -/
  name : String
  deriving DecidableEq, Repr, Inhabited

/-- A value that a constructor made. -/
structure Instance (value : Type) where
  /-- How many instances the scope made before. -/
  serial : Nat
  /-- The name of the value's type. -/
  typeName : String
  /-- The value. -/
  value : value
  deriving DecidableEq, Repr

namespace Instance

/-- Whether the value is of the type that a key promises. -/
def fits {value : Type} (made : Instance value) (key : Key) : Bool :=
  made.typeName == key.typeName

end Instance

/-- How much a scope holds. -/
structure ScopeSize where
  /-- The number of constructors. -/
  constructors : Nat
  /-- The number of instances. -/
  instances : Nat
  deriving DecidableEq, Repr

namespace ScopeSize

/-- How a scope of a size is shown. -/
def text (size : ScopeSize) : String :=
  "Scope \x7b constructors: " ++ toString size.constructors ++ ", instances: " ++
    toString size.instances ++ ", .. \x7d"

end ScopeSize

/-- Work in a scope that ends with a value. -/
inductive Work (value : Type) where
  /-- End with a value. -/
  | done (result : value)
  /-- End with an error. -/
  | fail (error : ComponentError)
  /-- Break down. -/
  | breakDown (message : String)
  /-- Ask for the value of a type that has one constructor. -/
  | resolve (typeName : String) (next : Except WiringError (Instance value) -> Work value)
  /-- Ask for the value of a key. -/
  | resolveNamed (key : Key) (next : Except WiringError (Instance value) -> Work value)
  /-- Look for an instance without making one. -/
  | constructed (key : Key) (next : Option (Instance value) -> Work value)
  /-- Give the scope a further constructor. -/
  | provide (key : Key) (factory : Work value) (next : Except WiringError Unit -> Work value)
  /-- Ask how much the scope holds. -/
  | measure (next : ScopeSize -> Work value)
  /-- Look at the host. -/
  | look (next : Host -> Work value)
  /-- Put another host in place of the one so far. -/
  | change (host : Host) (next : Work value)

instance {value : Type} : Inhabited (Work value) := ⟨.breakDown ""⟩

/-- What makes a value. -/
structure Constructor (value : Type) where
  /-- What the value is known by. -/
  key : Key
  /-- The work that makes the value. -/
  factory : Work value
  deriving Inhabited

namespace Constructor

variable {value : Type}

/-- How a constructor is shown. -/
def text (constructor : Constructor value) : String :=
  "Constructor \x7b name: " ++ Text.quoted constructor.key.name ++ ", type_name: " ++
    Text.quoted constructor.key.typeName ++ ", .. \x7d"

end Constructor

/-- Constructors with the instances that they made. -/
structure Scope (value : Type) where
  /-- The constructors, the oldest first. -/
  constructors : List (Constructor value)
  /-- The instances, the youngest first. -/
  instances : List (Key × Instance value)
  /-- The keys whose constructors are at work, the innermost first. -/
  inProgress : List Key

namespace Scope

variable {value : Type}

/-- A scope without constructors. -/
def empty : Scope value := ⟨[], [], []⟩

instance : Inhabited (Scope value) := ⟨empty⟩

/-- The constructor of a key. -/
def find? (scope : Scope value) (key : Key) : Option (Constructor value) :=
  scope.constructors.find? fun constructor => constructor.key == key

/-- The instance of a key. -/
def instance? (scope : Scope value) (key : Key) : Option (Instance value) :=
  scope.instances.lookup key

/-- The instance of a key if it is of the type that the key promises. -/
def constructed? (scope : Scope value) (key : Key) : Option (Instance value) :=
  (scope.instance? key).filter fun made => made.fits key

/-- The keys of the constructors of a type. -/
def keysOf (scope : Scope value) (typeName : String) : List Key :=
  (scope.constructors.map Constructor.key).filter fun key => key.typeName == typeName

/-- How much a scope holds. -/
def size (scope : Scope value) : ScopeSize :=
  ⟨scope.constructors.length, scope.instances.length⟩

/-- The scope with a further constructor; no key has two. -/
def provide (scope : Scope value) (constructor : Constructor value) :
    Except WiringError (Scope value) :=
  if (scope.find? constructor.key).isSome then
    .error (.duplicate constructor.key.typeName constructor.key.name)
  else .ok { scope with constructors := scope.constructors ++ [constructor] }

/-- The only key of a type. -/
def onlyKey (scope : Scope value) (typeName : String) : Except WiringError Key :=
  match scope.keysOf typeName with
  | [] => .error (.missing typeName)
  | [key] => .ok key
  | keys => .error (.ambiguous typeName keys.length)

/-- The scope with the constructor of a key at work. -/
def enter (scope : Scope value) (key : Key) : Scope value :=
  { scope with inProgress := key :: scope.inProgress }

/-- The scope with the constructor of a key no longer at work. -/
def leave (scope : Scope value) (key : Key) : Scope value :=
  { scope with inProgress := scope.inProgress.filter fun pending => pending != key }

/-- The instance that comes of a value that a constructor makes now; its type is the one
that the constructor was given for. -/
def newInstance (scope : Scope value) (constructor : Constructor value) (made : value) :
    Instance value :=
  ⟨scope.instances.length, constructor.key.typeName, made⟩

/-- The scope with an instance kept under a key. -/
def keep (scope : Scope value) (key : Key) (made : Instance value) : Scope value :=
  { scope with instances := (key, made) :: scope.instances }

@[simp] theorem instance?_empty (key : Key) : (empty : Scope value).instance? key = none := rfl

@[simp] theorem instance?_keep (scope : Scope value) (key other : Key) (made : Instance value) :
    (scope.keep key made).instance? other =
      if other = key then some made else scope.instance? other := by
  by_cases same : other = key
  · simp [keep, instance?, same]
  · simp [keep, instance?, List.lookup_cons, same, beq_false_of_ne same]

theorem provide_eq_error_iff (scope : Scope value) (constructor : Constructor value)
    (error : WiringError) :
    scope.provide constructor = .error error ↔
      (scope.find? constructor.key).isSome = true ∧
        error = .duplicate constructor.key.typeName constructor.key.name := by
  unfold provide
  split
  · next present => simp [present, eq_comm]
  · next absent => simp [absent]

theorem provide_eq_ok_iff {scope behind : Scope value} {constructor : Constructor value} :
    scope.provide constructor = .ok behind ↔
      scope.find? constructor.key = none ∧
        behind = { scope with constructors := scope.constructors ++ [constructor] } := by
  unfold provide
  cases scope.find? constructor.key <;> simp [eq_comm]

@[simp] theorem find?_empty (key : Key) : (empty : Scope value).find? key = none := rfl

theorem find?_of_provide {scope behind : Scope value} {constructor : Constructor value}
    (provided : scope.provide constructor = .ok behind) (key : Key) :
    behind.find? key =
      if key = constructor.key then some constructor else scope.find? key := by
  obtain ⟨absent, rfl⟩ := provide_eq_ok_iff.1 provided
  unfold find? at absent ⊢
  by_cases same : key = constructor.key
  · subst same
    simp [List.find?_append, absent]
  · simp [List.find?_append, same, beq_false_of_ne (Ne.symm same)]

end Scope
end ConfigWiring
