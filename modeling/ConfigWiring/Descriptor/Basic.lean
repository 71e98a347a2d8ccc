import ConfigWiring.MarkedType.Basic
import ConfigWiring.Failure
import ConfigWiring.Text.CaseMap

/-!
# Configuration descriptors

A descriptor is what the generator needs to know of a marked struct: the name
of its constructor, the prefix of its environment variables, and one variable
with a default for each field.
-/

namespace ConfigWiring

open Text

/-- One environment variable of a configuration struct. -/
structure FieldDescriptor where
  /-- The variable's name. -/
  key : String
  /-- The value it has unless one is set; may be empty. -/
  fallback : String
  deriving DecidableEq, Repr

/-- A configuration struct, ready for generation. -/
structure Descriptor where
  /-- The name of the constructor; may be empty. -/
  ctorName : String
  /-- The prefix of the struct's variables. -/
  namePrefix : String
  /-- The type as the generated code refers to it. -/
  specType : String
  /-- The variables of the fields, in order. -/
  fields : List FieldDescriptor
  deriving DecidableEq, Repr

/-- What becomes of a marked type that names no constructor. -/
inductive CtorNamePolicy where
  /-- The empty name stays. -/
  | verbatim
  /-- The name is made from the name of the type. -/
  | derive
  /-- The type is refused. -/
  | reject
  deriving DecidableEq, Repr, Inhabited

namespace CtorNamePolicy

/-- Every policy. -/
def all : List CtorNamePolicy := [verbatim, derive, reject]

/-- The word for a policy. -/
def word : CtorNamePolicy -> String
  | verbatim => "verbatim"
  | derive => "derive"
  | reject => "reject"

/-- The policy that a word names. -/
def ofWord? (word : String) : Option CtorNamePolicy :=
  all.find? fun policy => policy.word == word

theorem ofWord?_word (policy : CtorNamePolicy) : ofWord? policy.word = some policy := by
  cases policy <;> rfl

end CtorNamePolicy

namespace MarkedType

/-- The prefix of a marked type's variables: the one that the marker gives,
else the type's name in upper case. -/
def variablePrefix (marked : MarkedType) : String :=
  (marked.params.nonEmpty? "prefix").getD (upperText marked.typeName)

/-- The constructor's name: the one that the marker gives, else what the policy
makes of its absence. -/
def ctorName? (policy : CtorNamePolicy) (marked : MarkedType) : Option String :=
  match marked.params.nonEmpty? "ctor_name", policy with
  | some name, _ => some name
  | none, .verbatim => some ""
  | none, .derive => some ("New" ++ marked.typeName)
  | none, .reject => none

end MarkedType

namespace MarkedField

/-- The variable of a field under a prefix: the tag may give the rest of the name
and the default. -/
def describe (variablePrefix : String) (field : MarkedField) : FieldDescriptor where
  key := variablePrefix ++ "_" ++ (field.params.nonEmpty? "envconfig").getD (upperText field.name)
  fallback := (field.params.get? "default").getD ""

end MarkedField

namespace Descriptor

/-- The descriptor of one marked type. -/
def ofMarkedType (policy : CtorNamePolicy) (marked : MarkedType) :
    Except Failure Descriptor :=
  match marked.ctorName? policy with
  | none => .error (.unnamedConstructor marked.qualifiedName)
  | some ctorName =>
      .ok {
        ctorName
        namePrefix := marked.variablePrefix
        specType := marked.qualifiedName
        fields := marked.fields.map (·.describe marked.variablePrefix) }

/-- The descriptors of the structs among the marked types; other types cannot be
filled from the environment and are left out. -/
def ofMarked (policy : CtorNamePolicy) (marked : List MarkedType) :
    Except Failure (List Descriptor) :=
  (marked.filter MarkedType.isStruct).mapM (ofMarkedType policy)

/-- The fields of a list of descriptors, in order. -/
def allFields (descriptors : List Descriptor) : List FieldDescriptor :=
  descriptors.flatMap Descriptor.fields

end Descriptor
end ConfigWiring
