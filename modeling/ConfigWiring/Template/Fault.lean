/-!
# Faults of templates

A template is refused when it is read, or it fails when it is filled in.
-/

namespace ConfigWiring
namespace Template

/-- Why a template gives no text. -/
inductive Fault where
  /-- The template is not well-formed. -/
  | malformed
  /-- A well-formed template asks for something that its data does not have. -/
  | unfillable
  deriving DecidableEq, Repr

namespace Fault

/-- The wording of a fault. -/
def message : Fault -> String
  | malformed => "the template is not well-formed"
  | unfillable => "the template cannot be filled in"

end Fault
end Template
end ConfigWiring
