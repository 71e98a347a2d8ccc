import ConfigWiring.Descriptor.Basic
import ConfigWiring.Environment.Basic
import ConfigWiring.Template.Filling
import ConfigWiring.Template.Reading

/-!
# Generated wiring files

A wiring file registers one constructor for each descriptor.  Its text comes from
a template that sees the package, the imports, the imports made for their side
effects alone, and the descriptors; it may also ask for variables of the process.
Without descriptors there is nothing to register and the file has no text.
-/

namespace ConfigWiring

open Template

/-- What a wiring file is made from. -/
structure WiringFile where
  /-- The package that the file belongs to. -/
  package : String
  /-- The paths of the imported packages. -/
  imports : List String
  /-- The paths of the packages imported for their side effects. -/
  sideEffects : List String
  /-- The structs that get a constructor each. -/
  descriptors : List Descriptor
  deriving DecidableEq, Repr

/-- The outcome of rendering a wiring file. -/
inductive Rendered where
  /-- There is nothing to register. -/
  | empty
  /-- The text of the file. -/
  | source (text : String)
  deriving DecidableEq, Repr

/-- A template for wiring files. -/
structure WiringTemplate where
  /-- The parts of the template. -/
  nodes : Template.Nodes

namespace FieldDescriptor

/-- A variable as a template sees it. -/
def toValue (field : FieldDescriptor) : Value :=
  .record [("default", .text field.fallback), ("key", .text field.key)]

end FieldDescriptor

namespace Descriptor

/-- A descriptor as a template sees it. -/
def toValue (descriptor : Descriptor) : Value :=
  .record [
    ("ctor_name", .text descriptor.ctorName),
    ("fields", .list (descriptor.fields.map FieldDescriptor.toValue)),
    ("prefix", .text descriptor.namePrefix),
    ("spec_type", .text descriptor.specType)]

end Descriptor

namespace WiringFile

/-- The values that a template is given for a wiring file. -/
def givens (file : WiringFile) : Named :=
  [
    ("configs", .list (file.descriptors.map Descriptor.toValue)),
    ("imports", Value.texts file.imports),
    ("package", .text file.package),
    ("side_effects", Value.texts file.sideEffects)]

end WiringFile

namespace WiringTemplate

/-- The lines of the template that is used unless another is given. -/
def standardLines : List String :=
  [
    "package \x7b\x7b package \x7d\x7d",
    "",
    "// Code generated by wiregen. DO NOT EDIT.",
    "",
    "import (\x7b% for path in imports %\x7d",
    "\t\"\x7b\x7b path \x7d\x7d\"\x7b% endfor %\x7d\x7b% for path in side_effects %\x7d",
    "\t_ \"\x7b\x7b path \x7d\x7d\"\x7b% endfor %\x7d",
    ")",
    "",
    "func init() \x7b \x7b% if configs %\x7d",
    "\ttypapp.AppendCtor(\x7b% for cfg in configs %\x7d",
    "\t\t&typapp.Constructor\x7b",
    "\t\t\tName: \"\x7b\x7b cfg.ctor_name \x7d\x7d\",",
    "\t\t\tFn: func() (*\x7b\x7b cfg.spec_type \x7d\x7d, error) \x7b",
    "\t\t\t\tvar cfg \x7b\x7b cfg.spec_type \x7d\x7d",
    "\t\t\t\tif err := envconfig.Process(\"\x7b\x7b cfg.prefix \x7d\x7d\", &cfg); err != nil \x7b",
    "\t\t\t\t\treturn nil, err",
    "\t\t\t\t\x7d",
    "\t\t\t\treturn &cfg, nil",
    "\t\t\t\x7d,",
    "\t\t\x7d,\x7b% endfor %\x7d",
    "\t)\x7b% endif %\x7d",
    "\x7d"]

/-- The text of the template that is used unless another is given. -/
def standardText : String := String.join (standardLines.map (· ++ "\n"))

/-- The name under which a template may insert itself. -/
def name : String := "app_cfg.go"

/-- Read the text of a template. -/
def parse (text : String) : Except Failure WiringTemplate :=
  match Template.parse text with
  | .ok nodes => .ok ⟨nodes⟩
  | .error fault => .error (.template fault)

/-- Render a wiring file. -/
def render (template : WiringTemplate) (environment : Environment) (file : WiringFile) :
    Except Failure Rendered :=
  if file.descriptors.isEmpty then .ok .empty
  else
    match (Source.mk name template.nodes).fill environment.get? file.givens with
    | .ok text => .ok (.source text)
    | .error fault => .error (.template fault)

theorem render_empty (template : WiringTemplate) (environment : Environment)
    {file : WiringFile} (none : file.descriptors = []) :
    template.render environment file = .ok .empty := by
  simp [render, none]

end WiringTemplate
end ConfigWiring
