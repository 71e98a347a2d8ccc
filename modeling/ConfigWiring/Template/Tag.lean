import ConfigWiring.Template.Expression

/-!
# Tags of templates

A tag stands between a brace and a percent sign.  It defines a name, begins or ends a
part of the template, leaves a repetition, or inserts another template.
-/

namespace ConfigWiring
namespace Template
namespace Reading

open Text

/-- What stands in a tag. -/
inductive Tag where
  | define (everywhere : Bool) (name : String) (value : Expr)
  | choose (condition : Expr)
  | chooseElse (condition : Expr)
  | otherwise
  | endChoose
  | repeat (key : Option String) (item : String) (container : Expr)
  | endRepeat
  | leave
  | skip
  | filtered (name : String) (arguments : Arguments)
  | endFiltered
  | block (name : String)
  | endBlock
  | insert (names : List String) (optional : Bool)
  | defineMacro (name : String) (parameters : Parameters)
  | endMacro

/-- A reading whose integers fit. -/
def fitting? (found? : Option (Expr × List Char)) : Option (Expr × List Char) :=
  found?.filter fun (expr, _) => expr.fits

/-- A tag that is a single word. -/
def bareTag? (text : List Char) (word : String) (tag : Tag) : Unit -> Option (Tag × List Char) :=
  fun _ =>
    match name? text with
    | some (name, rest) => if name = word then some (tag, rest) else none
    | none => none

/-- A tag of a word and perhaps a name behind it. -/
def closingTag? (text : List Char) (word : String) (tag : Tag) :
    Unit -> Option (Tag × List Char) :=
  fun _ => (mark? word text).map fun rest => (tag, ((name? rest).map Prod.snd).getD rest)

/-- A definition behind its keyword. -/
def definition? (everywhere : Bool) (text : List Char) : Option (Tag × List Char) :=
  match name? text with
  | none => none
  | some (name, rest) =>
      ((mark? "=" rest).bind fun behind => fitting? (expression? behind)).map
        fun (value, after) => (.define everywhere name value, after)

/-- The names that a repetition binds: a second one follows a comma at once. -/
def turnNames? (text : List Char) : Option (Option String × String × List Char) :=
  match name? text with
  | none => none
  | some (first, ',' :: rest) =>
      (name? rest).map fun (second, after) => (some first, second, after)
  | some (first, rest) => some (none, first, rest)

/-- The word between the names and the container of a repetition. -/
def behindIn? (text : List Char) : Option (List Char) :=
  if text.head?.any isSpace then spacedWord? "in" text else none

/-- A repetition behind its keyword. -/
def repetition? (text : List Char) : Option (Tag × List Char) :=
  match turnNames? text with
  | none => none
  | some (key, item, rest) =>
      ((behindIn? rest).bind fun inside => fitting? (container? inside)).map
        fun (container, after) => (.repeat key item container, after)

/-- A filter behind its keyword. -/
def filtering? (text : List Char) : Option (Tag × List Char) :=
  match filter? (depthFor text) text with
  | none => none
  | some (name, arguments, rest) =>
      if arguments.fit then some (.filtered name arguments, rest) else none

/-- Quoted names with commas between them and perhaps behind them. -/
def quotedNames : Nat -> List Char -> List String × List Char
  | 0, text => ([], text)
  | bound + 1, text =>
      match quoted? (skip text) with
      | none => ([], text)
      | some (name, rest) =>
          match mark? "," rest with
          | none => ([name], rest)
          | some behind =>
              let (names, after) := quotedNames bound behind
              (name :: names, after)

/-- What is inserted: a quoted name or a list of them. -/
def insertedNames? (text : List Char) : Option (List String × List Char) :=
  firstOf [
    fun _ => (quoted? (skip text)).map fun (name, rest) => ([name], rest),
    fun _ => (mark? "[" text).bind fun inside =>
      let (names, rest) := quotedNames text.length inside
      (mark? "]" rest).map fun after => (names, after)]

/-- An insertion behind its keyword; what is inserted may be missing if told so. -/
def insertion? (text : List Char) : Option (Tag × List Char) :=
  (insertedNames? text).map fun (names, rest) =>
    match (mark? "ignore" rest).bind (mark? "missing") with
    | some after => (.insert names true, after)
    | none => (.insert names false, rest)

/-- A name that a macro binds, perhaps with a literal that stands in for it. -/
def parameter? (text : List Char) : Option ((String × Option Value) × List Char) :=
  match name? text with
  | none => none
  | some (name, rest) =>
      match (mark? "=" rest).bind fun behind => literal? (skip behind) with
      | some (.int number, after) =>
          if fitsWord number then some ((name, some (.int number)), after) else none
      | some (value, after) => some ((name, some value), after)
      | none => some ((name, none), rest)

/-- The names that a macro binds, with commas between them. -/
def parameters : Nat -> List Char -> Parameters × List Char
  | 0, text => ([], text)
  | bound + 1, text =>
      match parameter? text with
      | none => ([], text)
      | some (first, rest) =>
          match mark? "," rest with
          | none => ([first], rest)
          | some behind =>
              match parameters bound behind with
              | ([], _) => ([first], rest)
              | (others, after) => (first :: others, after)

/-- The definition of a macro behind its keyword. -/
def macroDefinition? (text : List Char) : Option (Tag × List Char) :=
  match name? text with
  | none => none
  | some (name, rest) =>
      (mark? "(" rest).bind fun inside =>
        let (bound, after) := parameters text.length inside
        (mark? ")" after).map fun final => (.defineMacro name bound, final)

/-- The tag behind its opening mark, up to the closing one. -/
def tag? (text : List Char) : Option (Tag × List Char) :=
  firstOf [
    bareTag? text "else" .otherwise,
    bareTag? text "endif" .endChoose,
    bareTag? text "endfor" .endRepeat,
    bareTag? text "endfilter" .endFiltered,
    bareTag? text "break" .leave,
    bareTag? text "continue" .skip,
    fun _ => (spacedWord? "if" text).bind fun rest =>
      (fitting? (logic? (depthFor rest) rest)).map fun (condition, after) =>
        (.choose condition, after),
    fun _ => (spacedWord? "elif" text).bind fun rest =>
      (fitting? (logic? (depthFor rest) rest)).map fun (condition, after) =>
        (.chooseElse condition, after),
    fun _ => (spacedWord? "for" text).bind repetition?,
    fun _ => (spacedWord? "set" text).bind (definition? false),
    fun _ => (spacedWord? "set_global" text).bind (definition? true),
    fun _ => (spacedWord? "filter" text).bind filtering?,
    fun _ => (spacedWord? "block" text).bind fun rest =>
      (name? rest).map fun (name, after) => (.block name, after),
    closingTag? text "endblock" .endBlock,
    fun _ => (spacedWord? "include" text).bind insertion?,
    fun _ => (spacedWord? "macro" text).bind macroDefinition?,
    closingTag? text "endmacro" .endMacro]

end Reading
end Template
end ConfigWiring
