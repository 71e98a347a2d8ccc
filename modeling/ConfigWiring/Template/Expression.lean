import ConfigWiring.Template.Words

/-!
# Reading expressions

Where two readings of an expression begin alike, the first that fits wins, and what it
leaves unread is not tried again.  A number that stands in parentheses is read as an
operation between numbers if it can be, and as a condition otherwise.  Every function
takes a bound on the depth of its readings.
-/

namespace ConfigWiring
namespace Template
namespace Reading

/-- Whether an operation binds its operands before addition does. -/
def bindsTighter : MathOp -> Bool
  | .plus | .minus => false
  | .times | .divide | .modulo => true

/-- A chain of operations grouped from left to right, products before sums.  The
first operand is the sum so far, the second the product that may still grow. -/
def group (sum : Option (Expr × MathOp)) (product : Expr) : List (MathOp × Expr) -> Expr
  | [] => close sum product
  | (op, operand) :: rest =>
      if bindsTighter op then group sum (.ofCore (.math op product operand)) rest
      else group (some (close sum product, op)) operand rest
where
  /-- The sum so far with the last product added. -/
  close : Option (Expr × MathOp) -> Expr -> Expr
    | none, product => product
    | some (left, op), product => .ofCore (.math op left product)

/-- A chain of conditions grouped from left to right, conjunctions first. -/
def groupLogic (left : Option Expr) (right : Expr) : List (Bool × Expr) -> Expr
  | [] => close left right
  | (true, operand) :: rest => groupLogic left (.ofCore (.both right operand)) rest
  | (false, operand) :: rest => groupLogic (some (close left right)) operand rest
where
  /-- The alternatives so far with the last conjunction. -/
  close : Option Expr -> Expr -> Expr
    | none, right => right
    | some left, right => .ofCore (.either left right)

/-- Values joined into a text, where texts that meet are one. -/
def joined : List Core -> List Core
  | .literal (.text first) :: .literal (.text second) :: rest =>
      joined (.literal (.text (first ++ second)) :: rest)
  | first :: rest => first :: joined rest
  | [] => []
termination_by parts => parts.length

/-- The core of joined values: a single text is a literal. -/
def joinedCore (parts : List Core) : Core :=
  match joined parts with
  | [.literal (.text text)] => .literal (.text text)
  | parts => .joined (.ofList (parts.map .ofCore))

mutual

/-- Conditions joined by words. -/
def logic? : Nat -> List Char -> Option (Expr × List Char)
  | 0, _ => none
  | bound + 1, text =>
      match condition? bound text with
      | none => none
      | some (first, rest) =>
          let (others, after) := moreLogic bound rest
          some (groupLogic none first others, after)

/-- Further conditions: whether each is joined by a conjunction. -/
def moreLogic : Nat -> List Char -> List (Bool × Expr) × List Char
  | 0, text => ([], text)
  | bound + 1, text =>
      let joined? := firstOf [
        fun _ => (spacedWord? "or" text).map fun rest => (false, rest),
        fun _ => (spacedWord? "and" text).map fun rest => (true, rest)]
      match joined? with
      | none => ([], text)
      | some (both, rest) =>
          match condition? bound rest with
          | none => ([], text)
          | some (operand, after) =>
              let (others, final) := moreLogic bound after
              ((both, operand) :: others, final)

/-- One condition, perhaps negated; one in parentheses takes no negation and loses its
own. -/
def condition? : Nat -> List Char -> Option (Expr × List Char)
  | 0, _ => none
  | bound + 1, text =>
      let (negated, body) := match spacedWord? "not" text with
        | some rest => (true, rest)
        | none => (false, text)
      let found? := firstOf [
        fun _ => membership? bound body,
        fun _ => comparison? bound body,
        fun _ =>
          if negated then none
          else
            match mark? "(" body with
            | none => none
            | some inside =>
                match logic? bound inside with
                | none => none
                | some (inner, rest) => (mark? ")" rest).map fun after => (inner, after)]
      found?.map fun (found, rest) => (found.withNegation negated, rest)

/-- Whether a value is in a container. -/
def membership? : Nat -> List Char -> Option (Expr × List Char)
  | 0, _ => none
  | bound + 1, text =>
      let needle? := firstOf [fun _ => filteredText? bound text, fun _ => filteredNumber? bound text]
      match needle? with
      | none => none
      | some (needle, rest) =>
          let (negated, behind) := match spacedWord? "not" rest with
            | some after => (true, after)
            | none => (false, rest)
          match mark? "in" behind with
          | none => none
          | some inside =>
              let container? := firstOf [
                fun _ => filteredText? bound inside,
                fun _ => filteredArray? bound inside,
                fun _ => (path? bound inside).map fun (path, after) =>
                  (.ofCore (.variable path), after)]
              container?.map fun (container, after) =>
                (.ofCore (.isIn negated needle container), after)

/-- A value, or two values compared. -/
def comparison? : Nat -> List Char -> Option (Expr × List Char)
  | 0, _ => none
  | bound + 1, text =>
      let side? := fun text => firstOf [
        fun _ => filteredText? bound text, fun _ => compared? bound text]
      match side? text with
      | none => none
      | some (left, rest) =>
          match compareOp? rest with
          | none => some (left, rest)
          | some (op, behind) =>
              match side? behind with
              | none => some (left, rest)
              | some (right, after) => some (.ofCore (.compare op left right), after)

/-- One side of a comparison: filtered values and operations between them. -/
def compared? : Nat -> List Char -> Option (Expr × List Char)
  | 0, _ => none
  | bound + 1, text =>
      match filteredNumber? bound text with
      | none => none
      | some (first, rest) =>
          let (others, after) := moreCompared bound rest
          some (group none first others, after)

/-- Further operands of a comparison. -/
def moreCompared : Nat -> List Char -> List (MathOp × Expr) × List Char
  | 0, text => ([], text)
  | bound + 1, text =>
      match mathOp? text with
      | none => ([], text)
      | some (op, rest) =>
          match filteredNumber? bound rest with
          | none => ([], text)
          | some (operand, after) =>
              let (others, final) := moreCompared bound after
              ((op, operand) :: others, final)

/-- A text or joined values with filters behind. -/
def filteredText? : Nat -> List Char -> Option (Expr × List Char)
  | 0, _ => none
  | bound + 1, text =>
      let core? := firstOf [
        fun _ => joinedValues? bound text,
        fun _ => (quoted? (skip text)).map fun (value, rest) => (.literal (.text value), rest)]
      core?.map fun (core, rest) =>
        let (filters, after) := filters bound rest
        (.mk false core filters, after)

/-- Values joined into a text. -/
def joinedValues? : Nat -> List Char -> Option (Core × List Char)
  | 0, _ => none
  | bound + 1, text =>
      match joinable? bound text with
      | none => none
      | some (first, rest) =>
          match moreJoined bound rest with
          | ([], _) => none
          | (others, after) => some (joinedCore (first :: others), after)

/-- Further values joined into a text. -/
def moreJoined : Nat -> List Char -> List Core × List Char
  | 0, text => ([], text)
  | bound + 1, text =>
      match mark? "~" text with
      | none => ([], text)
      | some rest =>
          match joinable? bound rest with
          | none => ([], text)
          | some (part, after) =>
              let (others, final) := moreJoined bound after
              (part :: others, final)

/-- A value that can be joined with others. -/
def joinable? : Nat -> List Char -> Option (Core × List Char)
  | 0, _ => none
  | bound + 1, text =>
      firstOf [
        fun _ => (call? bound text).map fun (name, arguments, rest) => (.call name arguments, rest),
        fun _ => (number? (skip text)).map fun (value, rest) => (.literal value, rest),
        fun _ => (quoted? (skip text)).map fun (value, rest) => (.literal (.text value), rest),
        fun _ => (path? bound text).map fun (path, rest) => (.variable path, rest)]

/-- A value or operations between values, with filters behind. -/
def filteredNumber? : Nat -> List Char -> Option (Expr × List Char)
  | 0, _ => none
  | bound + 1, text =>
      (operations? bound text).map fun (inner, rest) =>
        let (filters, after) := filters bound rest
        match inner with
        | .mk _ core _ => (.mk false core filters, after)

/-- A value or operations between values. -/
def operations? : Nat -> List Char -> Option (Expr × List Char)
  | 0, _ => none
  | bound + 1, text =>
      match operand? bound text with
      | none => none
      | some (first, rest) =>
          let (others, after) := moreOperations bound rest
          some (group none first others, after)

/-- Further operands. -/
def moreOperations : Nat -> List Char -> List (MathOp × Expr) × List Char
  | 0, text => ([], text)
  | bound + 1, text =>
      match mathOp? text with
      | none => ([], text)
      | some (op, rest) =>
          match operand? bound rest with
          | none => ([], text)
          | some (operand, after) =>
              let (others, final) := moreOperations bound after
              ((op, operand) :: others, final)

/-- One operand, perhaps in parentheses. -/
def operand? : Nat -> List Char -> Option (Expr × List Char)
  | 0, _ => none
  | bound + 1, text =>
      firstOf [
        fun _ =>
          match mark? "(" text with
          | none => none
          | some inside =>
              match operations? bound inside with
              | none => none
              | some (inner, rest) => (mark? ")" rest).map fun after => (inner, after),
        fun _ => (simple? bound text).map fun (core, rest) => (.ofCore core, rest)]

/-- A value that is no text. -/
def simple? : Nat -> List Char -> Option (Core × List Char)
  | 0, _ => none
  | bound + 1, text =>
      firstOf [
        fun _ => (truthWord? text).map fun (value, rest) => (.literal value, rest),
        fun _ => test? bound true text,
        fun _ => test? bound false text,
        fun _ => callMacro? bound text,
        fun _ => (call? bound text).map fun (name, arguments, rest) => (.call name arguments, rest),
        fun _ => (path? bound text).map fun (path, rest) => (.variable path, rest),
        fun _ => (number? (skip text)).map fun (value, rest) => (.literal value, rest)]

/-- A test of a variable, negated by a word if asked for. -/
def test? : Nat -> Bool -> List Char -> Option (Core × List Char)
  | 0, _, _ => none
  | bound + 1, negated, text =>
      match path? bound text with
      | none => none
      | some (path, rest) =>
          let body? := (mark? "is" rest).bind fun body =>
            if negated then mark? "not" body else some body
          match body?.bind name? with
          | none => none
          | some (name, after) =>
              match testArguments? bound after with
              | some (arguments, final) => some (.test negated path name arguments, final)
              | none => some (.test negated path name .nil, after)

/-- The arguments of a test in parentheses; at least one. -/
def testArguments? : Nat -> List Char -> Option (Exprs × List Char)
  | 0, _ => none
  | bound + 1, text =>
      match mark? "(" text with
      | none => none
      | some inside =>
          match testValues bound inside with
          | ([], _) => none
          | (values, rest) => (mark? ")" rest).map fun after => (.ofList values, after)

/-- Values with commas between them. -/
def testValues : Nat -> List Char -> List Expr × List Char
  | 0, text => ([], text)
  | bound + 1, text =>
      match value? bound text with
      | none => ([], text)
      | some (first, rest) =>
          match mark? "," rest with
          | none => ([first], rest)
          | some behind =>
              match testValues bound behind with
              | ([], _) => ([first], rest)
              | (others, after) => (first :: others, after)

/-- Conditions with commas between them and perhaps behind them. -/
def items : Nat -> List Char -> List Expr × List Char
  | 0, text => ([], text)
  | bound + 1, text =>
      match condition? bound text with
      | none => ([], text)
      | some (first, rest) =>
          match mark? "," rest with
          | none => ([first], rest)
          | some behind =>
              let (others, after) := items bound behind
              (first :: others, after)

/-- The call of a macro: where it is defined, its name and its arguments. -/
def callMacro? : Nat -> List Char -> Option (Core × List Char)
  | 0, _ => none
  | bound + 1, text =>
      match name? text with
      | none => none
      | some (origin, rest) =>
          (mark? "::" rest).bind fun behind =>
            (call? bound behind).map fun (name, arguments, after) =>
              (.callMacro origin name arguments, after)

/-- A name with arguments in parentheses. -/
def call? : Nat -> List Char -> Option (String × Arguments × List Char)
  | 0, _ => none
  | bound + 1, text =>
      match name? text with
      | none => none
      | some (name, rest) =>
          match mark? "(" rest with
          | none => none
          | some inside =>
              let (arguments, after) := arguments bound inside
              (mark? ")" after).map fun final => (name, .ofList arguments, final)

/-- Arguments with their names, and perhaps a comma behind the last. -/
def arguments : Nat -> List Char -> List (String × Expr) × List Char
  | 0, text => ([], text)
  | bound + 1, text =>
      match name? text with
      | none => ([], text)
      | some (name, rest) =>
          match (mark? "=" rest).bind (value? bound) with
          | none => ([], text)
          | some (value, after) =>
              match mark? "," after with
              | none => ([(name, value)], after)
              | some next =>
                  let (others, final) := arguments bound next
                  ((name, value) :: others, final)

/-- The filters at the start of a text. -/
def filters : Nat -> List Char -> Filters × List Char
  | 0, text => (.nil, text)
  | bound + 1, text =>
      match (mark? "|" text).bind (filter? bound) with
      | none => (.nil, text)
      | some (name, arguments, rest) =>
          let (others, after) := filters bound rest
          (.cons name arguments others, after)

/-- The name of a filter, perhaps with arguments. -/
def filter? : Nat -> List Char -> Option (String × Arguments × List Char)
  | 0, _ => none
  | bound + 1, text =>
      firstOf [
        fun _ => call? bound text,
        fun _ => (name? text).map fun (name, rest) => (name, .nil, rest)]

/-- A list in brackets with filters behind. -/
def filteredArray? : Nat -> List Char -> Option (Expr × List Char)
  | 0, _ => none
  | bound + 1, text =>
      match mark? "[" text with
      | none => none
      | some inside =>
          let (values, rest) := items bound inside
          (mark? "]" rest).map fun after =>
            let (filters, final) := filters bound after
            (.mk false (.list (.ofList values)) filters, final)

/-- A condition or a list. -/
def value? : Nat -> List Char -> Option (Expr × List Char)
  | 0, _ => none
  | bound + 1, text =>
      firstOf [fun _ => logic? bound text, fun _ => filteredArray? bound text]

end

/-- A depth that no expression in a text goes beyond. -/
def depthFor (text : List Char) : Nat := 20 * text.length + 20

/-- The value at the start of a text: a condition or a list. -/
def expression? (text : List Char) : Option (Expr × List Char) := value? (depthFor text) text

/-- The container that a repetition goes through. -/
def container? (text : List Char) : Option (Expr × List Char) :=
  firstOf [
    fun _ => filteredNumber? (depthFor text) text,
    fun _ => filteredArray? (depthFor text) text]

end Reading

/-- Whether an integer fits into 64 bits. -/
def fitsWord (number : Int) : Bool := -Int.pow 2 63 ≤ number && number < Int.pow 2 63

mutual

/-- Whether all integers of an expression fit into 64 bits. -/
def Expr.fits : Expr -> Bool
  | .mk _ core filters => core.fits && filters.fit

/-- Whether all integers of a core fit. -/
def Core.fits : Core -> Bool
  | .literal (.int number) => fitsWord number
  | .literal _ | .variable _ => true
  | .joined parts => parts.fit
  | .math _ left right | .compare _ left right | .both left right | .either left right
  | .isIn _ left right => left.fits && right.fits
  | .test _ _ _ arguments => arguments.fit
  | .call _ arguments | .callMacro _ _ arguments => arguments.fit
  | .list items => items.fit

/-- Whether all integers of some expressions fit. -/
def Exprs.fit : Exprs -> Bool
  | .nil => true
  | .cons first rest => first.fits && rest.fit

/-- Whether all integers of some arguments fit. -/
def Arguments.fit : Arguments -> Bool
  | .nil => true
  | .cons _ value rest => value.fits && rest.fit

/-- Whether all integers of some filters fit. -/
def Filters.fit : Filters -> Bool
  | .nil => true
  | .cons _ arguments rest => arguments.fit && rest.fit

end

end Template
end ConfigWiring
