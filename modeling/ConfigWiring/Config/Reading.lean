import ConfigWiring.Config.Value

/-!
# Reading typed values

A reader takes a configuration value for a typed one or says what it found instead and
what it expected.  The error of an inner value gets the keys that lead to it.
-/

namespace ConfigWiring
namespace Config

/-- What takes configuration values for typed values. -/
abbrev Reader (result : Type) := Value -> Except Error result

namespace Reader

variable {result : Type}

/-- The error of a value of another type. -/
def mistyped (value : Value) (expected : String) : Except Error result :=
  .error ⟨[], .invalidType value.found expected⟩

/-- The outcome of reading what stands under a key. -/
def under (key : String) : Except Error result -> Except Error result
  | .ok value => .ok value
  | .error error => .error { error with key := key :: error.key }

/-- A text; a single character is a text, too. -/
def spelling? : Value -> Option String
  | .text value => some value
  | .char value => some value.toString
  | _ => none

/-- Read a text. -/
def text (expected : String) : Reader String := fun value =>
  match spelling? value with
  | some value => .ok value
  | none => mistyped value expected

/-- Read a truth value. -/
def flag : Reader Bool
  | .bool value => .ok value
  | value => mistyped value "a boolean"

/-- Read the items of a list, the first of which has the given index. -/
def itemsFrom (item : Reader result) : Nat -> List Value -> Except Error (List result)
  | _, [] => .ok []
  | index, value :: values => do
      let first ← under (toString index) (item value)
      return first :: (← itemsFrom item (index + 1) values)

/-- Read a list. -/
def list (item : Reader result) : Reader (List result)
  | .list values => itemsFrom item 0 values
  | value => mistyped value "a sequence"

/-- Read one of a few words, each with what it stands for; a table may hold a word as its
only key, but no value can stand under it. -/
def word (expected : String) (words : List (String × result)) : Reader result := fun value =>
  let named (word : String) : Except Error result :=
    match words.lookup word with
    | some meant => .ok meant
    | none => .error ⟨[], .unknownVariant word (words.map Prod.fst)⟩
  match value with
  | .text word => named word
  | .table [] => mistyped value "enum"
  | .table ((key, inner) :: _) => do
      let _ ← under key (named key)
      under key (mistyped inner "unit")
  | _ => mistyped value expected

/-- Read what stands under a key of a table, with a value to use where nothing does. -/
def field (table : Table) (key : String) (reader : Reader result) (fallback : result) :
    Except Error result :=
  match table.lookup key with
  | some value => under key (reader value)
  | none => .ok fallback

theorem field_of_lookup_none {table : Table} {key : String}
    (absent : table.lookup key = none) (reader : Reader result) (fallback : result) :
    field table key reader fallback = .ok fallback := by
  simp [field, absent]

end Reader
end Config
end ConfigWiring
