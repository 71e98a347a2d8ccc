import ConfigWiring.Config.Error
import ConfigWiring.Decimal.Basic

/-!
# Configuration values

Configuration is a table of named values, kept in ascending order of the names.  Layers of
configuration are laid over one another: where both have a table the tables are joined
name by name, and anywhere else the upper value stands.
-/

namespace ConfigWiring
namespace Config

/-- A value of a configuration. -/
inductive Value where
  | text (value : String)
  | char (value : Char)
  | bool (value : Bool)
  | unsigned (value : Nat)
  | signed (value : Int)
  | float (value : Float)
  | list (items : List Value)
  | table (fields : List (String × Value))
  deriving BEq, Repr

/-- Named values in ascending order of their names. -/
abbrev Table := List (String × Value)

instance : Inhabited Value := ⟨.table []⟩

/-- Give a name a value. -/
def putField (name : String) (value : Value) : Table -> Table
  | [] => [(name, value)]
  | field :: fields =>
      if name < field.1 then (name, value) :: field :: fields
      else if name = field.1 then (name, value) :: fields
      else field :: putField name value fields

theorem lookup_putField (name other : String) (entry : Value) (table : Table) :
    (putField name entry table).lookup other =
      if other = name then some entry else table.lookup other := by
  induction table with
  | nil =>
      by_cases same : other = name
      · simp [putField, same]
      · simp [putField, List.lookup_cons, same, beq_false_of_ne same]
  | cons field fields inductionHypothesis =>
      obtain ⟨held, content⟩ := field
      rw [putField]
      split
      · by_cases same : other = name
        · simp [same]
        · rw [List.lookup_cons, beq_false_of_ne same, if_neg same]
      · split
        · next equal =>
            obtain rfl : name = held := equal
            by_cases same : other = name
            · simp [same]
            · simp [List.lookup_cons, same, beq_false_of_ne same]
        · next apart =>
            rw [List.lookup_cons, inductionHypothesis, List.lookup_cons]
            by_cases here : other = held
            · have unequal : other ≠ name := fun same => apart (same.symm.trans here)
              simp [here, here ▸ unequal]
            · rw [beq_false_of_ne here]

theorem mem_putField
    {name : String}
    {entry : Value}
    {field : String × Value}
    {table : Table}
    (present : field ∈ putField name entry table) :
    field = (name, entry) ∨ field ∈ table := by
  induction table with
  | nil => exact .inl (by simpa [putField] using present)
  | cons first fields inductionHypothesis =>
      rw [putField] at present
      split at present
      · exact List.mem_cons.1 present
      · split at present
        · exact (List.mem_cons.1 present).imp_right (List.mem_cons_of_mem first)
        · rcases List.mem_cons.1 present with rfl | further
          · exact .inr List.mem_cons_self
          · exact (inductionHypothesis further).imp_right (List.mem_cons_of_mem first)

mutual

/-- A value laid over another. -/
def Value.over : Value -> Value -> Value
  | .table upper, .table lower => .table (layFields upper lower)
  | upper, _ => upper

/-- The fields of a table laid over another table. -/
def layFields : List (String × Value) -> Table -> Table
  | [], lower => lower
  | (name, value) :: upper, lower =>
      let laid := match lower.lookup name with
        | some below => value.over below
        | none => value
      layFields upper (putField name laid lower)

end

namespace Value

/-- How an error names a value that stands in place of another. -/
def found : Value -> Found
  | text value => .text value
  | char value => .text value.toString
  | bool value => .bool value
  | unsigned value => .unsigned value
  | signed value => .signed value
  | float value => .float (Decimal.plain value)
  | list _ => .list
  | table _ => .table

end Value
end Config
end ConfigWiring
