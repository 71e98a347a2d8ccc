import ConfigWiring.Text.Blank

/-!
# Named values and the process environment

Names are kept in the order in which they first came; giving a name another value
leaves it in its place.  The variables of a process are such a table, and a name is
fit for a variable when it has a character, no blank, no equals sign and no NUL.
-/

namespace ConfigWiring

/-- Names with values, in the order in which the names came. -/
structure Entries where
  /-- The names with their values. -/
  pairs : List (String × String)
  deriving DecidableEq, Repr

namespace Entries

instance : Inhabited Entries := ⟨⟨[]⟩⟩

/-- A table without names. -/
def empty : Entries := ⟨[]⟩

/-- The value of a name. -/
def get? (entries : Entries) (name : String) : Option String := entries.pairs.lookup name

/-- Whether a name has a value. -/
def contains (entries : Entries) (name : String) : Bool := (entries.get? name).isSome

/-- The names, in order. -/
def names (entries : Entries) : List String := entries.pairs.map Prod.fst

/-- How many names there are. -/
def size (entries : Entries) : Nat := entries.pairs.length

/-- Whether there is no name. -/
def isEmpty (entries : Entries) : Bool := entries.pairs.isEmpty

/-- Pairs in which a name has a value: in its place, or at the end if it is new. -/
def putIn (name value : String) : List (String × String) -> List (String × String)
  | [] => [(name, value)]
  | pair :: pairs =>
      if pair.1 = name then (name, value) :: pairs else pair :: putIn name value pairs

/-- Give a name a value. -/
def put (entries : Entries) (name value : String) : Entries :=
  ⟨putIn name value entries.pairs⟩

/-- Take a name away. -/
def erase (entries : Entries) (name : String) : Entries :=
  ⟨entries.pairs.filter fun pair => !(pair.1 == name)⟩

/-- Whether two tables give every name the same value, in whatever order. -/
def agrees (left right : Entries) : Bool :=
  left.size == right.size &&
    left.pairs.all fun pair => right.get? pair.1 == some pair.2

@[simp] theorem get?_empty (name : String) : empty.get? name = none := rfl

@[simp] theorem get?_put (entries : Entries) (name value other : String) :
    (entries.put name value).get? other =
      if other = name then some value else entries.get? other := by
  obtain ⟨pairs⟩ := entries
  simp only [put, get?]
  induction pairs with
  | nil =>
      by_cases same : other = name
      · simp [putIn, same]
      · simp [putIn, List.lookup_cons, same, beq_false_of_ne same]
  | cons pair pairs ih =>
      obtain ⟨key, held⟩ := pair
      rw [putIn]
      split
      · next first =>
          have first : key = name := first
          by_cases same : other = name
          · simp [same]
          · simp [List.lookup_cons, first, same, beq_false_of_ne same]
      · next first =>
          have first : ¬key = name := first
          by_cases here : other = key
          · simp [here, first]
          · simp [List.lookup_cons, beq_false_of_ne here, ih]

@[simp] theorem get?_erase (entries : Entries) (name other : String) :
    (entries.erase name).get? other = if other = name then none else entries.get? other := by
  obtain ⟨pairs⟩ := entries
  simp only [erase, get?]
  induction pairs with
  | nil => simp
  | cons pair pairs ih =>
      obtain ⟨key, held⟩ := pair
      by_cases first : key = name
      · rw [List.filter_cons_of_neg (by simp [first]), ih]
        by_cases same : other = name
        · simp [same]
        · simp [List.lookup_cons, first, same, beq_false_of_ne same]
      · rw [List.filter_cons_of_pos (by simp [first])]
        by_cases here : other = key
        · simp [here, first]
        · simp [List.lookup_cons, beq_false_of_ne here, ih]

theorem contains_iff_mem_names (entries : Entries) (name : String) :
    entries.contains name = true ↔ name ∈ entries.names := by
  obtain ⟨pairs⟩ := entries
  simp only [contains, get?, names]
  simp

theorem names_put_of_contains {entries : Entries} {name : String}
    (present : entries.contains name = true) (value : String) :
    (entries.put name value).names = entries.names := by
  rw [contains_iff_mem_names] at present
  obtain ⟨pairs⟩ := entries
  simp only [put, names] at *
  induction pairs with
  | nil => simp at present
  | cons pair pairs ih =>
      rw [putIn]
      split
      · next first => simp [first]
      · next first =>
          have further : name ∈ pairs.map Prod.fst := by
            simp only [List.map_cons, List.mem_cons] at present
            exact present.resolve_left fun equal => first equal.symm
          simp [ih further]

/-- A new name goes behind all others. -/
theorem pairs_put_of_not_contains {entries : Entries} {name : String}
    (absent : entries.contains name = false) (value : String) :
    (entries.put name value).pairs = entries.pairs ++ [(name, value)] := by
  have missing : name ∉ entries.names := by
    rw [← contains_iff_mem_names, absent]
    simp
  obtain ⟨pairs⟩ := entries
  clear absent
  simp only [put, names] at *
  induction pairs with
  | nil => rfl
  | cons pair pairs ih =>
      simp only [List.map_cons, List.mem_cons, not_or] at missing
      rw [putIn, if_neg fun equal => missing.1 equal.symm, ih missing.2]
      rfl

theorem names_put_of_not_contains {entries : Entries} {name : String}
    (absent : entries.contains name = false) (value : String) :
    (entries.put name value).names = entries.names ++ [name] := by
  rw [names, pairs_put_of_not_contains absent, List.map_append, List.map_singleton, names]

end Entries

/-- The variables of a process. -/
abbrev Environment := Entries

namespace Environment

/-- Whether a name is fit for a variable. -/
def isName (name : String) : Bool :=
  !name.isEmpty && !name.toList.contains '=' && !name.toList.contains '\x00' &&
    !name.toList.any Text.isBlank

/-- Whether a value is fit for a variable. -/
def isValue (value : String) : Bool := !value.toList.contains '\x00'

end Environment
end ConfigWiring
