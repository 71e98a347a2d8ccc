import ConfigWiring.Command.Settings
import ConfigWiring.Proofs.Config.TablesLaid
import Mathlib.Data.List.Basic
import Mathlib.Data.List.Induction

/-!
# Variables with settings

A variable whose name has no point gives one key or none.  Under each key there is what the last
variable that gives it says.
-/

namespace ConfigWiring

open Config Text

namespace Settings

/-! ## The keys that names give -/

/-- What a name has behind the common beginning of the variables with settings. -/
def Behind (name : String) (rest : List Char) : Prop :=
  ∃ leading, trim name.toList = leading ++ rest ∧
    leading.map Char.toUpper = variablePrefix.toList

/-- Names of variables that give at most one key. -/
def PointFree (name : String) : Prop := ∀ rest, Behind name rest -> '.' ∉ rest

/-- Names that give a key: in any case, and with blanks around the parts. -/
def Names (name key : String) : Prop :=
  ∃ rest, Behind name rest ∧ (trim rest).map Char.toLower = key.toList

theorem behind_iff
    {name : String}
    {rest : List Char} :
    Behind name rest ↔
      ((trim name.toList).take variablePrefix.length).map Char.toUpper = variablePrefix.toList ∧
        rest = (trim name.toList).drop variablePrefix.length := by
  constructor
  · rintro ⟨leading, split, same⟩
    have length : leading.length = variablePrefix.length := by
      simpa [← String.length_toList] using congrArg List.length same
    rw [split, List.take_left' length, List.drop_left' length]
    exact ⟨same, rfl⟩
  · rintro ⟨same, rfl⟩
    exact ⟨_, (List.take_append_drop _ _).symm, same⟩

theorem names_iff
    {name key : String} :
    Names name key ↔
      ((trim name.toList).take variablePrefix.length).map Char.toUpper = variablePrefix.toList ∧
        (trim ((trim name.toList).drop variablePrefix.length)).map Char.toLower = key.toList := by
  constructor
  · rintro ⟨rest, behind, same⟩
    obtain ⟨common, rfl⟩ := behind_iff.1 behind
    exact ⟨common, same⟩
  · rintro ⟨common, same⟩
    exact ⟨_, behind_iff.2 ⟨common, rfl⟩, same⟩

instance (name key : String) : Decidable (Names name key) := decidable_of_iff' _ names_iff

/-- A name without a point gives a key or none. -/
theorem keysOf?_eq_some_iff
    {name : String}
    (pointFree : PointFree name)
    {keys : List String} :
    keysOf? name = some keys ↔ ∃ key, keys = [key] ∧ key ≠ "" ∧ Names name key := by
  simp only [Names, behind_iff, keysOf?]
  split
  · next common =>
      have free := pointFree _ (behind_iff.2 ⟨common, rfl⟩)
      generalize (trim name.toList).drop variablePrefix.length = rest at free ⊢
      have whole : splitAll '.' (trim rest) = [trim rest] :=
        splitAll_of_not_mem fun point =>
          free (subset_of_trimStart rest (subset_of_trimEnd (trimStart rest) point))
      rw [whole, List.any_cons, List.any_nil, Bool.or_false]
      split
      · next empty =>
          refine ⟨nofun, fun ⟨key, _, filled, rest, ⟨_, same⟩, spells⟩ => (filled ?_).elim⟩
          rw [same, List.isEmpty_iff.1 empty] at spells
          exact String.ext spells.symm
      · next filled =>
          rw [Option.some.injEq, List.map_singleton]
          constructor
          · rintro rfl
            refine ⟨_, rfl, fun none => filled ?_, rest, ⟨common, rfl⟩, String.toList_ofList.symm⟩
            simpa using congrArg String.toList none
          · rintro ⟨key, rfl, _, rest, ⟨_, rfl⟩, spells⟩
            rw [spells, String.ofList_toList]
  · next other =>
      exact ⟨nofun, fun ⟨_, _, _, _, ⟨common, _⟩, _⟩ => absurd common other⟩

/-- One more variable is laid over those before it under the key that it gives, if any. -/
theorem ofVariables_concat
    (pairs : List (String × String))
    {name : String}
    (text : String)
    (pointFree : PointFree name) :
    (∃ key laid, (∀ other, other ≠ "" -> (Names name other ↔ other = key)) ∧
        laid.Alike (Literal.parse text) ∧
        ofVariables ⟨pairs ++ [(name, text)]⟩ = putField key laid (ofVariables ⟨pairs⟩)) ∨
      (∀ other, other ≠ "" -> ¬Names name other) ∧
        ofVariables ⟨pairs ++ [(name, text)]⟩ = ofVariables ⟨pairs⟩ := by
  have one : ofVariables ⟨pairs ++ [(name, text)]⟩ =
      (keysOf? name).elim (ofVariables ⟨pairs⟩) fun keys =>
        layFields (nest keys (Literal.parse text)) (ofVariables ⟨pairs⟩) := by
    rw [ofVariables, List.foldl_append, List.foldl_cons, List.foldl_nil, ← ofVariables]
    cases given : keysOf? name <;> simp only [given, Option.elim_none, Option.elim_some]
  rw [one]
  cases given : keysOf? name with
  | none =>
      refine .inr ⟨fun other filled names => ?_, rfl⟩
      rw [(keysOf?_eq_some_iff pointFree).2 ⟨other, rfl, filled, names⟩] at given
      cases given
  | some keys =>
      obtain ⟨key, rfl, filled, names⟩ := (keysOf?_eq_some_iff pointFree).1 given
      refine .inl ⟨key, _, fun other otherFilled => ⟨fun otherNames => ?_, ?_⟩, ?_, rfl⟩
      · have same := (keysOf?_eq_some_iff pointFree).2 ⟨other, rfl, otherFilled, otherNames⟩
        rw [given, Option.some.injEq, List.singleton_inj] at same
        exact same.symm
      · rintro rfl
        exact names
      · split
        · exact Value.alike_over _ _
        · exact .refl _

/-- What the last variable that gives a key says. -/
def Speaks (pairs : List (String × String)) (key text : String) : Prop :=
  ∃ front name back, pairs = front ++ (name, text) :: back ∧ Names name key ∧
    ∀ pair ∈ back, ¬Names pair.1 key

/-- No variable gives a key. -/
def Silent (pairs : List (String × String)) (key : String) : Prop :=
  ∀ pair ∈ pairs, ¬Names pair.1 key

variable {pairs : List (String × String)} {pair : String × String} {key text : String}

theorem Speaks.concat
    (speaks : Speaks (pairs ++ [pair]) key text) :
    Names pair.1 key ∧ pair.2 = text ∨ ¬Names pair.1 key ∧ Speaks pairs key text := by
  obtain ⟨front, name, back, split, names, behind⟩ := speaks
  rcases back.eq_nil_or_concat' with rfl | ⟨back, last, rfl⟩
  · obtain ⟨_, same⟩ := List.append_inj' split rfl
    obtain rfl := List.singleton_inj.1 same
    exact .inl ⟨names, rfl⟩
  · rw [← List.cons_append, ← List.append_assoc] at split
    obtain ⟨rfl, same⟩ := List.append_inj' split rfl
    obtain rfl := List.singleton_inj.1 same
    rw [List.forall_mem_append] at behind
    exact .inr ⟨behind.2 pair List.mem_cons_self, front, name, back, rfl, names, behind.1⟩

theorem ascending_ofVariables
    (pointFree : ∀ pair ∈ pairs, PointFree pair.1) :
    Ascending (ofVariables ⟨pairs⟩) := by
  induction pairs using List.reverseRecOn with
  | nil => exact .nil
  | append_singleton pairs pair inductionHypothesis =>
      rw [List.forall_mem_append] at pointFree
      have before := inductionHypothesis pointFree.1
      obtain ⟨key, laid, _, _, same⟩ | ⟨_, same⟩ :=
        ofVariables_concat pairs pair.2 (pointFree.2 pair List.mem_cons_self)
      · exact same ▸ ascending_putField before key laid
      · exact same ▸ before

/-- Under a key there is what the last variable that gives it says. -/
theorem exists_lookup_ofVariables
    (pointFree : ∀ pair ∈ pairs, PointFree pair.1)
    (filled : key ≠ "")
    (speaks : Speaks pairs key text) :
    ∃ laid, (ofVariables ⟨pairs⟩).lookup key = some laid ∧ laid.Alike (Literal.parse text) := by
  induction pairs using List.reverseRecOn with
  | nil =>
      obtain ⟨front, name, back, split, _⟩ := speaks
      simp at split
  | append_singleton pairs pair inductionHypothesis =>
      rw [List.forall_mem_append] at pointFree
      obtain ⟨given, laid, gives, alike, same⟩ | ⟨givesNone, same⟩ :=
        ofVariables_concat pairs pair.2 (pointFree.2 pair List.mem_cons_self)
      · rw [same, lookup_putField]
        obtain ⟨names, rfl⟩ | ⟨other, before⟩ := speaks.concat
        · exact ⟨laid, if_pos ((gives key filled).1 names), alike⟩
        · rw [if_neg (mt (gives key filled).2 other)]
          exact inductionHypothesis pointFree.1 before
      · rw [same]
        obtain ⟨names, _⟩ | ⟨_, before⟩ := speaks.concat
        · exact absurd names (givesNone key filled)
        · exact inductionHypothesis pointFree.1 before

/-- Under a key that no variable gives there is nothing. -/
theorem lookup_ofVariables_of_silent
    (pointFree : ∀ pair ∈ pairs, PointFree pair.1)
    (filled : key ≠ "")
    (silent : Silent pairs key) :
    (ofVariables ⟨pairs⟩).lookup key = none := by
  induction pairs using List.reverseRecOn with
  | nil => rfl
  | append_singleton pairs pair inductionHypothesis =>
      rw [List.forall_mem_append] at pointFree
      rw [Silent, List.forall_mem_append] at silent
      have before := inductionHypothesis pointFree.1 silent.1
      obtain ⟨given, laid, gives, _, same⟩ | ⟨_, same⟩ :=
        ofVariables_concat pairs pair.2 (pointFree.2 pair List.mem_cons_self)
      · rw [same, lookup_putField,
          if_neg (mt (gives key filled).2 (silent.2 pair List.mem_cons_self)), before]
      · rw [same, before]

/-- A key is given by a last variable or by none. -/
theorem exists_speaks_or_silent (pairs : List (String × String)) (key : String) :
    (∃ text, Speaks pairs key text) ∨ Silent pairs key := by
  induction pairs using List.reverseRecOn with
  | nil => exact .inr (List.forall_mem_nil _)
  | append_singleton pairs pair inductionHypothesis =>
      by_cases names : Names pair.1 key
      · exact .inl ⟨pair.2, pairs, pair.1, [], rfl, names, List.forall_mem_nil _⟩
      · obtain ⟨text, front, name, back, rfl, namesIt, behind⟩ | silent := inductionHypothesis
        · refine .inl ⟨text, front, name, back ++ [pair], by simp, namesIt, ?_⟩
          exact List.forall_mem_append.2 ⟨behind, List.forall_mem_singleton.2 names⟩
        · exact .inr (List.forall_mem_append.2 ⟨silent, List.forall_mem_singleton.2 names⟩)

theorem Silent.not_speaks
    (silent : Silent pairs key) :
    ¬Speaks pairs key text := by
  rintro ⟨front, name, back, rfl, names, _⟩
  exact silent (name, text) (by simp) names

end Settings
end ConfigWiring
