import ConfigWiring.Config.Value

/-!
# Tables laid over one another

Under a name of the upper table there is its value, except that two tables are joined; under any
other name there is what the lower table has.
-/

namespace ConfigWiring
namespace Config

/-- Values that are the same unless both are tables. -/
inductive Value.Alike : Value -> Value -> Prop
  | refl (value : Value) : Alike value value
  | tables (fields others : Table) : Alike (.table fields) (.table others)

theorem Value.Alike.trans
    {first second third : Value}
    (left : first.Alike second)
    (right : second.Alike third) :
    first.Alike third := by
  cases left with
  | refl => exact right
  | tables fields =>
      cases right with
      | refl => exact .tables _ _
      | tables => exact .tables _ _

/-- What a value laid over another is like. -/
theorem Value.alike_over (upper lower : Value) : (upper.over lower).Alike upper := by
  unfold Value.over
  split
  · exact .tables _ _
  · exact .refl upper

/-- The names of a table ascend. -/
def Ascending (table : Table) : Prop := table.Pairwise (·.1 < ·.1)

theorem ascending_putField
    {table : Table}
    (ascending : Ascending table)
    (name : String)
    (value : Value) :
    Ascending (putField name value table) := by
  induction ascending with
  | nil => exact List.pairwise_singleton _ _
  | @cons field fields least ascending inductionHypothesis =>
      rw [putField]
      split
      · next before =>
          refine .cons ?_ (.cons least ascending)
          exact List.forall_mem_cons.2
            ⟨before, fun other present => String.lt_trans before (least other present)⟩
      · next notBefore =>
          split
          · next same => exact .cons (fun other present => same ▸ least other present) ascending
          · next other =>
              refine .cons (fun member present => ?_) inductionHypothesis
              rcases mem_putField present with rfl | present
              · exact Std.lt_of_le_of_ne (String.not_lt.1 notBefore) (Ne.symm other)
              · exact least member present

/-- The names of a table are different. -/
def Distinct (table : Table) : Prop := (table.map Prod.fst).Nodup

theorem Ascending.distinct
    {table : Table}
    (ascending : Ascending table) :
    Distinct table :=
  List.pairwise_map.2 (ascending.imp fun before => Std.ne_of_lt before)

theorem lookup_eq_none_of_not_mem
    {entry : Type}
    {fields : List (String × entry)}
    {name : String}
    (absent : name ∉ fields.map Prod.fst) :
    fields.lookup name = none := by
  rw [List.lookup_eq_none_iff]
  intro field present
  refine bne_iff_ne.2 ?_
  rintro rfl
  exact absent (List.mem_map_of_mem present)

/-- Under a name that the upper table lacks there is what the lower one has. -/
theorem lookup_layFields_of_none
    {upper lower : Table}
    {name : String}
    (absent : upper.lookup name = none) :
    (layFields upper lower).lookup name = lower.lookup name := by
  induction upper generalizing lower with
  | nil => rw [layFields]
  | cons field upper inductionHypothesis =>
      obtain ⟨first, value⟩ := field
      rw [List.lookup_cons] at absent
      split at absent
      · cases absent
      · next other =>
          rw [layFields, inductionHypothesis absent, lookup_putField,
            if_neg (by simpa using other)]

/-- Under a name of the upper table there is its value, or tables are joined. -/
theorem exists_lookup_layFields
    {upper lower : Table}
    {name : String}
    {value : Value}
    (distinct : Distinct upper)
    (holds : upper.lookup name = some value) :
    ∃ laid, (layFields upper lower).lookup name = some laid ∧ laid.Alike value := by
  induction upper generalizing lower with
  | nil => cases holds
  | cons field upper inductionHypothesis =>
      obtain ⟨first, held⟩ := field
      rw [Distinct, List.map_cons, List.nodup_cons] at distinct
      rw [List.lookup_cons] at holds
      rw [layFields]
      split at holds
      · next same =>
          obtain rfl : name = first := by simpa using same
          cases holds
          rw [lookup_layFields_of_none (lookup_eq_none_of_not_mem distinct.1), lookup_putField,
            if_pos rfl]
          refine ⟨_, rfl, ?_⟩
          split
          · exact Value.alike_over value _
          · exact .refl value
      · exact inductionHypothesis distinct.2 holds

end Config
end ConfigWiring
