import ConfigWiring.Proofs.Generator.References
import Mathlib.Data.List.Forall2
import Mathlib.Data.List.Nodup

/-!
# Descriptors and imports

The structs among the marked types are told twice: once to describe them, and once to import
their packages.  Both tell of the same structs, so that a descriptor refers to a struct through
its package exactly if that package is imported.
-/

namespace ConfigWiring

/-! ## Sorted texts -/

namespace Text

theorem pairwise_insertSorted
    {text : String}
    {texts : List String}
    (ascending : texts.Pairwise (· < ·)) :
    (insertSorted text texts).Pairwise (· < ·) := by
  induction ascending with
  | nil => exact List.pairwise_singleton _ _
  | @cons first rest least ascending inductionHypothesis =>
      rw [insertSorted]
      split
      · next before =>
          refine .cons ?_ (.cons least ascending)
          exact List.forall_mem_cons.2
            ⟨before, fun other present => String.lt_trans before (least other present)⟩
      · next notBefore =>
          split
          · exact .cons least ascending
          · next other =>
              refine .cons (fun member present => ?_) inductionHypothesis
              rcases mem_insertSorted.1 present with rfl | present
              · exact Std.lt_of_le_of_ne (String.not_lt.1 notBefore) (Ne.symm other)
              · exact least member present

/-- Sorted texts ascend strictly, so none of them stands there twice. -/
theorem pairwise_sortedSet (texts : List String) : (sortedSet texts).Pairwise (· < ·) := by
  induction texts with
  | nil => exact .nil
  | cons text texts inductionHypothesis => exact pairwise_insertSorted inductionHypothesis

theorem nodup_sortedSet (texts : List String) : (sortedSet texts).Nodup :=
  (pairwise_sortedSet texts).imp fun before => Std.ne_of_lt before

end Text

/-! ## References beside descriptors -/

namespace MarkedType

/-- The package of a type is spelt in front of its qualified name. -/
theorem typeName_ne_qualifiedName (one : MarkedType) : one.typeName ≠ one.qualifiedName := by
  intro same
  have lengths := congrArg String.length same
  rw [qualifiedName, String.length_append, String.length_append] at lengths
  have dot : ".".length = 1 := rfl
  omega

end MarkedType

namespace Descriptor

theorem specType_of_ofMarkedType
    {policy : CtorNamePolicy}
    {one : MarkedType}
    {descriptor : Descriptor}
    (done : ofMarkedType policy one = .ok descriptor) :
    descriptor.specType = one.qualifiedName := by
  unfold ofMarkedType at done
  split at done
  · cases done
  · cases done
    rfl

end Descriptor

namespace WiringFile

/-- The block of imports that a wiring file holds. -/
def importBlock (file : WiringFile) : List String := file.imports ++ file.sideEffects

end WiringFile

namespace Generator

variable {generator : Generator} {project : Project} {mod : Go.Module}
  {marked : List MarkedType} {plain descriptors : List Descriptor}

/-- A struct's descriptor as the destination package has it: a struct of that package goes by its
bare name. -/
def relabel (generator : Generator) (one : MarkedType) (descriptor : Descriptor) : Descriptor :=
  if one.dir.agrees generator.config.destination then
    { descriptor with specType := one.typeName }
  else descriptor

theorem describeOne_eq_map (one : MarkedType) :
    generator.describeOne one =
      (Descriptor.ofMarkedType generator.config.ctorPolicy one).map (generator.relabel one) := by
  unfold describeOne
  cases Descriptor.ofMarkedType generator.config.ctorPolicy one <;> rfl

/-- The references can be chosen after all structs were described, by going along both lists. -/
theorem describe_eq_zipWith
    (synthesized : Descriptor.ofMarked generator.config.ctorPolicy marked = .ok plain) :
    generator.describe marked =
      .ok (List.zipWith generator.relabel (marked.filter MarkedType.isStruct) plain) := by
  rw [Descriptor.ofMarked] at synthesized
  rw [describe]
  generalize marked.filter MarkedType.isStruct = structs at synthesized ⊢
  induction structs generalizing plain with
  | nil =>
      cases synthesized
      rfl
  | cons one rest inductionHypothesis =>
      obtain ⟨first, others, done, doneRest, rfl⟩ := mapM_cons_eq_ok.1 synthesized
      refine mapM_cons_eq_ok.2
        ⟨generator.relabel one first, _, ?_, inductionHypothesis doneRest, rfl⟩
      rw [describeOne_eq_map, done]
      rfl

/-- A descriptor tells of a struct, and refers to it as the destination package has to. -/
def Describes (generator : Generator) (one : MarkedType) (descriptor : Descriptor) : Prop :=
  Descriptor.ofMarkedType generator.config.ctorPolicy one =
      .ok { descriptor with specType := one.qualifiedName } ∧
    descriptor.specType =
      if one.dir.agrees generator.config.destination then one.typeName else one.qualifiedName

theorem describes_of_describeOne
    {one : MarkedType}
    {descriptor : Descriptor}
    (done : generator.describeOne one = .ok descriptor) :
    generator.Describes one descriptor := by
  refine ⟨?_, specType_of_describeOne done⟩
  rw [describeOne_eq_map] at done
  cases first : Descriptor.ofMarkedType generator.config.ctorPolicy one with
  | error failure => simp [first, Except.map] at done
  | ok whole =>
      simp only [first, Except.map, Except.ok.injEq] at done
      rw [← done, ← Descriptor.specType_of_ofMarkedType first, relabel]
      split <;> rfl

/-- The descriptors go along with the structs among the marked types. -/
theorem forall₂_describes
    (describes : generator.describe marked = .ok descriptors) :
    List.Forall₂ generator.Describes (marked.filter MarkedType.isStruct) descriptors := by
  rw [describe] at describes
  generalize marked.filter MarkedType.isStruct = structs at describes ⊢
  induction structs generalizing descriptors with
  | nil =>
      cases describes
      exact .nil
  | cons one rest inductionHypothesis =>
      obtain ⟨first, others, done, doneRest, rfl⟩ := mapM_cons_eq_ok.1 describes
      exact .cons (describes_of_describeOne done) (inductionHypothesis doneRest)

/-- Every struct has its descriptor. -/
theorem exists_mem_zip
    (describes : generator.describe marked = .ok descriptors)
    {one : MarkedType}
    (struct : one ∈ marked.filter MarkedType.isStruct) :
    ∃ descriptor, (one, descriptor) ∈ (marked.filter MarkedType.isStruct).zip descriptors := by
  rw [← List.map_fst_zip (length_of_mapM describes).ge] at struct
  obtain ⟨⟨_, descriptor⟩, paired, rfl⟩ := List.mem_map.1 struct
  exact ⟨descriptor, paired⟩

/-- The structs that are referred to through their package are those of other directories. -/
theorem mem_foreignStructs_iff
    (describes : generator.describe marked = .ok descriptors)
    {one : MarkedType} :
    one ∈ generator.foreignStructs marked ↔
      ∃ descriptor, (one, descriptor) ∈ (marked.filter MarkedType.isStruct).zip descriptors ∧
        descriptor.specType = one.qualifiedName := by
  constructor
  · intro foreign
    obtain ⟨present, kept⟩ := List.mem_filter.1 foreign
    rw [Bool.and_eq_true, Bool.not_eq_true'] at kept
    have struct : one ∈ marked.filter MarkedType.isStruct := List.mem_filter.2 ⟨present, kept.1⟩
    obtain ⟨descriptor, paired⟩ := exists_mem_zip describes struct
    refine ⟨descriptor, paired, ?_⟩
    rw [specType_of_mem_zip describes paired, kept.2]
    rfl
  · rintro ⟨descriptor, paired, qualified⟩
    have told := specType_of_mem_zip describes paired
    have outside : generator.isLocal one = false := by
      refine Bool.eq_false_iff.2 fun inside => ?_
      rw [inside, if_pos rfl, qualified] at told
      exact one.typeName_ne_qualifiedName told.symm
    exact mem_foreignStructs_of_mem_zip paired outside

/-! ## The imports -/

/-- Nothing is imported twice, whatever is configured for its side effects. -/
theorem nodup_importBlock
    (generator : Generator)
    (project : Project)
    (marked : List MarkedType)
    (descriptors : List Descriptor) :
    (generator.wiringFile project marked descriptors).importBlock.Nodup := by
  refine List.Nodup.append (Text.nodup_sortedSet _) (Text.nodup_sortedSet _) ?_
  intro path imported effective
  have kept := (List.mem_filter.1 (Text.mem_sortedSet.1 effective)).2
  simp only [Bool.and_eq_true, Bool.not_eq_true', List.contains_eq_mem,
    decide_eq_false_iff_not] at kept
  exact kept.2 imported

/-- Descriptors and imports tell of the same structs. -/
structure Coherent
    (generator : Generator)
    (project : Project)
    (mod : Go.Module)
    (marked : List MarkedType)
    (descriptors : List Descriptor) : Prop where
  /-- There is one descriptor for each struct, in their order. -/
  described : List.Forall₂ generator.Describes (marked.filter MarkedType.isStruct) descriptors
  /-- The imports ascend, each once. -/
  ascending : (generator.imports project marked).Pairwise (· < ·)
  /-- What is imported are the support packages and those of the structs that are referred to
  through their package. -/
  imported : ∀ path, path ∈ generator.imports project marked ↔
    path ∈ supportImports ∨
      ∃ pair ∈ (marked.filter MarkedType.isStruct).zip descriptors,
        pair.2.specType = pair.1.qualifiedName ∧ path = mod.importPath pair.1.dir
  /-- No package stands twice among all imports. -/
  once : (generator.wiringFile project marked descriptors).importBlock.Nodup
  /-- Marked types other than structs, and where they stand, change nothing. -/
  structsOnly : ∀ others : List MarkedType,
    others.filter MarkedType.isStruct = marked.filter MarkedType.isStruct ->
      generator.describe others = .ok descriptors ∧
        generator.wiringFile project others descriptors =
          generator.wiringFile project marked descriptors

/-- If the structs among marked types can be described, then descriptors and imports agree. -/
theorem coherent_of_synthesized
    (declares : project.mod? = some mod)
    (synthesized : Descriptor.ofMarked generator.config.ctorPolicy marked = .ok plain) :
    ∃ descriptors, generator.describe marked = .ok descriptors ∧
      generator.Coherent project mod marked descriptors := by
  have describes := describe_eq_zipWith synthesized
  refine ⟨_, describes, forall₂_describes describes, Text.pairwise_sortedSet _, ?_,
    nodup_importBlock generator project marked _, ?_⟩
  · intro path
    simp only [imports, declares, Text.mem_sortedSet, List.mem_append, List.mem_map,
      mem_foreignStructs_iff describes]
    refine or_congr Iff.rfl ⟨?_, ?_⟩
    · rintro ⟨one, ⟨descriptor, paired, qualified⟩, rfl⟩
      exact ⟨(one, descriptor), paired, qualified, rfl⟩
    · rintro ⟨⟨one, descriptor⟩, paired, qualified, rfl⟩
      exact ⟨one, ⟨descriptor, paired, qualified⟩, rfl⟩
  · intro others same
    exact ⟨(describe_congr same).trans describes, wiringFile_congr rfl same _⟩

/-- Structs of the destination and of another directory, with another type between them. -/
theorem coherent_of_mixed_types :
    let config : GeneratorConfig := { (default : GeneratorConfig) with
      sideEffects := [" github.com/lib/pq", "example.com/shop/db", "github.com/lib/pq "] }
    let generator : Generator := ⟨config, ⟨WiringTemplate.standardParts⟩, .idle⟩
    let mod : Go.Module := ⟨"example.com/shop"⟩
    let project : Project := ⟨⟨"."⟩, some mod, []⟩
    let marked : List MarkedType := [
      ⟨"@app-cfg", "db", "Main", ⟨"db"⟩, ⟨[]⟩, .struct, []⟩,
      ⟨"@app-cfg", "cache", "Store", ⟨"cache"⟩, ⟨[]⟩, .other, []⟩,
      ⟨"@app-cfg", "generated", "Local", ⟨"internal/generated"⟩, ⟨[]⟩, .struct, []⟩,
      ⟨"@app-cfg", "db", "Replica", ⟨"db"⟩, ⟨[]⟩, .struct, []⟩]
    ∃ descriptors, generator.describe marked = .ok descriptors ∧
      descriptors.map Descriptor.specType = ["db.Main", "Local", "db.Replica"] ∧
      (generator.wiringFile project marked descriptors).importBlock =
        ["example.com/shop/db", "github.com/kelseyhightower/envconfig",
          "github.com/typical-go/typical-go/pkg/typapp", "github.com/lib/pq"] ∧
      generator.Coherent project mod marked descriptors := by
  intro config generator mod project marked
  have declares : project.mod? = some mod := rfl
  have synthesized : Descriptor.ofMarked generator.config.ctorPolicy marked =
      .ok [⟨"", "MAIN", "db.Main", []⟩, ⟨"", "LOCAL", "generated.Local", []⟩,
        ⟨"", "REPLICA", "db.Replica", []⟩] := by decide +kernel
  obtain ⟨descriptors, describes, coherent⟩ := coherent_of_synthesized declares synthesized
  have told : generator.describe marked = .ok [⟨"", "MAIN", "db.Main", []⟩,
      ⟨"", "LOCAL", "Local", []⟩, ⟨"", "REPLICA", "db.Replica", []⟩] := by decide +kernel
  cases describes.symm.trans told
  exact ⟨_, told, rfl, by decide +kernel, coherent⟩

end Generator
end ConfigWiring
