import ConfigWiring.Generator.Basic
import ConfigWiring.Project.Loading

/-!
# The structs of listed sources

What a generator makes of a project depends on the marked structs of its sources alone, and
these are told source by source.  Sources without marked structs can be listed or not.
-/

namespace ConfigWiring

/-! ## Results for each element -/

section Each

variable {element result : Type} {work : element -> Except Failure (List result)}

theorem mapM_cons_eq_ok
    {output : Type}
    {work : element -> Except Failure output}
    {first : element}
    {rest : List element}
    {outputs : List output} :
    (first :: rest).mapM work = .ok outputs ↔
      ∃ output others, work first = .ok output ∧ rest.mapM work = .ok others ∧
        outputs = output :: others := by
  rw [List.mapM_cons]
  cases work first with
  | error failure => simp [bind, Except.bind]
  | ok output =>
      cases rest.mapM work with
      | error failure => simp [bind, Except.bind]
      | ok others => simp [bind, Except.bind, pure, Except.pure, eq_comm]

theorem length_of_mapM
    {output : Type}
    {work : element -> Except Failure output}
    {elements : List element}
    {outputs : List output}
    (done : elements.mapM work = .ok outputs) :
    outputs.length = elements.length := by
  induction elements generalizing outputs with
  | nil =>
      cases done
      rfl
  | cons first rest inductionHypothesis =>
      obtain ⟨output, others, _, doneRest, rfl⟩ := mapM_cons_eq_ok.1 done
      simp [inductionHypothesis doneRest]

/-- Each result is that of one of the elements. -/
theorem exists_of_mem_mapM
    {output : Type}
    {work : element -> Except Failure output}
    {elements : List element}
    {outputs : List output}
    {result : output}
    (done : elements.mapM work = .ok outputs)
    (present : result ∈ outputs) :
    ∃ one ∈ elements, work one = .ok result := by
  induction elements generalizing outputs with
  | nil =>
      cases done
      cases present
  | cons first rest inductionHypothesis =>
      obtain ⟨here, others, did, doneRest, rfl⟩ := mapM_cons_eq_ok.1 done
      rcases List.mem_cons.1 present with rfl | further
      · exact ⟨first, List.mem_cons_self, did⟩
      · obtain ⟨one, among, gives⟩ := inductionHypothesis doneRest further
        exact ⟨one, List.mem_cons_of_mem first among, gives⟩

/-- What some of the elements give is among what all of them give, in the same order. -/
theorem flatten_sublist_of_mapM_filter
    {keep : element -> Bool}
    {elements : List element}
    {kept all : List (List result)}
    (some : (elements.filter keep).mapM work = .ok kept)
    (every : elements.mapM work = .ok all) :
    kept.flatten.Sublist all.flatten := by
  induction elements generalizing kept all with
  | nil =>
      cases some
      simp
  | cons first rest inductionHypothesis =>
      obtain ⟨here, others, done, doneRest, rfl⟩ := mapM_cons_eq_ok.1 every
      cases keeps : keep first with
      | true =>
          rw [List.filter_cons_of_pos keeps, mapM_cons_eq_ok] at some
          obtain ⟨here', others', done', doneRest', rfl⟩ := some
          obtain rfl : here = here' := Except.ok.inj (done.symm.trans done')
          simpa using (inductionHypothesis doneRest' doneRest)
      | false =>
          rw [List.filter_cons_of_neg (by simp [keeps])] at some
          exact (inductionHypothesis some doneRest).trans (by simp)

/-- All elements give no more than some of them do exactly if the others give nothing. -/
theorem mapM_filter_iff
    {keep : element -> Bool}
    {elements : List element}
    {kept : List (List result)}
    (some : (elements.filter keep).mapM work = .ok kept) :
    (∃ all, elements.mapM work = .ok all ∧ all.flatten = kept.flatten) ↔
      ∀ element ∈ elements, keep element = false -> work element = .ok [] := by
  induction elements generalizing kept with
  | nil =>
      cases some
      simp only [List.mapM_nil, List.not_mem_nil, false_implies, implies_true, iff_true]
      exact ⟨[], rfl, rfl⟩
  | cons first rest inductionHypothesis =>
      rw [List.forall_mem_cons]
      cases keeps : keep first with
      | true =>
          rw [List.filter_cons_of_pos keeps, mapM_cons_eq_ok] at some
          obtain ⟨here, others, done, doneRest, rfl⟩ := some
          rw [← inductionHypothesis doneRest]
          simp only [mapM_cons_eq_ok, done]
          constructor
          · rintro ⟨_, ⟨here', all, same, every, rfl⟩, equal⟩
            cases same
            exact ⟨by simp, all, every, by simpa using equal⟩
          · rintro ⟨_, all, every, equal⟩
            exact ⟨_, ⟨here, all, rfl, every, rfl⟩, by simp [equal]⟩
      | false =>
          rw [List.filter_cons_of_neg (by simp [keeps])] at some
          rw [← inductionHypothesis some]
          simp only [mapM_cons_eq_ok]
          constructor
          · rintro ⟨_, ⟨here, all, done, every, rfl⟩, equal⟩
            have inside := (flatten_sublist_of_mapM_filter some every).length_le
            have lengths := congrArg List.length equal
            rw [List.flatten_cons, List.length_append] at lengths
            obtain rfl : here = [] := List.eq_nil_of_length_eq_zero (by omega)
            exact ⟨fun _ => done, all, every, by simpa using equal⟩
          · rintro ⟨nothing, all, every, equal⟩
            exact ⟨_, ⟨[], all, nothing trivial, every, rfl⟩, by simpa using equal⟩

end Each

/-! ## Sources -/

namespace Scanner

/-- Scanning declarations goes part by part. -/
theorem scan_append_eq_ok
    {scanner : Scanner}
    {front back : List Go.TypeDecl}
    {marked : List MarkedType} :
    scanner.scan (front ++ back) = .ok marked ↔
      ∃ first second, scanner.scan front = .ok first ∧ scanner.scan back = .ok second ∧
        marked = first ++ second := by
  induction front generalizing marked with
  | nil => simp [scan, eq_comm]
  | cons decl rest inductionHypothesis =>
      rw [List.cons_append, scan, scan]
      cases scanner.mark? decl with
      | error failure => simp
      | ok mark? =>
          cases mark? with
          | none => exact inductionHypothesis
          | some mark =>
              cases whole : scanner.scan (rest ++ back) with
              | error failure =>
                  refine iff_of_false (by simp [Except.map]) ?_
                  rintro ⟨first, second, scanned, scannedBack, _⟩
                  cases scannedRest : scanner.scan rest with
                  | error failure => simp [scannedRest, Except.map] at scanned
                  | ok others =>
                      have found := inductionHypothesis.2 ⟨others, second, scannedRest, scannedBack, rfl⟩
                      rw [whole] at found
                      cases found
              | ok all =>
                  obtain ⟨others, second, scannedRest, scannedBack, rfl⟩ :=
                    inductionHypothesis.1 whole
                  simp [scannedRest, scannedBack, Except.map, eq_comm]

/-- A marked type is that of one of the declarations. -/
theorem exists_mark?_of_mem_scan
    {scanner : Scanner}
    {decls : List Go.TypeDecl}
    {marked : List MarkedType}
    {one : MarkedType}
    (scanned : scanner.scan decls = .ok marked)
    (present : one ∈ marked) :
    ∃ decl ∈ decls, scanner.mark? decl = .ok (some one) := by
  induction decls generalizing marked with
  | nil =>
      cases scanned
      cases present
  | cons decl rest inductionHypothesis =>
      rw [scan] at scanned
      split at scanned
      · cases scanned
      · obtain ⟨decl', member, marks⟩ := inductionHypothesis scanned present
        exact ⟨decl', List.mem_cons_of_mem _ member, marks⟩
      · next first marks =>
          cases scannedRest : scanner.scan rest with
          | error failure => simp [scannedRest, Except.map] at scanned
          | ok others =>
              simp only [scannedRest, Except.map, Except.ok.injEq] at scanned
              subst scanned
              rcases List.mem_cons.1 present with rfl | inside
              · exact ⟨decl, List.mem_cons_self, marks⟩
              · obtain ⟨decl', member, marks'⟩ := inductionHypothesis scannedRest inside
                exact ⟨decl', List.mem_cons_of_mem _ member, marks'⟩

end Scanner

namespace Generator

variable {generator : Generator} {root : Path} {listing : List (Place × ByteArray)}

/-- The marked structs of one source. -/
def structsIn (generator : Generator) (root : Path) (source : Place × ByteArray) :
    Except Failure (List MarkedType) := do
  let file ← Project.readSource root source.1 source.2
  let marked ← (Scanner.mk generator.config.tagName).scan file.decls
  return marked.filter MarkedType.isStruct

theorem structsIn_eq_ok
    {source : Place × ByteArray}
    {structs : List MarkedType} :
    generator.structsIn root source = .ok structs ↔
      ∃ file marked, Project.readSource root source.1 source.2 = .ok file ∧
        (Scanner.mk generator.config.tagName).scan file.decls = .ok marked ∧
          structs = marked.filter MarkedType.isStruct := by
  unfold structsIn
  cases Project.readSource root source.1 source.2 with
  | error failure => simp [bind, Except.bind]
  | ok file =>
      cases scanned : (Scanner.mk generator.config.tagName).scan file.decls with
      | error failure => simp [bind, Except.bind, scanned]
      | ok marked => simp [bind, Except.bind, pure, Except.pure, scanned, eq_comm]

/-- Sources can be read and scanned all together exactly if each of them can, and their structs
are those of each. -/
theorem exists_marked_iff
    {structs : List MarkedType} :
    (∃ files marked,
        (listing.mapM fun (names, bytes) => Project.readSource root names bytes) = .ok files ∧
          (Scanner.mk generator.config.tagName).scanFiles files = .ok marked ∧
            marked.filter MarkedType.isStruct = structs) ↔
      ∃ parts, listing.mapM (generator.structsIn root) = .ok parts ∧ parts.flatten = structs := by
  induction listing generalizing structs with
  | nil =>
      simp only [List.mapM_nil]
      constructor
      · rintro ⟨files, marked, read, scanned, rfl⟩
        cases read
        cases scanned
        exact ⟨[], rfl, rfl⟩
      · rintro ⟨parts, told, rfl⟩
        cases told
        exact ⟨[], [], rfl, rfl, rfl⟩
  | cons source rest inductionHypothesis =>
      simp only [mapM_cons_eq_ok, structsIn_eq_ok]
      constructor
      · rintro ⟨_, marked, ⟨file, files, read, readRest, rfl⟩, scanned, rfl⟩
        obtain ⟨first, second, scannedFirst, scannedRest, rfl⟩ := Scanner.scan_append_eq_ok.1 scanned
        obtain ⟨parts, told, flat⟩ :=
          inductionHypothesis.1 ⟨files, second, readRest, scannedRest, rfl⟩
        exact ⟨_, ⟨_, parts, ⟨file, first, read, scannedFirst, rfl⟩, told, rfl⟩, by simp [flat]⟩
      · rintro ⟨_, ⟨_, parts, ⟨file, first, read, scannedFirst, rfl⟩, told, rfl⟩, rfl⟩
        obtain ⟨files, second, readRest, scannedRest, flat⟩ := inductionHypothesis.2 ⟨parts, told, rfl⟩
        exact ⟨_, _, ⟨file, files, read, readRest, rfl⟩,
          Scanner.scan_append_eq_ok.2 ⟨first, second, scannedFirst, scannedRest, rfl⟩,
          by simp [flat]⟩

/-! ## What is made of the structs -/

section Structs

variable {project project' : Project} {marked marked' : List MarkedType}

theorem foreignStructs_congr
    (same : marked'.filter MarkedType.isStruct = marked.filter MarkedType.isStruct) :
    generator.foreignStructs marked' = generator.foreignStructs marked := by
  have split (marked : List MarkedType) : generator.foreignStructs marked =
      (marked.filter MarkedType.isStruct).filter (!generator.isLocal ·) := by
    rw [List.filter_filter, foreignStructs]
    congr 1
    funext one
    exact Bool.and_comm _ _
  rw [split, split, same]

theorem describe_congr
    (same : marked'.filter MarkedType.isStruct = marked.filter MarkedType.isStruct) :
    generator.describe marked' = generator.describe marked := by
  rw [describe, describe, same]

/-- The wiring file of a project depends on its module and on the structs alone. -/
theorem wiringFile_congr
    (sameModule : project'.mod? = project.mod?)
    (same : marked'.filter MarkedType.isStruct = marked.filter MarkedType.isStruct)
    (descriptors : List Descriptor) :
    generator.wiringFile project' marked' descriptors =
      generator.wiringFile project marked descriptors := by
  rw [wiringFile, wiringFile, imports, imports, sameModule, foreignStructs_congr same]

end Structs

end Generator
end ConfigWiring
