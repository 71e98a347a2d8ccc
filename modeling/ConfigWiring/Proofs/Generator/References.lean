import ConfigWiring.Proofs.FileTree.DirectoryPath
import ConfigWiring.Proofs.Generator.StructListing
import ConfigWiring.Proofs.WiringFile.StandardTemplate
import Mathlib.Data.List.TakeWhile

/-!
# References to structs of other packages

The generated file refers to a struct through what its package calls itself, and imports the
package under a path that is made from the struct's directory.  The two keys are independent:
nothing in a project makes packages of one name share a directory.  References are unambiguous
exactly if the project does so.
-/

namespace ConfigWiring

open Text

/-! ## Directories below a project -/

namespace Path

/-- Whether a directory is spelt as that of a source that was found below a project: by no names,
or by names with single slashes between them. -/
def isBelow (dir : Path) : Bool :=
  dir.text.isEmpty || (splitAll '/' dir.text.toList).all (!isIdle ·)

variable {dir other : Path}

theorem isBelow_cases (below : dir.isBelow = true) :
    dir.text.toList = [] ∨ ∀ piece ∈ splitAll '/' dir.text.toList, isIdle piece = false := by
  simpa [isBelow] using below

/-- The names of a directory below a project spell it. -/
theorem joinAll_busyPieces (below : dir.isBelow = true) :
    joinAll '/' (busyPieces (splitAll '/' dir.text.toList)) = dir.text.toList := by
  rcases isBelow_cases below with empty | busy
  · rw [empty]
    rfl
  · have all : busyPieces (splitAll '/' dir.text.toList) = splitAll '/' dir.text.toList :=
      List.filter_eq_self.2 fun piece present => by simp [busy piece present]
    rw [all, joinAll_splitAll]

theorem leading?_of_isBelow (below : dir.isBelow = true) : leading? dir.text.toList = none := by
  rcases isBelow_cases below with empty | busy
  · rw [empty]
    rfl
  unfold leading?
  split
  · next rest spelt => exact absurd (busy [] (by simp [spelt, splitAll])) (by decide)
  · next spelt => exact absurd (busy ['.'] (by simp [spelt, splitAll])) (by decide)
  · next rest spelt => exact absurd (busy ['.'] (by simp [spelt, splitAll])) (by decide)
  · rfl

theorem components_of_isBelow (below : dir.isBelow = true) :
    dir.components = (busyPieces (splitAll '/' dir.text.toList)).map componentOf := by
  rw [components, leading?_of_isBelow below, ← busyPieces_pieces]
  rfl

theorem componentOf_inj
    {left right : List Char}
    (same : componentOf left = componentOf right) :
    left = right := by
  unfold componentOf at same
  split at same <;> split at same
  · next leftUp rightUp => rw [leftUp, rightUp]
  · cases same
  · cases same
  · exact String.ofList_injective (Component.name.inj same)

/-- Directories below a project have one place exactly if they have one spelling. -/
theorem agrees_iff_of_isBelow
    (below : dir.isBelow = true)
    (otherBelow : other.isBelow = true) :
    dir.agrees other = true ↔ dir.text = other.text := by
  rw [agrees_iff]
  constructor
  · intro same
    rw [components_of_isBelow below, components_of_isBelow otherBelow] at same
    have spelt := congrArg (joinAll '/') ((List.map_inj_right fun _ _ => componentOf_inj).1 same)
    rw [joinAll_busyPieces below, joinAll_busyPieces otherBelow] at spelt
    exact String.toList_injective spelt
  · intro same
    rw [components, components, same]

/-- A slash at the end of a text leaves an empty piece behind it. -/
theorem nil_mem_tail_splitAll_slash (text : List Char) :
    [] ∈ (splitAll '/' (text ++ ['/'])).tail := by
  induction text with
  | nil => simp [splitAll]
  | cons char rest inductionHypothesis =>
      rw [List.cons_append, splitAll]
      split
      · exact List.mem_of_mem_tail inductionHypothesis
      · split
        · next none => exact absurd none (splitAll_ne_nil '/' _)
        · next piece pieces some =>
            rw [some] at inductionHypothesis
            exact inductionHypothesis

/-- No slash stands at either end of a directory below a project. -/
theorem trimWhile_of_isBelow (below : dir.isBelow = true) :
    trimWhile (· == '/') dir.text.toList = dir.text.toList := by
  rcases isBelow_cases below with empty | busy
  · rw [empty]
    rfl
  -- A slash at an end would leave an empty piece there.
  have opens : ∀ char ∈ dir.text.toList.head?, (char == '/') = false := by
    refine fun char first => beq_false_of_ne ?_
    rintro rfl
    obtain ⟨rest, spelt⟩ := List.head?_eq_some_iff.1 first
    exact absurd (busy [] (by simp [spelt, splitAll])) (by decide)
  have ends : ∀ char ∈ dir.text.toList.getLast?, (char == '/') = false := by
    refine fun char last => beq_false_of_ne ?_
    rintro rfl
    obtain ⟨front, spelt⟩ := List.getLast?_eq_some_iff.1 last
    refine absurd (busy [] ?_) (by decide)
    rw [spelt]
    exact List.mem_of_mem_tail (nil_mem_tail_splitAll_slash _)
  have trimmed := trimWhile_append (List.forall_mem_nil _) (List.forall_mem_nil _) opens ends
  rwa [List.append_nil, List.nil_append] at trimmed

/-- The directory of a path below a project is below the project. -/
theorem isBelow_of_parent?
    {path : Path}
    (below : path.isBelow = true)
    (above : path.parent? = some dir) :
    dir.isBelow = true := by
  have bare : leadingText path.text.toList = [] := by
    rw [leadingText, leading?_of_isBelow below]
  have pieced : pieces path.text.toList = splitAll '/' path.text.toList := by
    rw [pieces, bare]
    rfl
  rcases isBelow_cases below with empty | busy
  · simp [parent?, empty, pieces, leadingText, leading?, splitAll, isIdle] at above
  rw [← pieced] at busy
  cases reversed : (pieces path.text.toList).reverse with
  | nil =>
      exact absurd (pieced.symm.trans (List.reverse_eq_nil_iff.1 reversed)) (splitAll_ne_nil '/' _)
  | cons last before =>
      have cut : pieces path.text.toList = before.reverse ++ [last] := by
        rw [← List.reverse_reverse (pieces _), reversed, List.reverse_cons]
      rw [cut] at busy
      have lastBusy := busy last (by simp)
      have beforeBusy : ∀ piece ∈ before, isIdle piece = false := fun piece present =>
        busy piece (by simp [present])
      have kept : before.dropWhile isIdle = before := by
        cases before with
        | nil => rfl
        | cons piece others => simp [beforeBusy piece List.mem_cons_self]
      rw [parent?_of_pieces cut (by simp) lastBusy, bare, List.reverse_reverse, kept] at above
      cases above
      by_cases none : before = []
      · rw [none]
        rfl
      have whole : ∀ piece ∈ before.reverse, '/' ∉ piece := by
        intro piece present
        have member : piece ∈ splitAll '/' path.text.toList := by
          rw [← pieced, cut]
          exact List.mem_append_left _ present
        exact slash_not_mem_of_mem_splitAll member
      rw [List.nil_append, isBelow, String.toList_ofList, splitAll_joinAll (by simpa using none) whole]
      simpa using .inr beforeBusy

end Path

namespace Go

theorem dir_of_parseSource
    {path : Path}
    {contents : String}
    {file : SourceFile}
    {decl : TypeDecl}
    (read : parseSource path contents = .ok file)
    (declared : decl ∈ file.decls) :
    decl.dir = ⟨((path.parent?).map Path.text).getD ""⟩ := by
  obtain ⟨items, _, rfl⟩ := parseSource_eq_ok_iff.1 read
  obtain ⟨⟨item, siblings⟩, _, declared⟩ := List.mem_flatMap.1 declared
  dsimp only [declsOfItem] at declared
  split at declared
  · cases declared
  · obtain ⟨spec, _, rfl⟩ := List.mem_map.1 declared
    rfl

/-- The declarations of a source below a project are declared in a directory below it. -/
theorem isBelow_of_parseSource
    {path : Path}
    {contents : String}
    {file : SourceFile}
    {decl : TypeDecl}
    (below : path.isBelow = true)
    (read : parseSource path contents = .ok file)
    (declared : decl ∈ file.decls) :
    decl.dir.isBelow = true := by
  rw [dir_of_parseSource read declared]
  cases above : path.parent? with
  | none => rfl
  | some dir => exact Path.isBelow_of_parent? below above

end Go

namespace Go.Module

theorem importPath_of_isBelow
    (mod : Go.Module)
    {dir : Path}
    (below : dir.isBelow = true) :
    mod.importPath dir =
      if dir.text.toList = [] then mod.path else mod.path ++ "/" ++ dir.text := by
  have notDot : dir.text.toList ≠ ['.'] := by
    intro dot
    have bare := Path.leading?_of_isBelow below
    rw [dot] at bare
    cases bare
  simp only [importPath, Path.trimWhile_of_isBelow below, notDot, or_false, String.ofList_toList]

/-- Import paths tell the directories below a project apart. -/
theorem importPath_eq_iff
    (mod : Go.Module)
    {dir other : Path}
    (below : dir.isBelow = true)
    (otherBelow : other.isBelow = true) :
    mod.importPath dir = mod.importPath other ↔ dir.agrees other = true := by
  rw [Path.agrees_iff_of_isBelow below otherBelow, importPath_of_isBelow mod below,
    importPath_of_isBelow mod otherBelow]
  constructor
  · intro same
    split at same <;> split at same
    · next here there => exact String.toList_injective (here.trans there.symm)
    · have lengths := congrArg String.length same
      simp only [String.length_append] at lengths
      have slash : "/".length = 1 := rfl
      omega
    · have lengths := congrArg String.length same
      simp only [String.length_append] at lengths
      have slash : "/".length = 1 := rfl
      omega
    · have spelt := congrArg String.toList same
      simp only [String.toList_append, List.append_cancel_left_eq] at spelt
      exact String.toList_injective spelt
  · intro same
    rw [same]

end Go.Module

/-! ## References and imports -/

namespace MarkedType

theorem takeWhile_dot_append
    {front : List Char}
    (plain : '.' ∉ front)
    (rest : List Char) :
    (front ++ '.' :: rest).takeWhile (· != '.') = front := by
  rw [List.takeWhile_append_of_pos fun char present => by
    simpa using fun same : char = '.' => plain (same ▸ present)]
  simp

/-- Qualified names tell packages and types apart, if no package has a dot in its name. -/
theorem qualifiedName_inj
    {one other : MarkedType}
    (plain : '.' ∉ one.package.toList)
    (otherPlain : '.' ∉ other.package.toList)
    (same : one.qualifiedName = other.qualifiedName) :
    one.package = other.package ∧ one.typeName = other.typeName := by
  have spelt : one.package.toList ++ '.' :: one.typeName.toList =
      other.package.toList ++ '.' :: other.typeName.toList := by
    have texts := congrArg String.toList same
    simpa [qualifiedName, String.toList_append] using texts
  have packages : one.package.toList = other.package.toList := by
    have fronts := congrArg (List.takeWhile (· != '.')) spelt
    rwa [takeWhile_dot_append plain, takeWhile_dot_append otherPlain] at fronts
  rw [packages] at spelt
  exact ⟨String.toList_injective packages,
    String.toList_injective (List.cons.inj (List.append_cancel_left spelt)).2⟩

end MarkedType

namespace Scanner

theorem decl_of_mark?
    {scanner : Scanner}
    {decl : Go.TypeDecl}
    {one : MarkedType}
    (marks : scanner.mark? decl = .ok (some one)) :
    one.package = decl.package ∧ one.dir = decl.dir := by
  unfold mark? at marks
  split at marks
  · cases marks
  · cases marks
  · split at marks
    · cases marks
    · cases fields : markedFields decl.qualifiedName decl.fields with
      | error failure => simp [fields, Except.map] at marks
      | ok fields' =>
          simp only [fields, Except.map, Except.ok.injEq, Option.some.injEq] at marks
          subst marks
          exact ⟨rfl, rfl⟩

end Scanner

namespace Generator

variable {generator : Generator} {project : Project} {mod : Go.Module}
  {marked : List MarkedType} {descriptors : List Descriptor}

/-- The packages that every generated file imports, each with what it calls itself. -/
def supportPackages : List (String × String) := ["envconfig", "typapp"].zip supportImports

/-- The packages that the generated file imports by name, each with what it calls itself and with
its import path. -/
def importedPackages (generator : Generator) (mod : Go.Module) (marked : List MarkedType) :
    List (String × String) :=
  supportPackages ++
    (generator.foreignStructs marked).map fun one => (one.package, mod.importPath one.dir)

/-- What is imported are the packages that are in use. -/
theorem mem_imports_iff
    {path : String}
    (declares : project.mod? = some mod) :
    path ∈ generator.imports project marked ↔
      ∃ qualifier, (qualifier, path) ∈ generator.importedPackages mod marked := by
  simp only [imports, declares, mem_sortedSet, importedPackages, List.mem_append, exists_or]
  refine or_congr ?_ ?_
  · simp [supportPackages, supportImports, exists_or]
  · simp only [List.mem_map, Prod.mk.injEq]
    constructor
    · rintro ⟨one, present, rfl⟩
      exact ⟨_, one, present, rfl, rfl⟩
    · rintro ⟨_, one, present, _, rfl⟩
      exact ⟨one, present, rfl⟩

theorem specType_of_describeOne
    {one : MarkedType}
    {descriptor : Descriptor}
    (describes : generator.describeOne one = .ok descriptor) :
    descriptor.specType =
      if generator.isLocal one then one.typeName else one.qualifiedName := by
  unfold describeOne Descriptor.ofMarkedType at describes
  cases named : one.ctorName? generator.config.ctorPolicy with
  | none => simp [named] at describes
  | some name =>
      simp only [named, Except.ok.injEq] at describes
      subst describes
      split <;> rfl

theorem descriptors_eq_ok :
    generator.descriptors project = .ok descriptors ↔
      ∃ marked, generator.marked project = .ok marked ∧
        generator.describe marked = .ok descriptors := by
  rw [Generator.descriptors]
  cases generator.marked project <;> simp [bind, Except.bind]

/-- Each struct is described by its own descriptor, which refers to it by the type's name in the
destination package and through the package anywhere else. -/
theorem specType_of_mem_zip
    {one : MarkedType}
    {descriptor : Descriptor}
    (describes : generator.describe marked = .ok descriptors)
    (paired : (one, descriptor) ∈ (marked.filter MarkedType.isStruct).zip descriptors) :
    descriptor.specType =
      if generator.isLocal one then one.typeName else one.qualifiedName := by
  rw [describe] at describes
  generalize marked.filter MarkedType.isStruct = structs at describes paired
  induction structs generalizing descriptors with
  | nil => cases paired
  | cons first rest inductionHypothesis =>
      obtain ⟨here, others, done, doneRest, rfl⟩ := mapM_cons_eq_ok.1 describes
      rcases List.mem_cons.1 paired with same | further
      · cases same
        exact specType_of_describeOne done
      · exact inductionHypothesis doneRest further

theorem mem_foreignStructs_of_mem_zip
    {paired : MarkedType × Descriptor}
    (member : paired ∈ (marked.filter MarkedType.isStruct).zip descriptors)
    (outside : generator.isLocal paired.1 = false) :
    paired.1 ∈ generator.foreignStructs marked := by
  obtain ⟨present, struct⟩ := List.mem_filter.1 (List.of_mem_zip member).1
  exact List.mem_filter.2 ⟨present, by simp [struct, outside]⟩

/-- Imported packages have different names, if those of one name have one import path and none
takes the name of a support package. -/
theorem eq_of_mem_importedPackages
    {qualifier path path' : String}
    (paths : ∀ one ∈ generator.foreignStructs marked, ∀ other ∈ generator.foreignStructs marked,
      one.package = other.package -> mod.importPath one.dir = mod.importPath other.dir)
    (support : ∀ one ∈ generator.foreignStructs marked, ∀ package ∈ supportPackages,
      one.package = package.1 -> mod.importPath one.dir = package.2)
    (known : (qualifier, path) ∈ generator.importedPackages mod marked)
    (known' : (qualifier, path') ∈ generator.importedPackages mod marked) :
    path' = path := by
  have single : ∀ left ∈ supportPackages, ∀ right ∈ supportPackages,
      left.1 = right.1 -> right.2 = left.2 := by decide
  rcases List.mem_append.1 known with left | left <;>
    rcases List.mem_append.1 known' with right | right
  · exact single _ left _ right rfl
  · obtain ⟨other, present, same⟩ := List.mem_map.1 right
    cases same
    exact support other present _ left rfl
  · obtain ⟨one, present, same⟩ := List.mem_map.1 left
    cases same
    exact (support one present _ right rfl).symm
  · obtain ⟨one, present, same⟩ := List.mem_map.1 left
    obtain ⟨other, otherPresent, same'⟩ := List.mem_map.1 right
    cases same
    simp only [Prod.mk.injEq] at same'
    rw [← same'.2]
    exact paths other otherPresent one present same'.1

/-- The generated file imports under the path a package that calls itself by the qualifier. -/
def Denotes
    (generator : Generator)
    (project : Project)
    (mod : Go.Module)
    (marked : List MarkedType)
    (qualifier path : String) : Prop :=
  path ∈ generator.imports project marked ∧
    (qualifier, path) ∈ generator.importedPackages mod marked

/-- The references of a generated file leave no choice. -/
structure Unambiguous
    (generator : Generator)
    (project : Project)
    (mod : Go.Module)
    (marked : List MarkedType)
    (descriptors : List Descriptor) : Prop where
  /-- Structs of different directories other than the destination have different references. -/
  references : ∀ one ∈ (marked.filter MarkedType.isStruct).zip descriptors,
    ∀ other ∈ (marked.filter MarkedType.isStruct).zip descriptors,
      generator.isLocal one.1 = false -> generator.isLocal other.1 = false ->
        one.1.dir.agrees other.1.dir = false -> one.2.specType ≠ other.2.specType
  /-- The qualifier of a struct denotes the package of the struct's directory and no other. -/
  declaring : ∀ one ∈ generator.foreignStructs marked, ∀ path,
    generator.Denotes project mod marked one.package path ↔ path = mod.importPath one.dir
  /-- The qualifier of a support package denotes that package and no other. -/
  support : ∀ package ∈ supportPackages, ∀ path,
    generator.Denotes project mod marked package.1 path ↔ path = package.2

/-- Every struct has one descriptor, and the references are unambiguous exactly if packages of one
name share a directory and none but a support package has a support package's name. -/
theorem unambiguous_iff
    (declares : project.mod? = some mod)
    (described : generator.descriptors project = .ok descriptors)
    (plain : ∀ file ∈ project.files, ∀ decl ∈ file.decls,
      '.' ∉ decl.package.toList ∧ decl.dir.isBelow = true) :
    ∃ marked, generator.marked project = .ok marked ∧
      descriptors.length = (marked.filter MarkedType.isStruct).length ∧
        (generator.Unambiguous project mod marked descriptors ↔
          (∀ one ∈ generator.foreignStructs marked, ∀ other ∈ generator.foreignStructs marked,
            one.package = other.package -> one.dir.agrees other.dir = true) ∧
          ∀ one ∈ generator.foreignStructs marked, ∀ package ∈ supportPackages,
            one.package = package.1 -> mod.importPath one.dir = package.2) := by
  obtain ⟨marked, marks, describes⟩ := descriptors_eq_ok.1 described
  have plain {one : MarkedType} (present : one ∈ generator.foreignStructs marked) :
      '.' ∉ one.package.toList ∧ one.dir.isBelow = true := by
    obtain ⟨decl, member, marks?⟩ :=
      Scanner.exists_mark?_of_mem_scan marks (List.mem_filter.1 present).1
    obtain ⟨package, dir⟩ := Scanner.decl_of_mark? marks?
    obtain ⟨file, listed, inside⟩ := List.mem_flatMap.1 member
    rw [package, dir]
    exact plain file listed decl inside
  have denotes {one : MarkedType} (present : one ∈ generator.foreignStructs marked) :
      (one.package, mod.importPath one.dir) ∈ generator.importedPackages mod marked :=
    List.mem_append_right _ (List.mem_map.2 ⟨one, present, rfl⟩)
  refine ⟨marked, marks, length_of_mapM describes, ?_, ?_⟩
  · intro unambiguous
    constructor
    · intro one present other otherPresent same
      have agree := (unambiguous.declaring one present _).1
        ⟨(mem_imports_iff declares).2 ⟨_, denotes otherPresent⟩, same ▸ denotes otherPresent⟩
      exact (mod.importPath_eq_iff (plain present).2 (plain otherPresent).2).1 agree.symm
    · intro one present package support same
      exact (unambiguous.support package support _).1
        ⟨(mem_imports_iff declares).2 ⟨_, denotes present⟩, same ▸ denotes present⟩
  · rintro ⟨sharing, support⟩
    have paths : ∀ one ∈ generator.foreignStructs marked,
        ∀ other ∈ generator.foreignStructs marked,
          one.package = other.package -> mod.importPath one.dir = mod.importPath other.dir :=
      fun one present other otherPresent same =>
        (mod.importPath_eq_iff (plain present).2 (plain otherPresent).2).2
          (sharing one present other otherPresent same)
    have denotes_iff {package : String × String}
        (known : package ∈ generator.importedPackages mod marked) (path : String) :
        generator.Denotes project mod marked package.1 path ↔ path = package.2 := by
      constructor
      · rintro ⟨_, known'⟩
        exact eq_of_mem_importedPackages paths support known known'
      · rintro rfl
        exact ⟨(mem_imports_iff declares).2 ⟨_, known⟩, known⟩
    refine ⟨?_, fun one present => denotes_iff (denotes present), fun package known =>
      denotes_iff (List.mem_append_left _ known)⟩
    intro one paired other otherPaired outside otherOutside apart same
    have present := mem_foreignStructs_of_mem_zip paired outside
    have otherPresent := mem_foreignStructs_of_mem_zip otherPaired otherOutside
    rw [specType_of_mem_zip describes paired, specType_of_mem_zip describes otherPaired,
      if_neg (by simp [outside]), if_neg (by simp [otherOutside])] at same
    obtain ⟨package, _⟩ :=
      MarkedType.qualifiedName_inj (plain present).1 (plain otherPresent).1 same
    rw [sharing _ present _ otherPresent package] at apart
    cases apart

/-- Structs of one name in packages of different names. -/
theorem unambiguous_of_own_names :
    let generator : Generator := ⟨default, ⟨WiringTemplate.standardParts⟩, .idle⟩
    let mod : Go.Module := ⟨"example.com/shop"⟩
    let project : Project := ⟨⟨"."⟩, some mod,
      [⟨⟨"config/db.go"⟩, "config",
          [⟨"config", ⟨"config"⟩, "Db", "@app-cfg (prefix:\"DB\")", .struct, [⟨"Host", ""⟩]⟩]⟩,
        ⟨⟨"internal/cache/cache.go"⟩, "cache",
          [⟨"cache", ⟨"internal/cache"⟩, "Db", "@app-cfg", .struct, [⟨"Size", ""⟩]⟩]⟩]⟩
    ∃ marked descriptors, generator.descriptors project = .ok descriptors ∧
      descriptors.map Descriptor.specType = ["config.Db", "cache.Db"] ∧
      generator.Unambiguous project mod marked descriptors := by
  intro generator mod project
  let descriptors : List Descriptor := [⟨"", "DB", "config.Db", [⟨"DB_HOST", ""⟩]⟩,
    ⟨"", "DB", "cache.Db", [⟨"DB_SIZE", ""⟩]⟩]
  have described : generator.descriptors project = .ok descriptors := by decide +kernel
  obtain ⟨marked, marks, _, unambiguous⟩ :=
    unambiguous_iff rfl described (by decide +kernel)
  have found : generator.marked project = .ok
      [⟨"@app-cfg", "config", "Db", ⟨"config"⟩, ⟨[("prefix", "DB")]⟩, .struct, [⟨"Host", ⟨[]⟩⟩]⟩,
        ⟨"@app-cfg", "cache", "Db", ⟨"internal/cache"⟩, ⟨[]⟩, .struct, [⟨"Size", ⟨[]⟩⟩]⟩] := by
    decide +kernel
  cases marks.symm.trans found
  exact ⟨_, descriptors, described, rfl, unambiguous.2 (by decide +kernel)⟩

/-- Two packages of one name are both imported, and their structs have one reference. -/
theorem not_unambiguous_of_shared_name :
    let source := "package config\n\n// @app-cfg (prefix:\"DB\")\n" ++
      "type Db struct \x7b\n\tHost string\n\x7d\n"
    let generator : Generator := ⟨default, ⟨WiringTemplate.standardParts⟩, .idle⟩
    let mod : Go.Module := ⟨"example.com/shop"⟩
    ∃ first second marked descriptors,
      Go.parseSource ⟨"a/config/db.go"⟩ source = .ok first ∧
      Go.parseSource ⟨"b/config/db.go"⟩ source = .ok second ∧
      generator.marked ⟨⟨"."⟩, some mod, [first, second]⟩ = .ok marked ∧
      generator.descriptors ⟨⟨"."⟩, some mod, [first, second]⟩ = .ok descriptors ∧
      (generator.foreignStructs marked).map MarkedType.dir = [⟨"a/config"⟩, ⟨"b/config"⟩] ∧
      descriptors.map Descriptor.specType = ["config.Db", "config.Db"] ∧
      ¬generator.Unambiguous ⟨⟨"."⟩, some mod, [first, second]⟩ mod marked descriptors := by
  intro source generator mod
  let decl (dir : Path) : Go.TypeDecl :=
    ⟨"config", dir, "Db", "@app-cfg (prefix:\"DB\")", .struct, [⟨"Host", ""⟩]⟩
  let struct (dir : Path) : MarkedType :=
    ⟨"@app-cfg", "config", "Db", dir, ⟨[("prefix", "DB")]⟩, .struct, [⟨"Host", ⟨[]⟩⟩]⟩
  let descriptor : Descriptor := ⟨"", "DB", "config.Db", [⟨"DB_HOST", ""⟩]⟩
  refine ⟨⟨⟨"a/config/db.go"⟩, "config", [decl ⟨"a/config"⟩]⟩,
    ⟨⟨"b/config/db.go"⟩, "config", [decl ⟨"b/config"⟩]⟩,
    [struct ⟨"a/config"⟩, struct ⟨"b/config"⟩], [descriptor, descriptor],
    by decide +kernel, by decide +kernel, by decide +kernel, by decide +kernel, by decide +kernel,
    rfl, ?_⟩
  intro unambiguous
  have first : (struct ⟨"a/config"⟩, descriptor) ∈
      ([struct ⟨"a/config"⟩, struct ⟨"b/config"⟩].filter MarkedType.isStruct).zip
        [descriptor, descriptor] := by decide +kernel
  have second : (struct ⟨"b/config"⟩, descriptor) ∈
      ([struct ⟨"a/config"⟩, struct ⟨"b/config"⟩].filter MarkedType.isStruct).zip
        [descriptor, descriptor] := by decide +kernel
  exact unambiguous.references _ first _ second (by decide +kernel) (by decide +kernel)
    (by decide +kernel) rfl

end Generator
end ConfigWiring
