import ConfigWiring.Project.Loading
import ConfigWiring.Proofs.FileTree.Growth

/-!
# Source listings behind a change

Putting a file or a new directory somewhere below the directory of a project changes the listing
of its sources at one place only: the file may be listed there, with its new bytes, and every
other source stays where it is in the order.
-/

namespace ConfigWiring

/-! ## Sorting -/

section Sorting

variable {element : Type} {le : element -> element -> Bool}

/-- Sorting and leaving elements out may be done in either order. -/
theorem mergeSort_filter
    (trans : ∀ first second third, le first second -> le second third -> le first third)
    (total : ∀ first second, le first second || le second first)
    (keep : element -> Bool)
    (elements : List element) :
    (elements.filter keep).mergeSort le = (elements.mergeSort le).filter keep := by
  -- Sorting with one more element in front puts it between those that do not fit behind it and
  -- those that do, and only one cut has this property.
  have cut (first : element) (rest : List element) :
      ∃ front back, (first :: rest).mergeSort le = front ++ first :: back ∧
        rest.mergeSort le = front ++ back ∧ (∀ other ∈ front, le first other = false) ∧
          ∀ other ∈ back, le first other = true := by
    obtain ⟨front, back, sorted, sortedRest, outside⟩ := List.mergeSort_cons trans total first rest
    refine ⟨front, back, sorted, sortedRest, by simpa using outside, ?_⟩
    have ordered := List.pairwise_mergeSort trans total (first :: rest)
    rw [sorted] at ordered
    exact fun other present =>
      List.rel_of_pairwise_cons (List.pairwise_append.1 ordered).2.1 present
  induction elements with
  | nil => simp
  | cons first rest inductionHypothesis =>
      obtain ⟨front, back, sorted, sortedRest, frontOut, backIn⟩ := cut first rest
      rw [sorted, List.filter_append]
      cases kept : keep first with
      | false =>
          rw [List.filter_cons_of_neg (by simp [kept]), List.filter_cons_of_neg (by simp [kept]),
            inductionHypothesis, sortedRest, List.filter_append]
      | true =>
          obtain ⟨front', back', sorted', sortedRest', frontOut', backIn'⟩ :=
            cut first (rest.filter keep)
          rw [inductionHypothesis, sortedRest, List.filter_append] at sortedRest'
          obtain ⟨rfl, rfl⟩ := Text.append_inj_of_forall (le first · = false) sortedRest'
            (fun other present => frontOut other (List.mem_filter.1 present).1)
            (fun other present => by simp [backIn other (List.mem_filter.1 present).1]) frontOut'
            (fun other present => by simp [backIn' other present])
          rw [List.filter_cons_of_pos kept, List.filter_cons_of_pos kept, sorted']

end Sorting

theorem nameLE_trans
    {content : Type}
    (first second third : String × content)
    (before : nameLE first second = true)
    (behind : nameLE second third = true) :
    nameLE first third = true := by
  simp only [nameLE, decide_eq_true_eq] at *
  exact String.le_trans before behind

theorem nameLE_total
    {content : Type}
    (left right : String × content) :
    (nameLE left right || nameLE right left) = true := by
  simpa [nameLE] using String.le_total left.1 right.1

/-! ## Listings -/

/-- Whether a source below a directory stands elsewhere than at a place. -/
def isApart (root target : Place) (source : Place × ByteArray) : Bool := root ++ source.1 != target

/-- Two listings of the sources below a directory differ at one place only, and what the later
one adds to the other is a file of the given bytes there. -/
structure DifferAt
    (root target : Place)
    (bytes : ByteArray)
    (before after : List (Place × ByteArray)) : Prop where
  /-- The sources elsewhere are the same, in the same order. -/
  kept : after.filter (isApart root target) = before.filter (isApart root target)
  /-- A further source stands at the place and has the bytes. -/
  mem_after : ∀ source ∈ after, source ∈ before ∨ root ++ source.1 = target ∧ source.2 = bytes

namespace DifferAt

variable {root target : Place} {bytes : ByteArray} {before middle after : List (Place × ByteArray)}

theorem refl (listing : List (Place × ByteArray)) : DifferAt root target bytes listing listing :=
  ⟨rfl, fun _ present => .inl present⟩

theorem trans
    (first : DifferAt root target bytes before middle)
    (second : DifferAt root target bytes middle after) :
    DifferAt root target bytes before after := by
  refine ⟨second.kept.trans first.kept, fun source present => ?_⟩
  rcases second.mem_after source present with earlier | new
  · exact first.mem_after source earlier
  · exact .inr new

/-- The listings of an outer directory differ where those of an inner one do. -/
theorem under
    {name : String}
    (inner : DifferAt (root ++ [name]) target bytes before after) :
    DifferAt root target bytes (before.map fun source => (name :: source.1, source.2))
      (after.map fun source => (name :: source.1, source.2)) := by
  have apart : isApart root target ∘ (fun source => (name :: source.1, source.2)) =
      isApart (root ++ [name]) target := by
    funext source
    simp [isApart]
  refine ⟨?_, ?_⟩
  · rw [List.filter_map, List.filter_map, apart, inner.kept]
  · intro source present
    obtain ⟨source, presentBelow, rfl⟩ := List.mem_map.1 present
    rcases inner.mem_after source presentBelow with earlier | ⟨place, new⟩
    · exact .inl (List.mem_map_of_mem earlier)
    · exact .inr ⟨by simpa using place, new⟩

end DifferAt

namespace FileNodes

variable {root target : Place} {bytes : ByteArray}

/-- The sources below the entry of a name; none if there is no such entry. -/
def sourcesOf (name : String) (entries : FileNodes) : List (Place × ByteArray) :=
  match entries.get? name with
  | some node => node.sources name
  | none => []

/-- The named listings of the entries with the sources at one place left out. -/
def listingsApart (root target : Place) (entries : FileNodes) :
    List (String × List (Place × ByteArray)) :=
  entries.sourcesByName.map fun entry => (entry.1, entry.2.filter (isApart root target))

/-- The listing of a directory with the sources at one place left out is put together from those
of its entries that have any. -/
theorem filter_sources (root target : Place) (entries : FileNodes) :
    entries.sources.filter (isApart root target) =
      (((entries.listingsApart root target).filter (!·.2.isEmpty)).mergeSort nameLE).flatMap
        Prod.snd := by
  have sorted : (entries.listingsApart root target).mergeSort nameLE =
      (entries.sourcesByName.mergeSort nameLE).map fun entry =>
        (entry.1, entry.2.filter (isApart root target)) :=
    (List.map_mergeSort (f := fun (entry : String × List (Place × ByteArray)) =>
      (entry.1, entry.2.filter (isApart root target))) fun _ _ _ _ => rfl).symm
  have dropped (listings : List (String × List (Place × ByteArray))) :
      (listings.filter (!·.2.isEmpty)).flatMap Prod.snd = listings.flatMap Prod.snd := by
    induction listings with
    | nil => rfl
    | cons first rest inductionHypothesis =>
        cases empty : first.2.isEmpty with
        | false => simp [empty, inductionHypothesis]
        | true =>
            have nothing : first.2 = [] := List.isEmpty_iff.1 empty
            simp [nothing, inductionHypothesis]
  rw [mergeSort_filter nameLE_trans nameLE_total, dropped, sorted, List.flatMap_map, sources,
    List.filter_flatMap]

@[simp] theorem not_mem_sources_nil (source : Place × ByteArray) : source ∉ nil.sources := by
  simp [sources, sourcesByName]

@[simp] theorem mem_sources_cons
    {name : String}
    {node : FileNode}
    {rest : FileNodes}
    {source : Place × ByteArray} :
    source ∈ (cons name node rest).sources ↔
      source ∈ node.sources name ∨ source ∈ rest.sources := by
  simp [sources, sourcesByName]

/-- Giving a name another entry changes no named listing that is left with sources once those
at one place are left out. -/
theorem listingsApart_put
    {entries : FileNodes}
    {name : String}
    {node : FileNode}
    (there : DifferAt root target bytes (entries.sourcesOf name) (node.sources name)) :
    ((entries.put name node).listingsApart root target).filter (!·.2.isEmpty) =
      (entries.listingsApart root target).filter (!·.2.isEmpty) := by
  match entries with
  | .nil =>
      have nothing : (node.sources name).filter (isApart root target) = [] := there.kept
      simp [put, listingsApart, sourcesByName, nothing]
  | .cons first old rest =>
      by_cases here : first = name
      · subst here
        have kept : (node.sources first).filter (isApart root target) =
            (old.sources first).filter (isApart root target) := by
          simpa [sourcesOf, get?] using there.kept
        simp [put, listingsApart, sourcesByName, kept]
      · have thereRest : DifferAt root target bytes (rest.sourcesOf name) (node.sources name) := by
          simpa [sourcesOf, get?, here] using there
        have further := listingsApart_put thereRest
        simp only [listingsApart] at further
        simp only [put, if_neg here, listingsApart, sourcesByName, List.map_cons, List.filter_cons,
          further]

/-- Giving a name another entry lists nothing new but what that entry lists. -/
theorem mem_sources_put
    {entries : FileNodes}
    {name : String}
    {node : FileNode}
    {source : Place × ByteArray}
    (present : source ∈ (entries.put name node).sources) :
    source ∈ entries.sources ∨ source ∈ node.sources name := by
  match entries with
  | .nil => simpa [put] using present
  | .cons first old rest =>
      rw [put] at present
      split at present
      · rcases mem_sources_cons.1 present with new | earlier
        · exact .inr new
        · exact .inl (mem_sources_cons.2 (.inr earlier))
      · rcases mem_sources_cons.1 present with earlier | further
        · exact .inl (mem_sources_cons.2 (.inl earlier))
        · exact (mem_sources_put further).imp_left fun earlier => mem_sources_cons.2 (.inr earlier)

theorem mem_sources_of_mem_sourcesOf
    {entries : FileNodes}
    {name : String}
    {source : Place × ByteArray}
    (present : source ∈ entries.sourcesOf name) :
    source ∈ entries.sources := by
  match entries with
  | .nil => simp [sourcesOf] at present
  | .cons first old rest =>
      rw [mem_sources_cons]
      by_cases here : first = name
      · subst here
        exact .inl (by simpa [sourcesOf, get?] using present)
      · exact .inr (mem_sources_of_mem_sourcesOf (by simpa [sourcesOf, get?, here] using present))

/-- Giving a name another entry changes the listing of the directory where it changes that of
the entry. -/
theorem differAt_put
    {entries : FileNodes}
    {name : String}
    {node : FileNode}
    (there : DifferAt root target bytes (entries.sourcesOf name) (node.sources name)) :
    DifferAt root target bytes entries.sources (entries.put name node).sources where
  kept := by rw [filter_sources, filter_sources, listingsApart_put there]
  mem_after source present := by
    rcases mem_sources_put present with earlier | new
    · exact .inl earlier
    · rcases there.mem_after source new with earlier | place
      · exact .inl (mem_sources_of_mem_sourcesOf earlier)
      · exact .inr place

end FileNodes

namespace FileNode

variable {root target : Place} {bytes : ByteArray}

/-- Putting an entry under a name of a directory further down changes the listing where it
changes that of the entry. -/
theorem differAt_modifyAt
    {node : FileNode}
    {place : Place}
    {name : String}
    {entry : FileNode}
    (there : ∀ mode entries, node.at? place = some (directory mode entries) ->
      DifferAt (root ++ place) target bytes (entries.sourcesOf name) (entry.sources name)) :
    DifferAt root target bytes node.entries.sources
      (node.modifyAt (·.put name entry) place).entries.sources := by
  induction place generalizing node root with
  | nil =>
      cases node with
      | file | link => exact .refl _
      | directory mode entries =>
          have below := there mode entries rfl
          rw [List.append_nil] at below
          exact FileNodes.differAt_put below
  | cons key keys inductionHypothesis =>
      cases node with
      | file | link => exact .refl _
      | directory mode entries =>
          rw [modifyAt]
          cases found : entries.get? key with
          | none => exact .refl _
          | some inner =>
              refine FileNodes.differAt_put ?_
              have listed : FileNodes.sourcesOf key (directory mode entries).entries =
                  inner.sources key := by
                simp [FileNodes.sourcesOf, FileNode.entries, found]
              rw [listed]
              have below : DifferAt (root ++ [key]) target bytes inner.entries.sources
                  (inner.modifyAt (·.put name entry) keys).entries.sources := by
                apply inductionHypothesis
                intro mode' entries' at_keys
                have at_place : (directory mode entries).at? (key :: keys) =
                    some (directory mode' entries') := by
                  simpa [at?, FileNode.entries, found] using at_keys
                simpa using there mode' entries' at_place
              cases inner with
              | file | link => cases keys <;> exact .refl _
              | directory innerMode innerEntries =>
                  obtain ⟨after, changed⟩ : ∃ after,
                      (directory innerMode innerEntries).modifyAt (·.put name entry) keys =
                        directory innerMode after := by
                    cases keys with
                    | nil => exact ⟨_, rfl⟩
                    | cons next others =>
                        rw [modifyAt]
                        cases innerEntries.get? next <;> exact ⟨_, rfl⟩
                  rw [changed] at below ⊢
                  simp only [sources]
                  split
                  · exact .refl _
                  · exact below.under

/-- A change at a place below another one changes what stands there. -/
theorem at?_modifyAt_append
    (node : FileNode)
    (place rest : Place)
    (change : FileNodes -> FileNodes) :
    (node.modifyAt change (place ++ rest)).at? place =
      (node.at? place).map fun inner => inner.modifyAt change rest := by
  induction place generalizing node with
  | nil => rfl
  | cons key keys inductionHypothesis =>
      cases node with
      | file | link => rfl
      | directory mode entries =>
          rw [List.cons_append, modifyAt]
          cases found : entries.get? key with
          | none => simp [at?, FileNode.entries, found]
          | some inner => simp [at?, FileNode.entries, found, inductionHypothesis]

end FileNode

namespace FileTree

open Project

variable {tree files : FileTree} {root place target : Place} {name : String} {bytes : ByteArray}

/-- Putting an entry somewhere outside of the path to a directory changes the listing of its
sources where it changes that of the entry. -/
theorem differAt_put
    {entry : FileNode}
    (outside : ¬place ++ [name] <+: root)
    (there : ∀ mode entries, tree.at? place = some (.directory mode entries) ->
      DifferAt place target bytes (entries.sourcesOf name) (entry.sources name)) :
    DifferAt root target bytes (entriesAt tree root).sources
      (entriesAt (tree.put place name entry) root).sources := by
  unfold entriesAt
  by_cases below : root <+: place
  · obtain ⟨rest, rfl⟩ := below
    have changed : (tree.put (root ++ rest) name entry).at? root =
        (tree.at? root).map fun inner => inner.modifyAt (·.put name entry) rest :=
      FileNode.at?_modifyAt_append _ _ _ _
    rw [changed]
    cases found : tree.at? root with
    | none => exact .refl _
    | some node =>
        refine FileNode.differAt_modifyAt fun mode entries at_rest => there mode entries ?_
        unfold at? at found ⊢
        rw [FileNode.at?_append, found, Option.bind_some, at_rest]
  · have unchanged : (tree.put place name entry).at? root = tree.at? root :=
      at?_put_of_apart outside below
    rw [unchanged]
    exact .refl _

/-- What stands under a name of a directory. -/
theorem at?_concat
    {mode : Nat}
    {entries : FileNodes}
    (there : tree.at? place = some (.directory mode entries))
    (name : String) :
    tree.at? (place ++ [name]) = entries.get? name := by
  unfold at? at there ⊢
  rw [FileNode.at?_append, there, Option.bind_some]
  cases found : entries.get? name <;> simp [FileNode.at?, FileNode.entries, found]

/-- Where no directory stands under a name, the name lists itself at most, and does so only if it
is the name of a source. -/
theorem sourcesOf_of_free
    {mode : Nat}
    {entries : FileNodes}
    (there : tree.at? place = some (.directory mode entries))
    (free : tree.shapeAt? (place ++ [name]) ≠ some .directory)
    {source : Place × ByteArray}
    (present : source ∈ entries.sourcesOf name) :
    source.1 = [name] ∧ isSourceName name = true := by
  rw [shapeAt?, at?_concat there] at free
  unfold FileNodes.sourcesOf at present
  cases found : entries.get? name with
  | none => simp [found] at present
  | some old =>
      rw [found] at present free
      cases old with
      | file mode' bytes' =>
          simp only [FileNode.sources] at present
          split at present
          · next named =>
              obtain rfl := List.mem_singleton.1 present
              exact ⟨rfl, named⟩
          · cases present
      | link => simp [FileNode.sources] at present
      | directory => exact absurd rfl free

/-- A file that takes the place of anything but a directory is the only source that changes. -/
theorem differAt_put_file
    (outside : ¬place ++ [name] <+: root)
    (free : tree.shapeAt? (place ++ [name]) ≠ some .directory)
    (mode : Nat)
    (bytes : ByteArray) :
    DifferAt root (place ++ [name]) bytes (entriesAt tree root).sources
      (entriesAt (tree.put place name (.file mode bytes)) root).sources := by
  refine differAt_put outside fun outer entries there => ?_
  have listed : ∀ source ∈ (FileNode.file mode bytes).sources name, source = ([name], bytes) := by
    intro source present
    simp only [FileNode.sources] at present
    split at present
    · exact List.mem_singleton.1 present
    · cases present
  refine ⟨?_, fun source present => .inr ?_⟩
  · rw [List.filter_eq_nil_iff.2 fun source present => by simp [listed source present, isApart],
      List.filter_eq_nil_iff.2 fun source present => by
        simp [(sourcesOf_of_free there free present).1, isApart]]
  · rw [listed source present]
    exact ⟨rfl, rfl⟩

/-- A file whose name is not that of a source changes no source if it takes the place of anything
but a directory. -/
theorem differAt_put_file_of_not_source
    (outside : ¬place ++ [name] <+: root)
    (free : tree.shapeAt? (place ++ [name]) ≠ some .directory)
    (foreign : isSourceName name = false)
    (mode : Nat)
    (content : ByteArray) :
    DifferAt root target bytes (entriesAt tree root).sources
      (entriesAt (tree.put place name (.file mode content)) root).sources := by
  refine differAt_put outside fun outer entries there => ?_
  have nothing : entries.sourcesOf name = [] := by
    apply List.eq_nil_iff_forall_not_mem.2
    intro source present
    rw [(sourcesOf_of_free there free present).2] at foreign
    cases foreign
  rw [nothing, FileNode.sources, foreign]
  exact .refl _

/-- Making sure of a directory changes no source of a directory that is there. -/
theorem differAt_ensureDirectory
    (here : tree.shapeAt? root = some .directory)
    (target : Place)
    (bytes : ByteArray)
    (umask : Nat)
    (base : Place)
    (path : Path) :
    (tree.ensureDirectory umask base path).1.shapeAt? root = some .directory ∧
      DifferAt root target bytes (entriesAt tree root).sources
        (entriesAt (tree.ensureDirectory umask base path).1 root).sources := by
  refine ensureDirectory_induction (motive := fun files => files.shapeAt? root = some .directory ∧
    DifferAt root target bytes (entriesAt tree root).sources (entriesAt files root).sources) ?_
    ⟨here, .refl _⟩
  rintro middle place name mode ⟨hereBefore, differ⟩ absent
  have outside : ¬place ++ [name] <+: root := by
    rintro ⟨rest, rfl⟩
    rw [shapeAt?, at?, FileNode.at?_append, ← at?, absent] at hereBefore
    cases hereBefore
  refine ⟨(map_shape_at?_put outside).trans hereBefore, differ.trans ?_⟩
  refine differAt_put outside fun mode entries there => ?_
  have nothing : entries.sourcesOf name = [] := by
    rw [FileNodes.sourcesOf, ← at?_concat there, absent]
  have empty (mode : Nat) : (FileNode.directory mode .nil).sources name = [] := by
    simp [FileNode.sources, FileNodes.sourcesByName]
  rw [nothing, empty]
  exact .refl _

end FileTree
end ConfigWiring
