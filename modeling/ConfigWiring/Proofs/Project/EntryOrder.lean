import ConfigWiring.Proofs.Project.SourcePlaces

/-!
# Orders of entries

The entries of a directory may be told in any order.  Where the entries of each directory have
different names, trees that differ in such orders only show the same files and links at the same
places, and every path leads to the same place in them.
-/

namespace ConfigWiring

mutual

/-- One entry is another one with the entries of the directories in it in some other order. -/
inductive FileNode.Reordered : FileNode -> FileNode -> Prop
  | file (mode : Nat) (bytes : ByteArray) : FileNode.Reordered (.file mode bytes) (.file mode bytes)
  | link (target : String) : FileNode.Reordered (.link target) (.link target)
  | directory (mode : Nat) {entries others : FileNodes}
      (below : FileNodes.Reordered entries others) :
      FileNode.Reordered (.directory mode entries) (.directory mode others)

/-- The entries of one directory are those of another one in some other order. -/
inductive FileNodes.Reordered : FileNodes -> FileNodes -> Prop
  | nil : FileNodes.Reordered .nil .nil
  | cons (name : String) {node node' : FileNode} {rest rest' : FileNodes}
      (here : FileNode.Reordered node node') (further : FileNodes.Reordered rest rest') :
      FileNodes.Reordered (.cons name node rest) (.cons name node' rest')
  | swap (name name' : String) (node node' : FileNode) (rest : FileNodes) :
      FileNodes.Reordered (.cons name node (.cons name' node' rest))
        (.cons name' node' (.cons name node rest))
  | trans {entries middle others : FileNodes} (before : FileNodes.Reordered entries middle)
      (behind : FileNodes.Reordered middle others) : FileNodes.Reordered entries others

end

mutual

theorem FileNode.Reordered.refl : (node : FileNode) -> node.Reordered node
  | .file mode bytes => .file mode bytes
  | .link target => .link target
  | .directory mode entries => .directory mode (FileNodes.Reordered.refl entries)

theorem FileNodes.Reordered.refl : (entries : FileNodes) -> entries.Reordered entries
  | .nil => .nil
  | .cons name node rest =>
      .cons name (FileNode.Reordered.refl node) (FileNodes.Reordered.refl rest)

end

theorem FileNode.Reordered.trans
    {node middle other : FileNode}
    (before : node.Reordered middle)
    (behind : middle.Reordered other) :
    node.Reordered other := by
  cases before with
  | file mode bytes => exact behind
  | link target => exact behind
  | directory mode below =>
      cases behind with
      | directory _ below' => exact .directory mode (below.trans below')

/-! ## Entries of a name -/

namespace FileNodes

variable {entries others : FileNodes}

/-- The same names have entries in every order. -/
theorem Reordered.get?_eq_none
    (name : String)
    (reordered : entries.Reordered others) :
    others.get? name = none ↔ entries.get? name = none := by
  -- What stands below an entry does not matter here, so nothing is said of single entries.
  refine @FileNodes.Reordered.rec (fun _ _ _ => True)
    (fun entries others _ => others.get? name = none ↔ entries.get? name = none)
    (fun _ _ => trivial) (fun _ => trivial) (fun _ _ _ _ _ => trivial)
    Iff.rfl ?cons ?swap ?trans _ _ reordered
  case cons =>
    intro first node node' rest rest' _ _ _ further
    rw [get?, get?]
    split
    · exact iff_of_false (Option.some_ne_none _) (Option.some_ne_none _)
    · exact further
  case swap =>
    intro first second node node' rest
    simp only [get?]
    split <;> split <;> simp only [reduceCtorEq]
  case trans =>
    intro entries middle others _ _ before behind
    exact behind.trans before

end FileNodes

mutual

/-- To have different names does not depend on the order. -/
theorem FileNode.Reordered.isNamed :
    {node other : FileNode} -> node.Reordered other -> node.isNamed = true -> other.isNamed = true
  | _, _, .file _ _ => id
  | _, _, .link _ => id
  | _, _, .directory _ below => below.isNamed

theorem FileNodes.Reordered.isNamed :
    {entries others : FileNodes} -> entries.Reordered others -> entries.isNamed = true ->
      others.isNamed = true
  | _, _, .nil => id
  | _, _, .cons name here further => by
      simp only [FileNodes.isNamed, Bool.and_eq_true, Option.isNone_iff_eq_none]
      rintro ⟨⟨⟨entry, fresh⟩, nodeNamed⟩, restNamed⟩
      exact ⟨⟨⟨entry, (further.get?_eq_none name).2 fresh⟩, here.isNamed nodeNamed⟩,
        further.isNamed restNamed⟩
  | _, _, .swap name name' node node' rest => by
      simp only [FileNodes.isNamed, FileNodes.get?, Bool.and_eq_true, Option.isNone_iff_eq_none]
      rintro ⟨⟨⟨entry, fresh⟩, nodeNamed⟩, ⟨⟨entry', fresh'⟩, nodeNamed'⟩, restNamed⟩
      have apart : name' ≠ name := by
        rintro rfl
        simp at fresh
      rw [if_neg apart] at fresh
      rw [if_neg apart.symm]
      exact ⟨⟨⟨entry', fresh'⟩, nodeNamed'⟩, ⟨⟨entry, fresh⟩, nodeNamed⟩, restNamed⟩
  | _, _, .trans before behind => fun named => behind.isNamed (before.isNamed named)

end

namespace FileNodes

/-- Where entries have different names, a name stands for the same in every order. -/
theorem Reordered.get?
    (name : String) :
    {entries others : FileNodes} -> entries.Reordered others -> entries.isNamed = true ->
      ∀ node, entries.get? name = some node ->
        ∃ other, others.get? name = some other ∧ node.Reordered other
  | _, _, .nil, _ => by simp
  | _, _, .cons first here further, named => by
      simp only [FileNodes.isNamed, Bool.and_eq_true] at named
      intro node found
      rw [FileNodes.get?] at found ⊢
      split at found
      · next same =>
          cases found
          exact ⟨_, if_pos same, here⟩
      · next other =>
          rw [if_neg other]
          exact Reordered.get? name further named.2 node found
  | _, _, .swap first second firstNode secondNode rest, named => by
      simp only [FileNodes.isNamed, FileNodes.get?, Bool.and_eq_true, Option.isNone_iff_eq_none]
        at named
      have apart : second ≠ first := by
        rintro rfl
        simp at named
      intro node found
      refine ⟨node, ?_, FileNode.Reordered.refl node⟩
      simp only [FileNodes.get?] at found ⊢
      by_cases same : second = name
      · subst same
        rw [if_neg apart.symm, if_pos rfl] at found
        rwa [if_pos rfl]
      · rwa [if_neg same] at found ⊢
  | _, _, .trans before behind, named => by
      intro node found
      obtain ⟨middle, there, first⟩ := Reordered.get? name before named node found
      obtain ⟨other, last, second⟩ := Reordered.get? name behind (before.isNamed named) middle there
      exact ⟨other, last, first.trans second⟩

end FileNodes

/-! ## Places and paths -/

namespace FileNode

variable {node other : FileNode}

/-- What stands in a directory of names has names itself. -/
theorem isNamed_of_at?
    {names : Place}
    {inner : FileNode}
    (named : node.isNamed = true)
    (there : node.at? names = some inner) :
    inner.isNamed = true := by
  induction names generalizing node with
  | nil =>
      cases there
      exact named
  | cons name names inductionHypothesis =>
      rw [at?] at there
      cases node with
      | file | link => simp [entries] at there
      | directory mode entries =>
          obtain ⟨next, found, further⟩ := Option.bind_eq_some_iff.1 there
          exact inductionHypothesis (FileNodes.isNamed_of_get? named found).2 further

/-- The same stands at a place in every order. -/
theorem Reordered.at?
    {names : Place}
    {inner : FileNode}
    (reordered : node.Reordered other)
    (named : node.isNamed = true)
    (there : node.at? names = some inner) :
    ∃ inner', other.at? names = some inner' ∧ inner.Reordered inner' := by
  induction names generalizing node other with
  | nil =>
      cases there
      exact ⟨other, rfl, reordered⟩
  | cons name names inductionHypothesis =>
      rw [FileNode.at?] at there
      obtain ⟨next, found, further⟩ := Option.bind_eq_some_iff.1 there
      cases reordered with
      | file | link => simp [entries] at found
      | directory mode below =>
          obtain ⟨next', found', reordered'⟩ := below.get? name named next found
          obtain ⟨_, nextNamed⟩ := FileNodes.isNamed_of_get? named found
          obtain ⟨inner', there', reorderedInner⟩ :=
            inductionHypothesis reordered' nextNamed further
          refine ⟨inner', ?_, reorderedInner⟩
          rw [FileNode.at?]
          exact Option.bind_eq_some_iff.2 ⟨next', found', there'⟩

theorem Reordered.at?_eq_none
    {names : Place}
    (reordered : node.Reordered other)
    (named : node.isNamed = true)
    (absent : node.at? names = none) :
    other.at? names = none := by
  induction names generalizing node other with
  | nil => cases absent
  | cons name names inductionHypothesis =>
      rw [FileNode.at?] at absent ⊢
      cases reordered with
      | file | link => rfl
      | @directory mode entries others below =>
          cases found : entries.get? name with
          | none =>
              have foundNone : others.get? name = none := (below.get?_eq_none name).2 found
              simp [FileNode.entries, foundNone]
          | some next =>
              obtain ⟨next', found', reordered'⟩ := below.get? name named next found
              simp only [FileNode.entries, found, found', Option.bind_some] at absent ⊢
              exact inductionHypothesis reordered' (FileNodes.isNamed_of_get? named found).2 absent

end FileNode

namespace FileTree

variable {tree other : FileTree} {base place : Place}

/-- One tree is another one with the entries of its directories in some other order. -/
def Reordered (tree other : FileTree) : Prop := tree.root.Reordered other.root

variable (reordered : tree.Reordered other) (named : tree.root.isNamed = true)

include reordered named

theorem Reordered.shapeAt?
    (place : Place) :
    other.shapeAt? place = tree.shapeAt? place := by
  unfold FileTree.shapeAt? FileTree.at?
  cases found : tree.root.at? place with
  | none => rw [FileNode.Reordered.at?_eq_none reordered named found]
  | some node =>
      obtain ⟨node', found', same⟩ := FileNode.Reordered.at? reordered named found
      rw [found']
      cases same <;> rfl

theorem Reordered.leafAt?
    (place : Place) :
    other.leafAt? place = tree.leafAt? place := by
  unfold FileTree.leafAt? FileTree.at?
  cases found : tree.root.at? place with
  | none => rw [FileNode.Reordered.at?_eq_none reordered named found]
  | some node =>
      obtain ⟨node', found', same⟩ := FileNode.Reordered.at? reordered named found
      rw [found']
      cases same <;> rfl

omit reordered named

/-- Steps go by the shapes of what they meet. -/
theorem follow_eq_of_shapeAt?_eq
    (same : ∀ place, other.shapeAt? place = tree.shapeAt? place)
    (confined : Option Place)
    (links : Nat)
    (start : Place)
    (steps : List PathStep) :
    other.follow confined links start steps = tree.follow confined links start steps := by
  induction links using Nat.strongRecOn generalizing start steps with
  | ind links linkHypothesis =>
    induction steps generalizing start with
    | nil => rw [follow, follow]
    | cons step steps stepHypothesis =>
      cases step with
      | stay => rw [follow, follow, stepHypothesis]
      | up => rw [follow, follow, stepHypothesis]
      | into name =>
          rw [follow_into, follow_into, same]
          cases tree.shapeAt? (start ++ [name]) with
          | none => rfl
          | some kind =>
              cases kind with
              | file => rfl
              | directory => simp only [stepHypothesis]
              | link target =>
                  cases links with
                  | zero => rfl
                  | succ links => simp only [linkHypothesis links (Nat.lt_succ_self links)]

/-- A directory opens by the shape of what its path leads to. -/
theorem openDirectory_eq_locate
    (tree : FileTree)
    (base : Place)
    (path : Path) :
    tree.openDirectory base path =
      (tree.locate base path).bind fun place =>
        match tree.shapeAt? place with
        | none => .error .notFound
        | some .directory => .ok place
        | some _ => .error .notDirectory := by
  unfold openDirectory resolve FileTree.shapeAt?
  cases tree.locate base path with
  | error fault => rfl
  | ok place =>
      cases found : tree.at? place with
      | none => simp [found, Except.bind]
      | some node => cases node <;> simp [found, Except.bind, FileNode.shape]

include reordered named

/-- A path opens the same directory in every order. -/
theorem Reordered.openDirectory
    (base : Place)
    (path : Path) :
    other.openDirectory base path = tree.openDirectory base path := by
  have same := reordered.shapeAt? named
  have located : other.locate base path = tree.locate base path := by
    simp only [locate, locateSteps, follow_eq_of_shapeAt?_eq same]
  simp only [openDirectory_eq_locate, located, same]

/-- The same text is read under a name in every order. -/
theorem Reordered.readNamed
    (place : Place)
    (name : String) :
    other.readNamed place name = tree.readNamed place name := by
  have same := reordered.shapeAt? named
  unfold FileTree.readNamed
  rw [follow_eq_of_shapeAt?_eq same]
  cases tree.follow (some place) maxLinks place [.into name] with
  | error fault => rfl
  | ok place =>
      simp only [FileTree.at?]
      cases found : tree.root.at? place with
      | none => rw [FileNode.Reordered.at?_eq_none reordered named found]
      | some node =>
          obtain ⟨node', found', reorderedNode⟩ := FileNode.Reordered.at? reordered named found
          rw [found']
          cases reorderedNode <;> rfl

end FileTree
end ConfigWiring
