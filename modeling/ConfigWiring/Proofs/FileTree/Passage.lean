import ConfigWiring.Proofs.FileTree.Replacement

/-!
# Where steps lead

Steps that lead somewhere go from directory to directory, through the targets of links, until none
is left or the last one names what is no directory.  There is one rule for each step and kind of
entry, and what holds of all successful passages is shown rule by rule.
-/

namespace ConfigWiring
namespace FileTree

variable {tree other : FileTree} {confined : Option Place} {links : Nat} {start place found : Place}
  {steps : List PathStep} {name : String}

/-- The passages of a tree: steps from a directory, with a number of links that they may go through,
and the place where they end. -/
inductive Leads (tree : FileTree) (confined : Option Place) :
    Nat -> Place -> List PathStep -> Place -> Prop
  | done (links : Nat) (place : Place) : Leads tree confined links place [] place
  | stay {links : Nat} {place found : Place} {steps : List PathStep}
      (rest : Leads tree confined links place steps found) :
      Leads tree confined links place (.stay :: steps) found
  | up {links : Nat} {place found : Place} {steps : List PathStep}
      (within : confined ≠ some place)
      (rest : Leads tree confined links place.dropLast steps found) :
      Leads tree confined links place (.up :: steps) found
  | directory {links : Nat} {place found : Place} {steps : List PathStep} {name : String}
      (short : name.utf8ByteSize ≤ maxNameSize)
      (shape : tree.shapeAt? (place ++ [name]) = some .directory)
      (rest : Leads tree confined links (place ++ [name]) steps found) :
      Leads tree confined links place (.into name :: steps) found
  | link {links : Nat} {place found : Place} {steps : List PathStep} {name target : String}
      (short : name.utf8ByteSize ≤ maxNameSize)
      (shape : tree.shapeAt? (place ++ [name]) = some (.link target))
      (allowed : (Path.mk target).isAbsolute = true -> confined = none)
      (rest : Leads tree confined links (if (Path.mk target).isAbsolute then [] else place)
        ((Path.mk target).steps ++ steps) found) :
      Leads tree confined (links + 1) place (.into name :: steps) found
  /-- The last name is that of a file or of nothing. -/
  | last {links : Nat} {place : Place} {name : String}
      (short : name.utf8ByteSize ≤ maxNameSize)
      (free : tree.shapeAt? (place ++ [name]) = none ∨
        tree.shapeAt? (place ++ [name]) = some .file) :
      Leads tree confined links place [.into name] (place ++ [name])

/-- A step to a directory goes on from there. -/
theorem follow_directory
    (short : name.utf8ByteSize ≤ maxNameSize)
    (shape : tree.shapeAt? (place ++ [name]) = some .directory) :
    tree.follow confined links place (.into name :: steps) =
      tree.follow confined links (place ++ [name]) steps := by
  rw [follow_into, if_neg (Nat.not_lt.2 short), shape]

/-- A step to a link goes on with the steps of its target. -/
theorem follow_link
    {target : String}
    (short : name.utf8ByteSize ≤ maxNameSize)
    (shape : tree.shapeAt? (place ++ [name]) = some (.link target))
    (allowed : (Path.mk target).isAbsolute = true -> confined = none) :
    tree.follow confined (links + 1) place (.into name :: steps) =
      tree.follow confined links (if (Path.mk target).isAbsolute then [] else place)
        ((Path.mk target).steps ++ steps) := by
  rw [follow_into, if_neg (Nat.not_lt.2 short), shape]
  by_cases absolute : (Path.mk target).isAbsolute = true
  · simp [absolute, allowed absolute]
  · simp [absolute]

theorem Leads.follow
    (leads : tree.Leads confined links place steps found) :
    tree.follow confined links place steps = .ok found := by
  induction leads with
  | done => rw [FileTree.follow]
  | stay _ inductionHypothesis => rw [FileTree.follow, inductionHypothesis]
  | up within _ inductionHypothesis => rw [FileTree.follow, if_neg within, inductionHypothesis]
  | directory short shape _ inductionHypothesis =>
      rw [follow_directory short shape, inductionHypothesis]
  | link short shape allowed _ inductionHypothesis =>
      rw [follow_link short shape allowed, inductionHypothesis]
  | last short free =>
      rw [follow_into, if_neg (Nat.not_lt.2 short)]
      rcases free with absent | file
      · rw [absent]
        rfl
      · rw [file]
        rfl

/-- Steps are followed to a place exactly if they lead there. -/
theorem follow_eq_ok_iff :
    tree.follow confined links place steps = .ok found ↔
      tree.Leads confined links place steps found := by
  refine ⟨fun followed => ?_, Leads.follow⟩
  induction links using Nat.strongRecOn generalizing place steps with
  | ind links linkHypothesis =>
    induction steps generalizing place with
    | nil =>
        rw [FileTree.follow] at followed
        cases followed
        exact .done _ _
    | cons step steps stepHypothesis =>
      cases step with
      | stay =>
          rw [FileTree.follow] at followed
          exact .stay (stepHypothesis followed)
      | up =>
          rw [FileTree.follow] at followed
          split at followed
          · cases followed
          · next within => exact .up within (stepHypothesis followed)
      | into name =>
          rw [follow_into] at followed
          by_cases long : name.utf8ByteSize > maxNameSize
          · rw [if_pos long] at followed
            cases followed
          rw [if_neg long] at followed
          have short := Nat.le_of_not_lt long
          -- Only the last step may go to a file or to nothing.
          have final (free : tree.shapeAt? (place ++ [name]) = none ∨
                tree.shapeAt? (place ++ [name]) = some .file) {fault : FileFault}
              (followed : (if steps.isEmpty then Except.ok (place ++ [name]) else .error fault) =
                .ok found) :
              tree.Leads confined links place (.into name :: steps) found := by
            cases steps with
            | nil =>
                cases followed
                exact .last short free
            | cons => cases followed
          cases shape : tree.shapeAt? (place ++ [name]) with
          | none =>
              simp only [shape] at followed
              exact final (.inl shape) followed
          | some kind =>
              cases kind with
              | file =>
                  simp only [shape] at followed
                  exact final (.inr shape) followed
              | directory =>
                  simp only [shape] at followed
                  exact .directory short shape (stepHypothesis followed)
              | link target =>
                  cases links with
                  | zero => simp [shape] at followed
                  | succ links =>
                      have less := Nat.lt_succ_self links
                      simp only [shape] at followed
                      split at followed
                      · next relative =>
                          have relative : ¬(Path.mk target).isAbsolute = true := by
                            simpa using relative
                          refine .link short shape (fun absolute => absurd absolute relative) ?_
                          rw [if_neg relative]
                          exact linkHypothesis links less followed
                      · next absolute =>
                          split at followed
                          · cases followed
                          · next free =>
                              refine .link short shape (fun _ => by simpa using free) ?_
                              rw [if_pos (by simpa using absolute)]
                              exact linkHypothesis links less followed

/-- A path that leads to a directory leads to the same place, with a slash behind it, in every
tree that has the directories and links of its own. -/
theorem Covers.follow
    (covers : tree.Covers other)
    (followed : other.follow confined links start steps = .ok found)
    (directory : other.shapeAt? found = some .directory) :
    tree.follow confined links start (steps ++ [.stay]) = .ok found := by
  rw [follow_eq_ok_iff] at followed ⊢
  induction followed with
  | done links place => exact .stay (.done links place)
  | stay _ inductionHypothesis => exact .stay (inductionHypothesis directory)
  | up within _ inductionHypothesis => exact .up within (inductionHypothesis directory)
  | directory short shape _ inductionHypothesis =>
      exact .directory short (covers _ _ (by simp) shape) (inductionHypothesis directory)
  | link short shape allowed _ inductionHypothesis =>
      have further := inductionHypothesis directory
      rw [List.append_assoc] at further
      exact .link short (covers _ _ (by simp) shape) allowed further
  | last _ free =>
      -- The steps do not end at a file or at nothing, since they end at a directory.
      rw [directory] at free
      simp at free

/-- Steps that stay where they are matter at the end only, where they ask for a directory. -/
theorem follow_moves
    (tree : FileTree)
    (confined : Option Place)
    (links : Nat)
    (start : Place)
    (steps : List PathStep) :
    tree.follow confined links start (steps ++ [.stay]) =
      tree.follow confined links start (PathStep.moves steps ++ [.stay]) := by
  induction links using Nat.strongRecOn generalizing start steps with
  | ind links linkHypothesis =>
    induction steps generalizing start with
    | nil => rfl
    | cons step steps stepHypothesis =>
      cases step with
      | stay =>
          rw [List.cons_append, follow, stepHypothesis]
          rfl
      | up =>
          have moved : PathStep.moves (.up :: steps) = .up :: PathStep.moves steps := rfl
          rw [moved, List.cons_append, List.cons_append, follow, follow, stepHypothesis]
      | into key =>
          have moved : PathStep.moves (.into key :: steps) = .into key :: PathStep.moves steps :=
            rfl
          rw [moved, List.cons_append, List.cons_append, follow_into, follow_into]
          have inner := stepHypothesis (start ++ [key])
          have target (smaller : Nat) (less : smaller < links) (goal : Path) (origin : Place) :
              tree.follow confined smaller origin (goal.steps ++ (steps ++ [.stay])) =
                tree.follow confined smaller origin
                  (goal.steps ++ (PathStep.moves steps ++ [.stay])) := by
            rw [← List.append_assoc, ← List.append_assoc, linkHypothesis smaller less,
              linkHypothesis smaller less _ (_ ++ PathStep.moves steps), PathStep.moves_append,
              PathStep.moves_append, PathStep.moves_moves]
          cases tree.shapeAt? (start ++ [key]) with
          | none => simp
          | some kind =>
              cases kind with
              | file => simp
              | directory => simp only [inner]
              | link goal =>
                  cases links with
                  | zero => rfl
                  | succ links => simp only [target links (Nat.lt_succ_self links)]

/-- What follows the steps to a directory starts there, with the links that are left. -/
theorem follow_append
    {front : List PathStep}
    (followed : tree.follow confined links start (front ++ [.stay]) = .ok place) :
    ∃ left, ∀ back, tree.follow confined links start (front ++ back) =
      tree.follow confined left place back := by
  rw [follow_eq_ok_iff] at followed
  generalize all : front ++ [.stay] = steps at followed
  induction followed generalizing front with
  | done => simp at all
  | @stay links _ _ _ rest inductionHypothesis =>
      rcases List.append_eq_cons_iff.1 all with ⟨rfl, same⟩ | ⟨front, rfl, rfl⟩
      · cases same
        cases rest
        exact ⟨links, fun back => rfl⟩
      · obtain ⟨left, further⟩ := inductionHypothesis rfl
        exact ⟨left, fun back => by rw [List.cons_append, FileTree.follow, further]⟩
  | up within _ inductionHypothesis =>
      rcases List.append_eq_cons_iff.1 all with ⟨rfl, same⟩ | ⟨front, rfl, rfl⟩
      · cases same
      · obtain ⟨left, further⟩ := inductionHypothesis rfl
        exact ⟨left, fun back => by rw [List.cons_append, FileTree.follow, if_neg within, further]⟩
  | directory short shape _ inductionHypothesis =>
      rcases List.append_eq_cons_iff.1 all with ⟨rfl, same⟩ | ⟨front, rfl, rfl⟩
      · cases same
      · obtain ⟨left, further⟩ := inductionHypothesis rfl
        exact ⟨left, fun back => by rw [List.cons_append, follow_directory short shape, further]⟩
  | link short shape allowed _ inductionHypothesis =>
      rcases List.append_eq_cons_iff.1 all with ⟨rfl, same⟩ | ⟨front, rfl, rfl⟩
      · cases same
      · obtain ⟨left, further⟩ := inductionHypothesis (List.append_assoc _ _ _)
        refine ⟨left, fun back => ?_⟩
        rw [List.cons_append, follow_link short shape allowed, ← further, List.append_assoc]
  | last => rcases List.append_eq_cons_iff.1 all with ⟨_, same⟩ | ⟨_, _, same⟩ <;> simp at same

/-- Steps that lead to a directory when one is asked for lead there anyway. -/
theorem follow_of_follow_stay
    (followed : tree.follow confined links start (steps ++ [.stay]) = .ok found) :
    tree.follow confined links start steps = .ok found := by
  obtain ⟨left, further⟩ := follow_append followed
  rw [← List.append_nil steps, further, FileTree.follow]

/-- Steps to a directory and on to a file of it lead to the file. -/
theorem follow_concat
    (followed : tree.follow confined links start (steps ++ [.stay]) = .ok place)
    (short : name.utf8ByteSize ≤ maxNameSize)
    (file : tree.shapeAt? (place ++ [name]) = some .file) :
    tree.follow confined links start (steps ++ [.into name]) = .ok (place ++ [name]) := by
  obtain ⟨left, further⟩ := follow_append followed
  rw [further, follow_eq_ok_iff]
  exact .last short (.inr file)

end FileTree
end ConfigWiring
