import ConfigWiring.Proofs.EnvFile.Continuation
import ConfigWiring.Proofs.FileTree.Leaves
import ConfigWiring.Proofs.Generator.Writing
import ConfigWiring.Proofs.Host.Rewriting

/-!
# Permission bits of rewritten files

A file that takes the place of another one is made with the permission bits of that one, and the
umask takes its bits away from a file that is made.  So a rewrite keeps the permission bits exactly
if they have none in common with the umask.
-/

namespace ConfigWiring

namespace FileTree

variable {tree : FileTree} {base place start found found' : Place} {path : Path} {name : String}
  {confined : Option Place} {links left : Nat} {steps back : List PathStep}

/-- Where something stands under a name there is a directory that holds it. -/
theorem shapeAt?_eq_directory_of_concat
    {shape : Shape}
    (there : tree.shapeAt? (place ++ [name]) = some shape) :
    tree.shapeAt? place = some .directory := by
  refine Classical.byContradiction fun free => ?_
  rw [shapeAt?_append_of_free free (by simp)] at there
  cases there

/-- Steps that lead from a directory to what is none lead to no other place, and no steps can be
taken behind them. -/
theorem Leads.ends
    (leads : tree.Leads confined links place steps found)
    (free : tree.shapeAt? found ≠ some .directory)
    (here : tree.shapeAt? place = some .directory)
    (further : tree.Leads confined left place (steps ++ back) found') :
    back = [] ∧ found' = found := by
  -- Both passages take the same steps, through the same links, as long as the first one goes on.
  induction leads generalizing left with
  | done => exact absurd here free
  | stay _ inductionHypothesis =>
      cases further with
      | stay rest => exact inductionHypothesis free here rest
  | @up _ place _ _ _ _ inductionHypothesis =>
      have above := shapeAt?_eq_directory_of_above (List.dropLast_prefix place) here
      cases further with
      | up _ rest => exact inductionHypothesis free above rest
  | @directory _ _ _ steps _ _ shape _ inductionHypothesis =>
      rw [List.cons_append] at further
      generalize all : steps ++ back = whole at further
      cases further with
      | directory _ _ rest => exact inductionHypothesis free shape (all ▸ rest)
      | link _ other => simp [shape] at other
      | last _ nothing => simp [shape] at nothing
  | @link _ place _ steps _ _ _ shape _ _ inductionHypothesis =>
      rw [List.cons_append] at further
      generalize all : steps ++ back = whole at further
      cases further with
      | directory _ other => simp [shape] at other
      | link _ same _ rest =>
          cases shape.symm.trans same
          have root := shapeAt?_eq_directory_of_above (List.nil_prefix (l := place)) here
          refine inductionHypothesis free ?_ (by rwa [← all, ← List.append_assoc] at rest)
          split
          · exact root
          · exact here
      | last _ nothing => simp [shape] at nothing
  | last _ nothing =>
      rw [List.singleton_append] at further
      cases further with
      | directory _ other => simp [other] at nothing
      | link _ other => simp [other] at nothing
      | last => exact ⟨rfl, rfl⟩

/-- Steps that end with a name of something lead to a directory in front of that name. -/
theorem exists_follow_stay
    (followed : tree.follow confined links start (steps ++ [.into name]) = .ok found)
    (present : tree.shapeAt? found ≠ none) :
    ∃ place, tree.follow confined links start (steps ++ [.stay]) = .ok place ∧
      tree.shapeAt? place = some .directory := by
  rw [follow_eq_ok_iff] at followed
  generalize all : steps ++ [.into name] = whole at followed
  -- The rules are followed up to the one for the last name, which is under a directory.
  have base {links : Nat} {place : Place} {name : String} {shape : Shape}
      (there : tree.shapeAt? (place ++ [name]) = some shape) :
      ∃ found, tree.follow confined links place ([] ++ [.stay]) = .ok found ∧
        tree.shapeAt? found = some .directory :=
    ⟨place, by rw [List.nil_append, FileTree.follow, FileTree.follow],
      shapeAt?_eq_directory_of_concat there⟩
  induction followed generalizing steps with
  | done => simp at all
  | stay _ inductionHypothesis =>
      rcases List.append_eq_cons_iff.1 all with ⟨rfl, same⟩ | ⟨front, rfl, rfl⟩
      · cases same
      · rw [List.cons_append, FileTree.follow]
        exact inductionHypothesis present rfl
  | up within _ inductionHypothesis =>
      rcases List.append_eq_cons_iff.1 all with ⟨rfl, same⟩ | ⟨front, rfl, rfl⟩
      · cases same
      · rw [List.cons_append, FileTree.follow, if_neg within]
        exact inductionHypothesis present rfl
  | directory short shape _ inductionHypothesis =>
      rcases List.append_eq_cons_iff.1 all with ⟨rfl, same⟩ | ⟨front, rfl, rfl⟩
      · cases same
        exact base shape
      · rw [List.cons_append, follow_directory short shape]
        exact inductionHypothesis present rfl
  | link short shape allowed _ inductionHypothesis =>
      rcases List.append_eq_cons_iff.1 all with ⟨rfl, same⟩ | ⟨front, rfl, rfl⟩
      · cases same
        exact base shape
      · rw [List.cons_append, follow_link short shape allowed, ← List.append_assoc]
        exact inductionHypothesis present (List.append_assoc _ _ _)
  | last _ free =>
      rcases List.append_eq_cons_iff.1 all with ⟨rfl, same⟩ | ⟨front, rfl, same⟩
      · cases same
        obtain ⟨shape, there⟩ := Option.ne_none_iff_exists'.1 present
        exact base there
      · simp at same

/-- What it takes to lead to a file. -/
theorem resolve_eq_file
    {mode : Nat}
    {bytes : ByteArray}
    (leads : tree.resolve base path = .ok (found, .file mode bytes)) :
    tree.follow none maxLinks (if path.isAbsolute then [] else base) path.steps = .ok found ∧
      tree.shapeAt? found = some .file := by
  unfold resolve at leads
  split at leads
  · cases leads
  · next place located =>
      split at leads
      · next node there =>
          cases leads
          refine ⟨?_, by rw [shapeAt?, there]; rfl⟩
          unfold locate locateSteps at located
          split at located
          · cases located
          · split at located
            · cases located
            · split at located
              · cases located
              · exact located
      · cases leads

/-! ## Permission bits -/

/-- A umask takes nothing away from permission bits exactly if it has none of them. -/
theorem masked_eq_self_iff
    {mode : Nat}
    (bits : mode ≤ 0o7777)
    (umask : Nat) :
    masked umask mode = mode ↔ mode &&& umask = 0 := by
  have high {bit : Nat} (far : 12 ≤ bit) : mode.testBit bit = false :=
    Nat.testBit_lt_two_pow (Nat.lt_of_le_of_lt bits (Nat.pow_le_pow_right (n := 2) (by decide) far))
  have all : (0o7777 : Nat) = 2 ^ 12 - 1 := by decide
  have bitwise {left right : Nat} :
      left = right ↔ ∀ bit, left.testBit bit = right.testBit bit :=
    ⟨fun same _ => by rw [same], Nat.eq_of_testBit_eq⟩
  rw [masked, all, bitwise, bitwise]
  refine forall_congr' fun bit => ?_
  simp only [Nat.testBit_and, Nat.testBit_xor, Nat.testBit_two_pow_sub_one, Nat.zero_testBit]
  by_cases near : bit < 12
  · cases mode.testBit bit <;> cases umask.testBit bit <;> simp [near]
  · simp [high (Nat.le_of_not_lt near)]

/-- The directory of a path that leads to a file opens. -/
theorem openDirectory_of_resolve
    {opened : Place}
    {files : FileTree}
    {mode : Nat}
    {bytes : ByteArray}
    (leads : tree.resolve base path = .ok (found, .file mode bytes))
    (last : path.nameSteps.getLast? = some (.into name))
    (unslashed : path.endsInSlash = false)
    (opens : files.openDirectory base path.directory = .ok opened) :
    ∃ place, tree.openDirectory base path.directory = .ok place := by
  obtain ⟨followed, file⟩ := resolve_eq_file leads
  rw [Path.steps_of_getLast? last unslashed] at followed
  obtain ⟨place, reached, directory⟩ := exists_follow_stay followed (by simp [file])
  obtain ⟨moves, absolute⟩ := Path.directory_of_getLast? last
  rw [follow_moves, ← moves, ← follow_moves, ← absolute] at reached
  obtain ⟨mode, entries, there⟩ := shapeAt?_eq_directory.1 directory
  refine ⟨place, ?_⟩
  rw [openDirectory_eq_follow opens, follow_of_follow_stay reached]
  simp only [there]

end FileTree

namespace Host

variable {host behind : Host} {path : Path} {text : String} {found : Place} {mode : Nat}
  {bytes : ByteArray}

/-- A file that replaces another one has the permission bits of that one without those that the
umask takes away, and the path leads to it. -/
theorem modeOf?_of_replaceFile
    (leads : host.files.resolve host.place path = .ok (found, .file mode bytes))
    (replaced : host.replaceFile path text = (.ok (), behind)) :
    behind.files.modeOf? host.place path = some (FileTree.masked host.umask mode) := by
  obtain ⟨files, place, name, ensured, located, unslashed, free, rfl⟩ := replaceFile_eq_ok replaced
  obtain ⟨ends, followed⟩ := FileTree.locateName_eq_ok_iff.1 located
  obtain ⟨_, opensBehind⟩ := FileTree.openDirectory_of_ensureDirectory ensured
  obtain ⟨opened, opens⟩ :=
    FileTree.openDirectory_of_resolve leads ends.last unslashed opensBehind
  -- The directory is there already, so the file is put into the tree as it was.
  rw [FileTree.ensureDirectory_of_openDirectory _ opens] at ensured
  cases ensured
  obtain rfl := FileTree.eq_of_openDirectory_of_locateName opens located
  have directory := (FileTree.openDirectory_eq_ok opens).2
  have kept : host.files.modeToKeep host.place path = mode := by rw [FileTree.modeToKeep, leads]
  rw [kept]
  -- The steps to the directory do not lead through the name, which leads to the file.
  obtain ⟨whole, file⟩ := FileTree.resolve_eq_file leads
  rw [Path.steps_of_getLast? ends.last unslashed] at whole
  obtain ⟨left, further⟩ := FileTree.follow_append followed
  rw [further, FileTree.follow_eq_ok_iff] at whole
  obtain ⟨outer, entries, there⟩ := FileTree.shapeAt?_eq_directory.1 directory
  rcases FileTree.follow_put_file free followed directory (FileTree.masked host.umask mode)
    text.toUTF8 with same | ⟨⟨_, back, through⟩, _⟩
  · have resolved := FileTree.resolve_of_file ends unslashed same (FileTree.at?_put there name _)
    rw [FileTree.modeOf?, resolved]
  · have ended := whole.ends (by simp [file]) directory (FileTree.follow_eq_ok_iff.1 through)
    rw [← ended.2, directory] at file
    cases file

/-- A rewrite of a file keeps its permission bits exactly if the umask has none of them, whether
the file is rewritten as the generated one, before it is formatted, or as the env file, which is
not rewritten if nothing is added. -/
theorem keeps_permissions_iff
    (leads : host.files.resolve host.place path = .ok (found, .file mode bytes))
    (bits : mode ≤ 0o7777) :
    (∀ text behind, host.replaceFile path text = (.ok (), behind) ->
        (behind.files.modeOf? host.place path = some mode ↔ mode &&& host.umask = 0)) ∧
      (∀ (generator : Generator) text count behind,
        (generator.write path text count).on host = (.ok (), behind) ->
          ∃ written : Host, (generator.formatTarget path).on
              (written.tell [.wiringGenerated path count]) = (.ok (), behind) ∧
            (written.files.modeOf? host.place path = some mode ↔ mode &&& host.umask = 0)) ∧
      ∀ descriptors report behind,
        (EnvFile.synchronize path descriptors).on host = (.ok report, behind) ->
          (behind.files.modeOf? host.place path = some mode ↔
            report.persisted = false ∨ mode &&& host.umask = 0) := by
  have kept (host behind : Host) {text : String}
      (leads : host.files.resolve host.place path = .ok (found, .file mode bytes))
      (replaced : host.replaceFile path text = (.ok (), behind)) :
      behind.files.modeOf? host.place path = some mode ↔ mode &&& host.umask = 0 := by
    rw [modeOf?_of_replaceFile leads replaced, Option.some_inj, FileTree.masked_eq_self_iff bits]
  refine ⟨fun text behind => kept host behind leads, ?_, ?_⟩
  · intro generator text count behind wrote
    obtain ⟨_, written, replaced, rest⟩ := Generator.on_bind_eq_ok wrote
    rw [Procedure.on_of] at replaced
    rw [Procedure.on_bind_ok (Generator.on_tell _ written)] at rest
    exact ⟨written, rest, kept host written leads replaced⟩
  · intro descriptors report behind synchronized
    cases EnvFile.synchronizes synchronized with
    | idle =>
        refine iff_of_true ?_ (.inl rfl)
        show host.files.modeOf? host.place path = some mode
        rw [FileTree.modeOf?, leads]
    | @wrote written _ replaced =>
        have rewritten : written.files.modeOf? host.place path = some mode ↔
            mode &&& host.umask = 0 :=
          kept (EnvFile.warned path descriptors host) written leads replaced
        simpa using rewritten

/-- A file that only its owner may use keeps its permission bits, though it is the link to it that
is replaced. -/
theorem keeps_permissions_of_private :
    let host : Host := { (default : Host) with
      files := ⟨.directory 0o755 (.cons ".env" (.link "shared/app.env")
        (.cons "shared" (.directory 0o755 (.cons "app.env" (.file 0o600 "A=1\n".toUTF8) .nil))
          .nil))⟩ }
    ∃ behind, host.replaceFile ⟨".env"⟩ "A=1\nB=2\n" = (.ok (), behind) ∧
      behind.files.modeOf? host.place ⟨".env"⟩ = some 0o600 := by
  intro host
  have ends : FileTree.EndsIn ⟨".env"⟩ ".env" := by decide
  have leads : host.files.resolve host.place ⟨".env"⟩ =
      .ok (["shared", "app.env"], .file 0o600 "A=1\n".toUTF8) := by
    have target : (Path.mk "shared/app.env").steps = [.into "shared", .into "app.env"] := by
      decide
    have relative : (Path.mk "shared/app.env").isAbsolute = false := rfl
    have linked : host.files.Leads none FileTree.maxLinks [] [.into ".env"]
        ["shared", "app.env"] := by
      refine .link (by decide) (show _ = some (Shape.link "shared/app.env") from rfl) (by simp) ?_
      rw [relative, target]
      exact .directory (by decide) rfl (.last (by decide) (.inr rfl))
    have located : host.files.locate host.place ⟨".env"⟩ = .ok ["shared", "app.env"] := by
      rw [FileTree.locate_eq_follow ends.nonempty ends.unended ends.pathShort,
        Path.steps_of_getLast? ends.last (by decide)]
      exact linked.follow
    rw [FileTree.resolve, located]
    rfl
  have opens : host.files.openDirectory host.place (Path.directory ⟨".env"⟩) = .ok [] :=
    openDirectory_dot rfl
  have replaced := replaceFile_of_endsIn ends (by decide) opens (by decide) "A=1\nB=2\n"
  exact ⟨_, replaced, ((keeps_permissions_iff leads (by decide)).1 _ _ replaced).2 (by decide)⟩

/-- A file that its group may change is one that the group may not change behind a rewrite. -/
theorem not_keeps_permissions_of_group_writable :
    ¬∀ (host behind : Host) (path : Path) (found : Place) (mode : Nat) (bytes : ByteArray)
      (text : String), host.files.resolve host.place path = .ok (found, .file mode bytes) ->
        mode ≤ 0o777 -> host.replaceFile path text = (.ok (), behind) ->
          behind.files.modeOf? host.place path = some mode := by
  intro keeps
  let host : Host := { (default : Host) with
    files := ⟨.directory 0o755 (.cons ".env" (.file 0o666 "A=1\n".toUTF8) .nil)⟩ }
  have ends : FileTree.EndsIn ⟨".env"⟩ ".env" := by decide
  have opens : host.files.openDirectory host.place (Path.directory ⟨".env"⟩) = .ok [] :=
    openDirectory_dot rfl
  have leads : host.files.resolve host.place ⟨".env"⟩ =
      .ok ([".env"], .file 0o666 "A=1\n".toUTF8) :=
    FileTree.resolve_of_file ends (by decide) (FileTree.Leads.stay (.done _ _)).follow rfl
  have replaced := replaceFile_of_endsIn ends (by decide) opens (by decide) "A=1\nB=2\n"
  have kept := keeps _ _ _ _ _ _ _ leads (by decide) replaced
  rw [modeOf?_of_replaceFile leads replaced] at kept
  exact absurd kept (by decide)

end Host
end ConfigWiring
