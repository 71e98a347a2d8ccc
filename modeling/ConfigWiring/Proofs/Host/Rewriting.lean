import ConfigWiring.Proofs.FileTree.Growth
import ConfigWiring.Proofs.Host.ReadBack

/-!
# Replacing a file once more

A file that was replaced can be replaced again wherever its directory still opens.  It keeps its
permission bits, so to replace it by the text that it has changes nothing at all.
-/

namespace ConfigWiring

namespace FileTree

variable {tree : FileTree} {base place : Place} {path : Path} {name : String} {umask : Nat}

/-- The bytes of a text are read as the text. -/
theorem textOf_toUTF8 (mode : Nat) (text : String) : textOf (.file mode text.toUTF8) = .ok text := by
  simp only [textOf, fromUTF8?_toUTF8]

/-- A path leads to the file of its last name in the directory that the steps in front of it lead
to. -/
theorem resolve_of_file
    {mode : Nat}
    {bytes : ByteArray}
    (ends : EndsIn path name)
    (unslashed : path.endsInSlash = false)
    (followed : tree.follow none maxLinks (if path.isAbsolute then [] else base)
      (path.nameSteps.dropLast ++ [.stay]) = .ok place)
    (there : tree.at? (place ++ [name]) = some (.file mode bytes)) :
    tree.resolve base path = .ok (place ++ [name], .file mode bytes) := by
  have found : tree.locate base path = .ok (place ++ [name]) := by
    rw [locate_eq_follow ends.nonempty ends.unended ends.pathShort,
      Path.steps_of_getLast? ends.last unslashed]
    exact follow_concat followed ends.short (by rw [shapeAt?, there]; rfl)
  rw [resolve, found]
  simp only [there]

/-- The text of a file is read through its path. -/
theorem readText_of_file
    {mode : Nat}
    {text : String}
    (ends : EndsIn path name)
    (unslashed : path.endsInSlash = false)
    (followed : tree.follow none maxLinks (if path.isAbsolute then [] else base)
      (path.nameSteps.dropLast ++ [.stay]) = .ok place)
    (there : tree.at? (place ++ [name]) = some (.file mode text.toUTF8)) :
    tree.readText base path = .ok text := by
  rw [readText, resolve_of_file ends unslashed followed there]
  exact textOf_toUTF8 mode text

/-- A path that leads to a file keeps the permission bits of the file. -/
theorem modeToKeep_of_file
    {mode : Nat}
    {bytes : ByteArray}
    (ends : EndsIn path name)
    (unslashed : path.endsInSlash = false)
    (opens : tree.openDirectory base path.directory = .ok place)
    (there : tree.at? (place ++ [name]) = some (.file mode bytes)) :
    tree.modeToKeep base path = mode := by
  have located := locateName_eq_ok_iff.1 (locateName_of_openDirectory ends opens)
  rw [modeToKeep, resolve_of_file ends unslashed located.2 there]

/-- The spelling of a path that opens a directory of one tree is no obstacle in any other. -/
theorem openDirectory_eq_follow
    {path : Path}
    {opened : Place}
    (opens : tree.openDirectory base path = .ok opened)
    (other : FileTree) :
    other.openDirectory base path =
      match other.follow none maxLinks (if path.isAbsolute then [] else base) path.steps with
      | .error fault => .error fault
      | .ok found =>
          match other.at? found with
          | some (.directory _ _) => .ok found
          | some _ => .error .notDirectory
          | none => .error .notFound := by
  have nonempty : path.text.isEmpty = false := by
    refine Bool.eq_false_iff.2 fun obstacle => ?_
    rw [openDirectory, resolve, locate, locateSteps, if_pos obstacle] at opens
    cases opens
  have unended : path.text.toList.contains '\x00' = false := by
    refine Bool.eq_false_iff.2 fun obstacle => ?_
    rw [openDirectory, resolve, locate, locateSteps, nonempty, if_neg (by simp),
      if_pos obstacle] at opens
    cases opens
  have short : ¬path.text.utf8ByteSize > maxPathSize := by
    intro obstacle
    rw [openDirectory, resolve, locate, locateSteps, nonempty, unended, if_neg (by simp),
      if_neg (by simp), if_pos obstacle] at opens
    cases opens
  rw [openDirectory, resolve, locate, locateSteps, nonempty, unended, if_neg (by simp),
    if_neg (by simp), if_neg short]
  cases other.follow none maxLinks (if path.isAbsolute then [] else base) path.steps with
  | error fault => rfl
  | ok found =>
      cases present : other.at? found with
      | none => simp [present]
      | some node => cases node <;> simp [present]

/-- A directory that opens still opens behind a new file, unless its path now ends at a file or
leads through one. -/
theorem openDirectory_put_file
    {path : Path}
    {opened : Place}
    (free : tree.shapeAt? (place ++ [name]) ≠ some .directory)
    (opens : tree.openDirectory base path = .ok opened)
    (mode : Nat)
    (bytes : ByteArray) :
    (tree.put place name (.file mode bytes)).openDirectory base path = .ok opened ∨
      (tree.put place name (.file mode bytes)).openDirectory base path = .error .notDirectory := by
  obtain ⟨followed, directory⟩ := openDirectory_eq_ok opens
  rw [openDirectory_eq_follow opens]
  rcases follow_put_file free followed directory mode bytes with
    same | ⟨_, through | ⟨file, here⟩⟩
  · left
    rcases shapeAt?_put_of_shapeAt? free directory mode bytes with shape | ⟨spot, _⟩
    · obtain ⟨outer, entries, there⟩ := shapeAt?_eq_directory.1 shape
      simp only [same, there]
    · rw [spot] at directory
      exact absurd directory free
  · right
    simp only [through]
  · right
    rw [shapeAt?] at file
    cases there : (tree.put place name (.file mode bytes)).at? (place ++ [name]) with
    | none => simp [there] at file
    | some node => cases node <;> simp_all [FileNode.shape]

@[simp] theorem masked_masked (umask mode : Nat) :
    masked umask (masked umask mode) = masked umask mode := by
  rw [masked, masked, Nat.and_assoc, Nat.and_self]

end FileTree

namespace Host

variable {host behind : Host} {path : Path} {text : String} {place : Place} {name : String}

/-- The place of the last name of a path in the directory of the path, if that opens. -/
def spot? (host : Host) (path : Path) : Option Place :=
  match path.fileName?, host.files.openDirectory host.place path.directory with
  | some name, .ok place => some (place ++ [name])
  | _, _ => none

theorem spot?_eq_some
    {spot : Place} :
    host.spot? path = some spot ↔
      ∃ place name, path.fileName? = some name ∧
        host.files.openDirectory host.place path.directory = .ok place ∧ place ++ [name] = spot := by
  unfold spot?
  cases path.fileName? with
  | none => simp
  | some name =>
      cases host.files.openDirectory host.place path.directory with
      | error fault => simp
      | ok place => simp

/-- To replace a file by the text that it has changes nothing, provided that its permission bits
are such as the umask leaves. -/
theorem replaceFile_of_same
    {mode : Nat}
    (ends : FileTree.EndsIn path name)
    (unslashed : path.endsInSlash = false)
    (opens : host.files.openDirectory host.place path.directory = .ok place)
    (there : host.files.at? (place ++ [name]) =
      some (.file (FileTree.masked host.umask mode) text.toUTF8)) :
    host.replaceFile path text = (.ok (), host) := by
  have free : host.files.shapeAt? (place ++ [name]) ≠ some .directory := by
    rw [FileTree.shapeAt?, there]
    simp [FileNode.shape]
  rw [replaceFile_of_endsIn ends unslashed opens free,
    FileTree.modeToKeep_of_file ends unslashed opens there, FileTree.masked_masked,
    FileTree.put_of_at? there]

/-- Of two texts that replace a file one after the other the later one counts, wherever the
directory of the file still opens. -/
theorem replaceFile_replaceFile
    {middle : Host}
    {opened : Place}
    {later : String}
    (replaced : host.replaceFile path text = (.ok (), middle))
    (opens : middle.files.openDirectory middle.place path.directory = .ok opened) :
    middle.replaceFile path later = host.replaceFile path later ∧
      ∃ behind, host.replaceFile path later = (.ok (), behind) := by
  obtain ⟨files, place, name, ensured, located, unslashed, free, rfl⟩ := replaceFile_eq_ok replaced
  obtain ⟨ends, _⟩ := FileTree.locateName_eq_ok_iff.1 located
  obtain ⟨rfl, there⟩ := FileTree.place_eq_of_openDirectory located opens
  obtain ⟨outer, entries, thereNode⟩ := FileTree.shapeAt?_eq_directory.1 there
  have stands := FileTree.at?_put thereNode name (.file
    (FileTree.masked host.umask (files.modeToKeep host.place path)) text.toUTF8)
  have freeBehind : (files.put opened name (.file
      (FileTree.masked host.umask (files.modeToKeep host.place path)) text.toUTF8)).shapeAt?
        (opened ++ [name]) ≠ some .directory := by
    rw [FileTree.shapeAt?, stands]
    simp [FileNode.shape]
  have whole : host.replaceFile path later = (.ok (), { host with
      files := files.put opened name (.file
        (FileTree.masked host.umask (files.modeToKeep host.place path)) later.toUTF8) }) := by
    unfold replaceFile
    simp only [ensured, moveInto_of_locateName located unslashed free]
  refine ⟨?_, _, whole⟩
  rw [whole, replaceFile_of_endsIn ends unslashed opens freeBehind]
  simp only [FileTree.modeToKeep_of_file ends unslashed opens stands, FileTree.masked_masked,
    FileTree.put_put]

/-- To replace a file takes nothing but the files, the working directory and the umask into
account. -/
theorem replaceFile_congr
    (replaced : host.replaceFile path text = (.ok (), behind))
    (other : Host)
    (files : other.files = host.files)
    (place : other.place = host.place)
    (umask : other.umask = host.umask) :
    other.replaceFile path text = (.ok (), { other with files := behind.files }) := by
  obtain ⟨made, spot, name, ensured, located, unslashed, free, rfl⟩ := replaceFile_eq_ok replaced
  unfold replaceFile
  rw [files, place, umask]
  simp only [ensured, moveInto_of_locateName located unslashed free]

/-- No file is replaced where the path of its directory leads through a file. -/
theorem replaceFile_of_notDirectory
    (through : host.files.openDirectory host.place path.directory = .error .notDirectory) :
    host.replaceFile path text ≠ (.ok (), behind) := by
  intro replaced
  obtain ⟨files, _, _, ensured, _⟩ := replaceFile_eq_ok replaced
  rw [FileTree.ensureDirectory, through] at ensured
  cases ensured

/-- Behind the replacement of a file its directory opens where it was, or its path now leads
through the file, so that the file cannot be replaced again. -/
theorem openDirectory_of_replaceFile
    {middle : Host}
    (replaced : host.replaceFile path text = (.ok (), middle)) :
    (∃ opened, middle.files.openDirectory middle.place path.directory = .ok opened) ∨
      middle.files.openDirectory middle.place path.directory = .error .notDirectory := by
  obtain ⟨files, place, name, ensured, located, _, free, rfl⟩ := replaceFile_eq_ok replaced
  obtain ⟨opened, opens⟩ := FileTree.openDirectory_of_ensureDirectory ensured
  rcases FileTree.openDirectory_put_file free opens _ _ with same | through
  · exact .inl ⟨opened, same⟩
  · exact .inr through

/-- A file that could be replaced twice could have been replaced by the later text at once. -/
theorem replaceFile_of_replaceFile
    {middle : Host}
    {later : String}
    (replaced : host.replaceFile path text = (.ok (), middle))
    (again : middle.replaceFile path later = (.ok (), behind)) :
    host.replaceFile path later = (.ok (), behind) := by
  rcases openDirectory_of_replaceFile replaced with ⟨opened, opens⟩ | through
  · rw [← (replaceFile_replaceFile replaced opens).1, again]
  · exact absurd again (replaceFile_of_notDirectory through)

end Host
end ConfigWiring
