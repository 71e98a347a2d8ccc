import ConfigWiring.Proofs.FileTree.Passage
import Mathlib.Tactic.MkIffOfInductiveProp

/-!
# Reading a file that was replaced

A file is read through its directory, and replaced through its path.  Whenever the directory
of a path still leads somewhere behind the replacement, it leads to where the file was put, so
the new text is what is read.
-/

namespace ConfigWiring

open Text

namespace Path

/-- The name that a path ends in is spelt with characters of the path. -/
theorem mem_text_of_getLast?
    {path : Path}
    {name : String}
    (last : path.nameSteps.getLast? = some (.into name))
    {char : Char}
    (present : char ∈ name.toList) :
    char ∈ path.text.toList := by
  obtain ⟨before, idle, piece, split, _, _, named, _⟩ := exists_pieces_of_getLast? last
  have spelt : name.toList = piece := by
    unfold PathStep.ofPiece at named
    split at named
    · cases named
    · split at named
      · cases named
      · cases named
        exact String.toList_ofList
  have inPiece : char ∈ (pieces path.text.toList).flatten := by
    rw [split, List.flatten_append, List.flatten_cons, ← spelt]
    simp [present]
  exact List.mem_of_mem_drop (mem_of_mem_flatten_splitAll inPiece)

end Path

namespace FileTree

variable {tree : FileTree} {base place : Place} {path : Path}

/-- A path that is neither empty nor cut off nor too long is followed. -/
theorem locate_eq_follow
    (nonempty : path.text.isEmpty = false)
    (unended : path.text.toList.contains '\x00' = false)
    (pathShort : path.text.utf8ByteSize ≤ maxPathSize) :
    tree.locate base path =
      tree.follow none maxLinks (if path.isAbsolute then [] else base) path.steps := by
  rw [locate, locateSteps, nonempty, unended, if_neg (by simp), if_neg (by simp),
    if_neg (Nat.not_lt.2 pathShort)]

/-- A path that can be looked up ends in a name that can be looked up. -/
@[mk_iff]
structure EndsIn (path : Path) (name : String) : Prop where
  /-- The path is not empty. -/
  nonempty : path.text.isEmpty = false
  /-- No zero character ends the path early. -/
  unended : path.text.toList.contains '\x00' = false
  /-- The path is not too long. -/
  pathShort : path.text.utf8ByteSize ≤ maxPathSize
  /-- The last step goes to the name. -/
  last : path.nameSteps.getLast? = some (.into name)
  /-- The name is not too long. -/
  short : name.utf8ByteSize ≤ maxNameSize

instance (path : Path) (name : String) : Decidable (EndsIn path name) :=
  decidable_of_iff _ (endsIn_iff path name).symm

/-- No zero character is in the name that a path ends in. -/
theorem EndsIn.nameUnended
    {name : String}
    (ends : EndsIn path name) :
    '\x00' ∉ name.toList := by
  intro present
  have inPath := Path.mem_text_of_getLast? ends.last present
  rw [← List.contains_iff_mem, ends.unended] at inPath
  cases inPath

/-- What it takes to find the directory that holds the last name of a path. -/
theorem locateName_eq_ok_iff
    {name : String} :
    tree.locateName base path = .ok (place, some name) ↔
      EndsIn path name ∧
        tree.follow none maxLinks (if path.isAbsolute then [] else base)
          (path.nameSteps.dropLast ++ [.stay]) = .ok place := by
  constructor
  · intro located
    unfold locateName at located
    dsimp only at located
    split at located
    · cases located
    · next found steps =>
        split at located
        · next key last =>
            split at located
            · cases located
            · next short =>
                cases located
                unfold locateSteps at steps
                split at steps
                · cases steps
                · next nonempty =>
                    split at steps
                    · cases steps
                    · next unended =>
                        split at steps
                        · cases steps
                        · next pathShort =>
                            exact ⟨⟨by simpa using nonempty, by simpa using unended,
                              Nat.le_of_not_lt pathShort, last, Nat.le_of_not_lt short⟩, steps⟩
        · cases located
  · rintro ⟨⟨nonempty, unended, pathShort, last, short⟩, followed⟩
    have found : tree.locateSteps base path (path.nameSteps.dropLast ++ [.stay]) = .ok place := by
      rw [locateSteps, nonempty, unended, if_neg (by simp), if_neg (by simp),
        if_neg (Nat.not_lt.2 pathShort), followed]
    unfold locateName
    simp only [found, last, if_neg (Nat.not_lt.2 short)]

/-- What it takes to open the directory of a path. -/
theorem openDirectory_eq_ok
    (opened : tree.openDirectory base path = .ok place) :
    tree.follow none maxLinks (if path.isAbsolute then [] else base) path.steps = .ok place ∧
      tree.shapeAt? place = some .directory := by
  unfold openDirectory resolve locate locateSteps at opened
  split at opened
  · next found mode entries resolved =>
      cases opened
      split at resolved
      · cases resolved
      · next start located =>
          split at resolved
          · next node there =>
              cases resolved
              split at located
              · cases located
              · split at located
                · cases located
                · split at located
                  · cases located
                  · exact ⟨located, shapeAt?_eq_directory.2 ⟨mode, entries, there⟩⟩
          · cases resolved
  · cases opened
  · cases opened

/-- What the directory of a path opens is reached by the steps in front of the last name, in
every tree that has the directories and links of the one it opens in. -/
theorem Covers.follow_directory
    {other : FileTree}
    (covers : tree.Covers other)
    {name : String}
    (last : path.nameSteps.getLast? = some (.into name))
    (opens : other.openDirectory base path.directory = .ok place) :
    tree.follow none maxLinks (if path.isAbsolute then [] else base)
        (path.nameSteps.dropLast ++ [.stay]) = .ok place ∧
      other.shapeAt? place = some .directory := by
  obtain ⟨reached, directory⟩ := openDirectory_eq_ok opens
  obtain ⟨moves, absolute⟩ := Path.directory_of_getLast? last
  rw [absolute] at reached
  have found := covers.follow reached directory
  rw [follow_moves, moves, ← follow_moves] at found
  exact ⟨found, directory⟩

/-- The directory of a path, where it leads behind the putting of a file under the last name of
the path, is the directory that holds the file. -/
theorem place_eq_of_openDirectory
    {name : String}
    {mode : Nat}
    {bytes : ByteArray}
    {opened : Place}
    (located : tree.locateName base path = .ok (place, some name))
    (opens :
      (tree.put place name (.file mode bytes)).openDirectory base path.directory = .ok opened) :
    opened = place ∧ tree.shapeAt? place = some .directory := by
  obtain ⟨ends, followed⟩ := locateName_eq_ok_iff.1 located
  have covers := covers_put tree place name mode bytes
  obtain ⟨found, directory⟩ := covers.follow_directory ends.last opens
  rw [followed] at found
  cases found
  exact ⟨rfl, covers place .directory (by simp) directory⟩

/-- What the directory of a path opens is the directory that holds the last name of the path. -/
theorem locateName_of_openDirectory
    {name : String}
    (ends : EndsIn path name)
    (opens : tree.openDirectory base path.directory = .ok place) :
    tree.locateName base path = .ok (place, some name) := by
  have itself : tree.Covers tree := fun _ _ _ shown => shown
  exact locateName_eq_ok_iff.2 ⟨ends, (itself.follow_directory ends.last opens).1⟩

/-- No directory is made where one opens. -/
theorem ensureDirectory_of_openDirectory
    (umask : Nat)
    (opens : tree.openDirectory base path = .ok place) :
    tree.ensureDirectory umask base path = (tree, none) := by
  rw [ensureDirectory, opens]

/-- The bytes of a text spell it. -/
theorem fromUTF8?_toUTF8 (text : String) : String.fromUTF8? text.toUTF8 = some text := by
  unfold String.fromUTF8?
  exact dif_pos text.isValidUTF8

/-- The text that bytes spell has these bytes. -/
theorem toUTF8_of_fromUTF8?
    {bytes : ByteArray}
    {text : String}
    (decoded : String.fromUTF8? bytes = some text) :
    text.toUTF8 = bytes := by
  unfold String.fromUTF8? at decoded
  split at decoded
  · cases decoded
    rfl
  · cases decoded

/-- A file with a text is read under its name. -/
theorem readNamed_of_file
    {name text : String}
    {mode : Nat}
    (unended : '\x00' ∉ name.toList)
    (short : name.utf8ByteSize ≤ maxNameSize)
    (there : tree.at? (place ++ [name]) = some (.file mode text.toUTF8)) :
    tree.readNamed place name = .ok text := by
  have found : tree.follow (some place) maxLinks place [.into name] = .ok (place ++ [name]) := by
    rw [follow_into, if_neg (Nat.not_lt.2 short), shapeAt?, there]
    rfl
  unfold readNamed
  rw [if_neg (by simpa using unended)]
  simp only [found, there, textOf, fromUTF8?_toUTF8]

/-- Where nothing stands under a name, nothing is read under it. -/
theorem readNamed_of_absent
    {name : String}
    (absent : tree.at? (place ++ [name]) = none) :
    ∃ fault, tree.readNamed place name = .error fault := by
  unfold readNamed
  split
  · exact ⟨_, rfl⟩
  · rw [follow, absent]
    split
    · exact ⟨_, rfl⟩
    · next followed =>
        split at followed
        · cases followed
        · cases followed
          rw [absent]
          exact ⟨_, rfl⟩

/-- A file that was put under a name of a directory is read under that name. -/
theorem readNamed_put
    {name : String}
    (there : tree.shapeAt? place = some .directory)
    (unended : '\x00' ∉ name.toList)
    (short : name.utf8ByteSize ≤ maxNameSize)
    (text : String)
    (mode : Nat) :
    (tree.put place name (.file mode text.toUTF8)).readNamed place name = .ok text := by
  obtain ⟨outer, entries, thereNode⟩ := shapeAt?_eq_directory.1 there
  exact readNamed_of_file unended short (at?_put thereNode name _)

end FileTree

namespace Host

variable {host behind : Host} {path : Path} {text : String}

/-- Replacing a file makes sure of its directory and puts it where the path leads, unless a
directory stands there; it changes nothing but the files. -/
theorem replaceFile_eq_ok
    (replaced : host.replaceFile path text = (.ok (), behind)) :
    ∃ (files : FileTree) (place : Place) (name : String),
      host.files.ensureDirectory host.umask host.place path.directory = (files, none) ∧
        files.locateName host.place path = .ok (place, some name) ∧
        path.endsInSlash = false ∧
        files.shapeAt? (place ++ [name]) ≠ some .directory ∧
        behind = { host with files := files.put place name (.file
          (FileTree.masked host.umask (files.modeToKeep host.place path)) text.toUTF8) } := by
  unfold replaceFile at replaced
  split at replaced
  · cases replaced
  · next files ensured =>
      dsimp only at replaced
      split at replaced
      · next moved into =>
          obtain ⟨_, rfl⟩ := Prod.mk.inj replaced
          unfold FileTree.moveInto at into
          split at into
          · cases into
          · cases into
          · next place name located =>
              split at into
              · cases into
              · next unslashed =>
                  split at into
                  · cases into
                  · next free =>
                      cases into
                      refine ⟨files, place, name, ensured, located, by simpa using unslashed, ?_,
                        rfl⟩
                      intro directory
                      obtain ⟨mode, entries, there⟩ := FileTree.shapeAt?_eq_directory.1 directory
                      exact free mode entries there
      · cases replaced

/-- A file that was replaced is read as its new text wherever its directory still opens. -/
theorem readOptional_of_replaceFile
    {opened : Place}
    (replaced : host.replaceFile path text = (.ok (), behind))
    (opens : behind.files.openDirectory behind.place path.directory = .ok opened) :
    behind.readOptional path = (some text, []) := by
  obtain ⟨files, place, name, _, located, _, _, rfl⟩ := replaceFile_eq_ok replaced
  obtain ⟨ends, _⟩ := FileTree.locateName_eq_ok_iff.1 located
  obtain ⟨rfl, there⟩ := FileTree.place_eq_of_openDirectory located opens
  have read := FileTree.readNamed_put there ends.nameUnended ends.short text
    (FileTree.masked host.umask (files.modeToKeep host.place path))
  unfold readOptional
  rw [Path.fileName?_of_getLast? ends.last]
  simp only [opens, read]

/-- The dot opens the directory that it is looked up from. -/
theorem openDirectory_dot
    {tree : FileTree}
    {base : Place}
    (here : tree.shapeAt? base = some .directory) :
    tree.openDirectory base ⟨"."⟩ = .ok base := by
  obtain ⟨mode, entries, there⟩ := FileTree.shapeAt?_eq_directory.1 here
  have steps : Path.steps ⟨"."⟩ = [.stay] := by decide
  have located : tree.locate base ⟨"."⟩ = .ok base := by
    rw [FileTree.locate, FileTree.locateSteps, steps, if_neg (by decide), if_neg (by decide),
      if_neg (by decide), if_neg (by decide), FileTree.follow, FileTree.follow]
  rw [FileTree.openDirectory, FileTree.resolve, located]
  simp only [there]

/-- A file can be put where a path leads, unless a directory stands there. -/
theorem moveInto_of_locateName
    {tree : FileTree}
    {base place : Place}
    {name : String}
    (located : tree.locateName base path = .ok (place, some name))
    (unslashed : path.endsInSlash = false)
    (free : tree.shapeAt? (place ++ [name]) ≠ some .directory)
    (mode : Nat)
    (bytes : ByteArray) :
    tree.moveInto base path mode bytes = .ok (tree.put place name (.file mode bytes)) := by
  rw [FileTree.moveInto, located]
  simp only [unslashed, Bool.false_eq_true, if_false]
  split
  · next outer entries there => exact absurd (FileTree.shapeAt?_eq_directory.2 ⟨_, _, there⟩) free
  · rfl

/-- A file can be replaced wherever its directory opens and holds no directory of its name. -/
theorem replaceFile_of_endsIn
    {place : Place}
    {name : String}
    (ends : FileTree.EndsIn path name)
    (unslashed : path.endsInSlash = false)
    (opens : host.files.openDirectory host.place path.directory = .ok place)
    (free : host.files.shapeAt? (place ++ [name]) ≠ some .directory)
    (text : String) :
    host.replaceFile path text = (.ok (), { host with files := host.files.put place name (.file
      (FileTree.masked host.umask (host.files.modeToKeep host.place path)) text.toUTF8) }) := by
  have located := FileTree.locateName_of_openDirectory ends opens
  unfold replaceFile
  simp only [FileTree.ensureDirectory_of_openDirectory _ opens,
    moveInto_of_locateName located unslashed free]

/-- A file of the working directory can be replaced by its name. -/
theorem replaceFile_of_name
    (name : String)
    (spelt : path.nameSteps = [.into name] ∧ path.directory = ⟨"."⟩ ∧ path.isAbsolute = false ∧
      path.endsInSlash = false)
    (allowed : path.text.isEmpty = false ∧ path.text.toList.contains '\x00' = false ∧
      path.text.utf8ByteSize ≤ FileTree.maxPathSize ∧ name.utf8ByteSize ≤ FileTree.maxNameSize)
    (here : host.files.shapeAt? host.place = some .directory)
    (free : host.files.shapeAt? (host.place ++ [name]) ≠ some .directory)
    (text : String) :
    ∃ mode, host.replaceFile path text = (.ok (), {
      host with files := host.files.put host.place name (.file mode text.toUTF8) }) := by
  obtain ⟨steps, directory, _, unslashed⟩ := spelt
  obtain ⟨nonempty, unended, pathShort, nameShort⟩ := allowed
  have ends : FileTree.EndsIn path name :=
    ⟨nonempty, unended, pathShort, by rw [steps]; rfl, nameShort⟩
  have opens : host.files.openDirectory host.place path.directory = .ok host.place := by
    rw [directory, openDirectory_dot here]
  exact ⟨_, replaceFile_of_endsIn ends unslashed opens free text⟩

/-- A name that the working directory does not have is read as no file. -/
theorem readOptional_of_absent
    (name : String)
    (spelt : path.fileName? = some name ∧ path.directory = ⟨"."⟩)
    (allowed : name.toList.contains '\x00' = false ∧ name.utf8ByteSize ≤ FileTree.maxNameSize)
    (here : host.files.shapeAt? host.place = some .directory)
    (absent : host.files.at? (host.place ++ [name]) = none) :
    host.readOptional path = (none, []) := by
  obtain ⟨named, directory⟩ := spelt
  have opens : host.files.openDirectory host.place path.directory = .ok host.place := by
    rw [directory, openDirectory_dot here]
  have read : host.files.readNamed host.place name = .error .notFound := by
    have found : host.files.follow (some host.place) FileTree.maxLinks host.place [.into name] =
        .ok (host.place ++ [name]) := by
      rw [FileTree.follow_into, if_neg (Nat.not_lt.2 allowed.2), FileTree.shapeAt?, absent]
      rfl
    unfold FileTree.readNamed
    simp only [allowed.1, Bool.false_eq_true, if_false, found, absent]
  unfold readOptional
  simp only [named, opens, read]

/-- A path whose directory does not open is read as no file. -/
theorem readOptional_of_openDirectory_error
    {fault : FileFault}
    (closed : host.files.openDirectory host.place path.directory = .error fault) :
    host.readOptional path = (none, []) := by
  unfold readOptional
  cases path.fileName? with
  | none => rfl
  | some name => simp only [closed]

end Host

/-!
## Where a replaced file stands

A replaced file stands under the last name of its path, in the directory that the path of its
directory opens.  Nothing else is changed, apart from the directories that had to be made for
it; none is made if the directory opens already.
-/

namespace FileTree

variable {tree files : FileTree} {base place opened : Place} {path : Path} {umask : Nat}

/-- The directory that holds the last name of a path is what the directory of the path opens. -/
theorem eq_of_openDirectory_of_locateName
    {name : String}
    (opens : tree.openDirectory base path.directory = .ok opened)
    (located : tree.locateName base path = .ok (place, some name)) :
    opened = place := by
  have found := locateName_of_openDirectory (locateName_eq_ok_iff.1 located).1 opens
  rw [located] at found
  cases found
  rfl

/-- A directory that could be ensured opens. -/
theorem openDirectory_of_ensureDirectory
    (ensured : tree.ensureDirectory umask base path = (files, none)) :
    ∃ place, files.openDirectory base path = .ok place := by
  unfold ensureDirectory at ensured
  split at ensured
  · next place opens =>
      cases ensured
      exact ⟨place, opens⟩
  · split at ensured
    · cases ensured
    · split at ensured
      · next place opens =>
          cases ensured
          exact ⟨place, opens⟩
      · cases ensured
  · cases ensured

end FileTree

namespace Host

variable {host behind : Host} {path : Path} {text : String}

/-- The file of a path has been replaced by a text: it stands under the last name of the path,
in the one place that the directory of the path leads to, be it before or behind the change. -/
structure Replaced
    (path : Path)
    (text : String)
    (host behind : Host)
    (place : Place)
    (name : String)
    (mode : Nat) : Prop where
  /-- The name is that of the path. -/
  named : path.fileName? = some name
  /-- The file is put below directories that are made unless the directory opens. -/
  put : behind.files =
    (host.files.ensureDirectory host.umask host.place path.directory).1.put place name
      (.file mode text.toUTF8)
  /-- The file has the text as a whole. -/
  there : behind.files.at? (place ++ [name]) = some (.file mode text.toUTF8)
  /-- The directory did not lead elsewhere before. -/
  before : ∀ opened, host.files.openDirectory host.place path.directory = .ok opened ->
    opened = place
  /-- The directory does not lead elsewhere now. -/
  after : ∀ opened, behind.files.openDirectory host.place path.directory = .ok opened ->
    opened = place

/-- What `replaceFile` does when it succeeds. -/
theorem replaced_of_replaceFile
    (replaced : host.replaceFile path text = (.ok (), behind)) :
    behind = { host with files := behind.files } ∧
      ∃ place name mode, Replaced path text host behind place name mode := by
  obtain ⟨files, place, name, ensured, located, _, _, rfl⟩ := replaceFile_eq_ok replaced
  obtain ⟨ends, _⟩ := FileTree.locateName_eq_ok_iff.1 located
  obtain ⟨opened, opens⟩ := FileTree.openDirectory_of_ensureDirectory ensured
  obtain rfl := FileTree.eq_of_openDirectory_of_locateName opens located
  obtain ⟨_, directory⟩ := FileTree.openDirectory_eq_ok opens
  obtain ⟨_, _, there⟩ := FileTree.shapeAt?_eq_directory.1 directory
  refine ⟨rfl, opened, name, _, Path.fileName?_of_getLast? ends.last, by rw [ensured],
    FileTree.at?_put there _ _, ?_, ?_⟩
  · intro other before
    rw [FileTree.ensureDirectory_of_openDirectory _ before] at ensured
    cases ensured
    exact FileTree.eq_of_openDirectory_of_locateName before located
  · intro other after
    exact (FileTree.place_eq_of_openDirectory located after).1

/-- What a file is before it is read: a text in the directory of its path, or nothing. -/
inductive Standing (host : Host) (path : Path) : String -> Prop
  /-- A file with a text; its name is one that a file can have. -/
  | file {place : Place} {name text : String} {mode : Nat}
      (named : path.fileName? = some name)
      (opens : host.files.openDirectory host.place path.directory = .ok place)
      (there : host.files.at? (place ++ [name]) = some (.file mode text.toUTF8))
      (unended : '\x00' ∉ name.toList)
      (short : name.utf8ByteSize ≤ FileTree.maxNameSize) :
      Standing host path text
  /-- Nothing stands where the path leads. -/
  | absent
      (nothing : ∀ place name,
        path.fileName? = some name ->
          host.files.openDirectory host.place path.directory = .ok place ->
            host.files.at? (place ++ [name]) = none) :
      Standing host path ""

/-- A file stands where it was put, wherever its directory still opens. -/
theorem standing_of_replaceFile
    {opened : Place}
    (replaced : host.replaceFile path text = (.ok (), behind))
    (opens : behind.files.openDirectory behind.place path.directory = .ok opened) :
    behind.Standing path text := by
  obtain ⟨files, place, name, _, located, _, _, rfl⟩ := replaceFile_eq_ok replaced
  obtain ⟨ends, _⟩ := FileTree.locateName_eq_ok_iff.1 located
  obtain ⟨rfl, there⟩ := FileTree.place_eq_of_openDirectory located opens
  obtain ⟨outer, entries, thereNode⟩ := FileTree.shapeAt?_eq_directory.1 there
  exact .file (Path.fileName?_of_getLast? ends.last) opens (FileTree.at?_put thereNode name _)
    ends.nameUnended ends.short

/-- What stands where a path leads depends on the files and the working directory only. -/
theorem Standing.congr
    {other : Host}
    (standing : host.Standing path text)
    (files : other.files = host.files)
    (place : other.place = host.place) :
    other.Standing path text := by
  cases standing with
  | file named opens there unended short =>
      rw [← files, ← place] at opens
      rw [← files] at there
      exact .file named opens there unended short
  | absent nothing =>
      refine .absent ?_
      rw [files, place]
      exact nothing

/-- What stands where a path leads is read, and nothing is read as the empty text. -/
theorem Standing.getD_readOptional
    (standing : host.Standing path text) :
    (host.readOptional path).1.getD "" = text := by
  unfold readOptional
  cases standing with
  | file named opens there unended short =>
      have read := FileTree.readNamed_of_file unended short there
      simp only [named, opens, read, Option.getD_some]
  | absent nothing =>
      cases named : path.fileName? with
      | none => rfl
      | some name =>
          cases opens : host.files.openDirectory host.place path.directory with
          | error fault => rfl
          | ok place =>
              have ⟨fault, read⟩ := FileTree.readNamed_of_absent (nothing place name named opens)
              simp only [read]
              cases fault <;> rfl

end Host
end ConfigWiring
