import ConfigWiring.Proofs.FileTree.Leaves
import ConfigWiring.Proofs.Host.Rewriting

/-!
# Where a new file lands

The file that takes the place of what a path leads to lands under the last name of the path, once
the directory of the path has been made.  It is the only leaf that changes, and if there is a
failure none does.  A file that is removed is the only leaf that changes as well.
-/

namespace ConfigWiring

namespace FileTree

variable {tree other : FileTree} {base place opened : Place} {path : Path} {name : String}

/-- A directory that opens in both of two akin trees is at the same place. -/
theorem Akin.openDirectory_eq
    (akin : tree.Akin other)
    (opens : tree.openDirectory base path = .ok place)
    (opensOther : other.openDirectory base path = .ok opened) :
    opened = place := by
  obtain ⟨here, directory⟩ := openDirectory_eq_ok opens
  obtain ⟨there, directoryToo⟩ := openDirectory_eq_ok opensOther
  exact akin.follow_eq here directory there directoryToo

/-- A directory that opens in a tree opens in every tree that has its directories and links. -/
theorem Covers.openDirectory
    (covers : tree.Covers other)
    (opens : other.openDirectory base path = .ok place) :
    tree.openDirectory base path = .ok place := by
  obtain ⟨followed, directory⟩ := openDirectory_eq_ok opens
  obtain ⟨_, _, there⟩ := shapeAt?_eq_directory.1 (covers place .directory (by simp) directory)
  rw [openDirectory_eq_follow opens, follow_of_follow_stay (covers.follow followed directory)]
  simp only [there]

/-- To go into a directory and up again leads to where the path started. -/
theorem openDirectory_of_into_up
    (steps : path.steps = [.stay, .into name, .up])
    (relative : path.isAbsolute = false)
    (allowed : path.text.isEmpty = false ∧ path.text.toList.contains '\x00' = false ∧
      path.text.utf8ByteSize ≤ maxPathSize ∧ name.utf8ByteSize ≤ maxNameSize)
    (here : tree.shapeAt? base = some .directory)
    (inner : tree.shapeAt? (base ++ [name]) = some .directory) :
    tree.openDirectory base path = .ok base := by
  obtain ⟨nonempty, unended, pathShort, nameShort⟩ := allowed
  have located : tree.locate base path = .ok base := by
    rw [locate_eq_follow nonempty unended pathShort, relative, steps, if_neg (by simp), follow,
      follow_into, if_neg (Nat.not_lt.2 nameShort)]
    simp [inner, follow]
  obtain ⟨_, _, there⟩ := shapeAt?_eq_directory.1 here
  rw [openDirectory, resolve, located]
  simp only [there]

/-- Only a file or a link is taken away from a directory, and what is not found there is not there.
Anything else is refused, which happens to no name that can be looked up and is no directory. -/
theorem removeNamed_cases (tree : FileTree) (place : Place) (name : String) :
    (tree.leafAt? (place ++ [name]) ≠ none ∧
        tree.removeNamed place name = .ok (tree.erase place name)) ∨
      (tree.at? (place ++ [name]) = none ∧ tree.removeNamed place name = .error .notFound) ∨
      (∃ fault, fault ≠ .notFound ∧ tree.removeNamed place name = .error fault) ∧
        ('\x00' ∉ name.toList -> name.utf8ByteSize ≤ maxNameSize ->
          tree.shapeAt? (place ++ [name]) = some .directory) := by
  unfold removeNamed leafAt? shapeAt?
  split
  · next unfit =>
      exact .inr (.inr ⟨⟨_, by simp, rfl⟩, fun fit => absurd unfit (by simpa using fit)⟩)
  split
  · next long => exact .inr (.inr ⟨⟨_, by simp, rfl⟩, fun _ short => absurd short (by omega)⟩)
  cases tree.at? (place ++ [name]) with
  | none => exact .inr (.inl ⟨rfl, rfl⟩)
  | some node =>
      cases node with
      | directory => exact .inr (.inr ⟨⟨_, by simp, rfl⟩, fun _ _ => rfl⟩)
      | file | link => exact .inl ⟨by simp [FileNode.leaf?], rfl⟩

end FileTree

namespace Host

open FileTree (ChangedOnlyAt)

variable {host behind : Host} {path : Path} {text : String}

/-- The host with the directory of a path made, as far as it can be made. -/
def prepared (host : Host) (path : Path) : Host :=
  { host with
    files := (host.files.ensureDirectory host.umask host.place path.directory).1 }

theorem prepared_files (host : Host) (path : Path) :
    (host.prepared path).files =
      (host.files.ensureDirectory host.umask host.place path.directory).1 := by
  simp only [prepared]

theorem prepared_place (host : Host) (path : Path) :
    (host.prepared path).place = host.place := by
  simp only [prepared]

/-- To make the directory of a path changes no leaf. -/
theorem changedOnlyAt_prepared (host : Host) (path : Path) :
    ChangedOnlyAt none host.files (host.prepared path).files := by
  rw [prepared_files]
  exact .ensureDirectory host.files host.umask host.place path.directory

/-- The place where a file lands that replaces what a path leads to. -/
def landing? (host : Host) (path : Path) : Option Place := (host.prepared path).spot? path

/-- Where the directory of a path opens, its file lands where the path leads. -/
theorem landing?_of_openDirectory
    {place : Place}
    (opens : host.files.openDirectory host.place path.directory = .ok place) :
    host.landing? path = host.spot? path := by
  rw [landing?, prepared, FileTree.ensureDirectory_of_openDirectory _ opens]

/-- A file can be put under a name of the directory that a path leads to. -/
structure Accepts
    (host : Host)
    (path : Path)
    (place : Place)
    (name : String) : Prop where
  /-- The path ends in the name. -/
  ends : FileTree.EndsIn path name
  /-- No slash at its end asks for a directory. -/
  unslashed : path.endsInSlash = false
  /-- Its directory opens. -/
  opens : host.files.openDirectory host.place path.directory = .ok place
  /-- No directory bears the name. -/
  free : host.files.shapeAt? (place ++ [name]) ≠ some .directory

theorem Accepts.exists_replaceFile
    {place : Place}
    {name : String}
    (accepts : host.Accepts path place name)
    (text : String) :
    ∃ mode, host.replaceFile path text =
      (.ok (), { host with files := host.files.put place name (.file mode text.toUTF8) }) :=
  ⟨_, replaceFile_of_endsIn accepts.ends accepts.unslashed accepts.opens accepts.free text⟩

theorem Accepts.landing?_eq
    {place : Place}
    {name : String}
    (accepts : host.Accepts path place name) :
    host.landing? path = some (place ++ [name]) :=
  (landing?_of_openDirectory accepts.opens).trans <|
    spot?_eq_some.2 ⟨place, name, Path.fileName?_of_getLast? accepts.ends.last, accepts.opens, rfl⟩

/-- A file with a text has landed. -/
structure Landed
    (path : Path)
    (text : String)
    (host behind : Host)
    (spot : Place) : Prop where
  /-- This is where it was to land. -/
  lands : host.landing? path = some spot
  /-- No directory was there. -/
  free : host.files.shapeAt? spot ≠ some .directory
  /-- It is there. -/
  there : ∃ mode, behind.files.at? spot = some (.file mode text.toUTF8)
  /-- No other leaf is changed. -/
  changed : ChangedOnlyAt (some spot) host.files behind.files
  /-- The path leads nowhere else now. -/
  leads : ∀ other, behind.spot? path = some other -> other = spot
  /-- The working directory stays. -/
  place : behind.place = host.place
  /-- The umask stays. -/
  umask : behind.umask = host.umask
  /-- The variables stay. -/
  environment : behind.environment = host.environment

/-- A file that replaces another one lands. -/
theorem landed_of_replaceFile
    (replaced : host.replaceFile path text = (.ok (), behind)) :
    ∃ spot, Landed path text host behind spot := by
  obtain ⟨files, place, name, ensured, located, _, free, rfl⟩ := replaceFile_eq_ok replaced
  obtain ⟨ends, _⟩ := FileTree.locateName_eq_ok_iff.1 located
  obtain ⟨opened, opens⟩ := FileTree.openDirectory_of_ensureDirectory ensured
  obtain rfl := FileTree.eq_of_openDirectory_of_locateName opens located
  obtain ⟨_, directory⟩ := FileTree.openDirectory_eq_ok opens
  obtain ⟨_, _, there⟩ := FileTree.shapeAt?_eq_directory.1 directory
  have named := Path.fileName?_of_getLast? ends.last
  have made := ChangedOnlyAt.ensureDirectory host.files host.umask host.place path.directory
  rw [ensured] at made
  refine ⟨opened ++ [name], ?_, fun directory => free (made.directory _ (by simp) directory),
    ⟨_, FileTree.at?_put there _ _⟩, (made.weaken _).trans (.put free rfl), ?_, rfl, rfl, rfl⟩
  · rw [landing?, prepared, ensured]
    exact spot?_eq_some.2 ⟨opened, name, named, opens, rfl⟩
  · intro other leads
    obtain ⟨place', name', named', opens', rfl⟩ := spot?_eq_some.1 leads
    obtain ⟨rfl, _⟩ := FileTree.place_eq_of_openDirectory located opens'
    rw [Option.some.inj (named'.symm.trans named)]

/-- Notices have no effect on where a file lands. -/
theorem landing?_tell (notices : List Notice) :
    (host.tell notices).landing? path = host.landing? path := by
  simp only [landing?, prepared, tell, spot?]

/-- A file has landed, whatever notices are given before and behind. -/
theorem Landed.tell
    {spot : Place}
    {early : List Notice}
    (landed : Landed path text (host.tell early) behind spot)
    (late : List Notice) :
    Landed path text host (behind.tell late) spot where
  lands := (landing?_tell early).symm.trans landed.lands
  free := landed.free
  there := landed.there
  changed := landed.changed
  leads := landed.leads
  place := landed.place
  umask := landed.umask
  environment := landed.environment

/-- A file that has landed is the only new one. -/
theorem Landed.changedByFiles
    {spot : Place}
    (landed : Landed path text host behind spot) :
    host.files.ChangedByFiles behind.files := by
  obtain ⟨mode, there⟩ := landed.there
  refine landed.changed.changedByFiles ?_
  rw [FileTree.shapeAt?, there]
  rfl

/-- To make the directory of another path, with and without a file that has landed, leads to akin
trees. -/
theorem Landed.akin
    {spot : Place}
    (landed : Landed path text host behind spot)
    (other : Path) :
    (host.prepared other).files.Akin (behind.prepared other).files := by
  obtain ⟨mode, there⟩ := landed.there
  have stays : (behind.prepared other).files.at? spot = some (.file mode text.toUTF8) := by
    rw [prepared_files]
    exact FileTree.at?_ensureDirectory_of_file there _ _ _
  refine (host.changedOnlyAt_prepared other).akin
    (landed.changed.trans ((behind.changedOnlyAt_prepared other).weaken _)) ?_
  rw [FileTree.shapeAt?, stays]
  rfl

/-- A path leads to one place in akin trees. -/
theorem spot?_eq_of_akin
    {other : Host}
    {spot spot' : Place}
    (samePlace : other.place = host.place)
    (akin : host.files.Akin other.files)
    (leads : host.spot? path = some spot)
    (leads' : other.spot? path = some spot') :
    spot' = spot := by
  obtain ⟨place, name, named, opens, rfl⟩ := spot?_eq_some.1 leads
  obtain ⟨place', name', named', opens', rfl⟩ := spot?_eq_some.1 leads'
  rw [samePlace] at opens'
  obtain rfl := akin.openDirectory_eq opens opens'
  rw [Option.some.inj (named'.symm.trans named)]

/-- A file lands at one place in akin trees. -/
theorem landing?_eq_of_akin
    {other : Host}
    {spot spot' : Place}
    (samePlace : other.place = host.place)
    (akin : (host.prepared path).files.Akin (other.prepared path).files)
    (lands : host.landing? path = some spot)
    (lands' : other.landing? path = some spot') :
    spot' = spot :=
  spot?_eq_of_akin (by rw [prepared_place, prepared_place, samePlace]) akin lands lands'

/-- Where a file cannot be replaced no leaf is changed. -/
theorem changedOnlyAt_of_replaceFile_error
    {failure : Failure}
    (failed : host.replaceFile path text = (.error failure, behind)) :
    (∃ path fault, failure = .io path fault) ∧ behind = { host with files := behind.files } ∧
      ChangedOnlyAt none host.files behind.files := by
  have made := ChangedOnlyAt.ensureDirectory host.files host.umask host.place path.directory
  unfold replaceFile at failed
  split at failed
  · next files fault ensured =>
      cases failed
      rw [ensured] at made
      exact ⟨⟨_, _, rfl⟩, rfl, made⟩
  · next files ensured =>
      rw [ensured] at made
      dsimp only at failed
      split at failed
      · cases failed
      · cases failed
        exact ⟨⟨_, _, rfl⟩, rfl, made⟩

/-- Where a file cannot be removed nothing is changed. -/
theorem eq_of_removeFile_error
    {failure : Failure}
    (failed : host.removeFile path = (.error failure, behind)) :
    behind = host := by
  unfold removeFile at failed
  split at failed
  · cases failed
  · split at failed
    · cases failed
    · cases failed
      rfl
    · split at failed <;> cases failed
      rfl

/-! ## Removed files -/

/-- A removal that succeeds has erased the file or link that the path leads to, or it has found
nothing there and changed nothing. -/
theorem removeFile_eq_ok
    {removed : Bool}
    (done : host.removeFile path = (.ok removed, behind)) :
    (removed = true ∧ ∃ place name, path.fileName? = some name ∧
        host.files.openDirectory host.place path.directory = .ok place ∧
          host.files.leafAt? (place ++ [name]) ≠ none ∧
            behind = { host with files := host.files.erase place name }) ∨
      (removed = false ∧ behind = host ∧
        ∀ spot, host.spot? path = some spot -> host.files.at? spot = none) := by
  unfold removeFile at done
  cases named : path.fileName? with
  | none =>
      simp only [named] at done
      cases done
      exact .inr ⟨rfl, rfl, fun spot leads => by simp [spot?, named] at leads⟩
  | some name =>
      simp only [named] at done
      cases opens : host.files.openDirectory host.place path.directory with
      | error fault =>
          rw [opens] at done
          cases fault <;> cases done
          exact .inr ⟨rfl, rfl, fun spot leads => by simp [spot?, named, opens] at leads⟩
      | ok place =>
          simp only [opens] at done
          rcases host.files.removeNamed_cases place name with
            ⟨leaf, erased⟩ | ⟨nothing, missed⟩ | ⟨⟨fault, other, failed⟩, _⟩
          · rw [erased] at done
            cases done
            exact .inl ⟨rfl, place, name, rfl, rfl, leaf, rfl⟩
          · rw [missed] at done
            cases done
            refine .inr ⟨rfl, rfl, fun spot leads => ?_⟩
            obtain rfl : place ++ [name] = spot := by simpa [spot?, named, opens] using leads
            exact nothing
          · rw [failed] at done
            cases fault <;> cases done
            exact absurd rfl other

/-- Where a file can be put, whatever stands there can be removed. -/
theorem Accepts.exists_removeFile
    {place : Place}
    {name : String}
    (accepts : host.Accepts path place name) :
    ∃ removed behind, host.removeFile path = (.ok removed, behind) := by
  unfold removeFile
  rw [Path.fileName?_of_getLast? accepts.ends.last]
  simp only [accepts.opens]
  rcases host.files.removeNamed_cases place name with ⟨_, erased⟩ | ⟨_, missed⟩ | ⟨_, refused⟩
  · exact ⟨true, _, by rw [erased]⟩
  · exact ⟨false, _, by rw [missed]⟩
  · exact absurd (refused accepts.ends.nameUnended accepts.ends.short) accepts.free

/-- A path has nothing at its end, where a file or link was removed if there was one. -/
structure Emptied
    (path : Path)
    (removed : Bool)
    (host behind : Host) : Prop where
  /-- A file or link was removed exactly if there was one. -/
  found : removed = true ↔ ∃ spot, host.spot? path = some spot ∧ host.files.leafAt? spot ≠ none
  /-- Nothing is left where the path led. -/
  absent : ∀ spot, host.spot? path = some spot -> behind.files.at? spot = none
  /-- The path leads nowhere else now. -/
  leads : ∀ spot, behind.spot? path = some spot -> host.spot? path = some spot
  /-- No other leaf is changed. -/
  changed : ChangedOnlyAt (host.spot? path) host.files behind.files
  /-- If there was none, nothing is changed. -/
  kept : removed = false -> behind.files = host.files
  /-- The variables stay. -/
  environment : behind.environment = host.environment

/-- A removal that succeeds leaves nothing where the path leads. -/
theorem emptied_of_removeFile
    {removed : Bool}
    (done : host.removeFile path = (.ok removed, behind)) :
    Emptied path removed host behind := by
  obtain ⟨rfl, place, name, named, opens, leaf, rfl⟩ | ⟨rfl, rfl, nothing⟩ := removeFile_eq_ok done
  · have spot : host.spot? path = some (place ++ [name]) :=
      spot?_eq_some.2 ⟨place, name, named, opens, rfl⟩
    have free : host.files.shapeAt? (place ++ [name]) ≠ some .directory := fun directory =>
      leaf (FileTree.leafAt?_eq_none_iff.2 (.inr directory))
    obtain ⟨_, directory⟩ := FileTree.openDirectory_eq_ok opens
    obtain ⟨_, _, there⟩ := FileTree.shapeAt?_eq_directory.1 directory
    refine
      { found := ⟨fun _ => ⟨_, spot, leaf⟩, fun _ => rfl⟩
        absent := fun other leads => ?_
        leads := fun other leads => ?_
        changed := spot ▸ .erase free
        kept := by simp
        environment := rfl }
    · obtain rfl := Option.some.inj (spot.symm.trans leads)
      simpa using FileTree.at?_erase there name []
    · -- A directory that opens without the file opened before.
      obtain ⟨place', name', named', opens', rfl⟩ := spot?_eq_some.1 leads
      exact spot?_eq_some.2
        ⟨place', name', named', (FileTree.covers_erase _ _ _).openDirectory opens', rfl⟩
  · refine
      { found := ⟨by simp, ?_⟩
        absent := nothing
        leads := fun _ leads => leads
        changed := .refl _ _
        kept := fun _ => rfl
        environment := rfl }
    rintro ⟨spot, leads, leaf⟩
    simp [FileTree.leafAt?, nothing spot leads] at leaf

/-- Notices that are given behind a removal have no effect on it. -/
theorem Emptied.tell
    {removed : Bool}
    (emptied : Emptied path removed host behind)
    (notices : List Notice) :
    Emptied path removed host (behind.tell notices) where
  found := emptied.found
  absent := emptied.absent
  leads := emptied.leads
  changed := emptied.changed
  kept := emptied.kept
  environment := emptied.environment

/-- Notices that are given before a removal have no effect on it. -/
theorem Emptied.of_tell
    {removed : Bool}
    {notices : List Notice}
    (emptied : Emptied path removed (host.tell notices) behind) :
    Emptied path removed host behind where
  found := emptied.found
  absent := emptied.absent
  leads := emptied.leads
  changed := emptied.changed
  kept := emptied.kept
  environment := emptied.environment

end Host

/-!
## What a path shows of the file of another

To write through one path may show through another one: both may lead to the same file, or the
other may lead through a directory that is made for the file.  It does not show through a path
whose directory opens and that leads to no link, provided that the file takes the place of no link
and lands elsewhere.
-/

namespace FileTree

variable {tree other : FileTree} {place : Place} {name : String}

/-- Whether something other than a link, or nothing, stands at a place. -/
def IsUnlinked (tree : FileTree) (place : Place) : Prop :=
  ∀ target, tree.shapeAt? place ≠ some (.link target)

/-- Where two trees have the same leaf, both have a link or none has. -/
theorem IsUnlinked.of_leafAt?_eq
    (unlinked : tree.IsUnlinked place)
    (same : other.leafAt? place = tree.leafAt? place) :
    other.IsUnlinked place := by
  intro target shown
  rw [← leafAt?_eq_link_iff, same, leafAt?_eq_link_iff] at shown
  exact unlinked target shown

/-- Under a name that is no link the text of the file of that name is read. -/
theorem toOption_readNamed
    (unlinked : tree.IsUnlinked (place ++ [name])) :
    (tree.readNamed place name).toOption =
      if name.toList.contains '\x00' ∨ name.utf8ByteSize > maxNameSize then none
      else (tree.leafAt? (place ++ [name])).bind fun node => (textOf node).toOption := by
  unfold readNamed leafAt?
  rw [follow_into]
  unfold IsUnlinked shapeAt? at *
  cases name.toList.contains '\x00' with
  | true => simp [Except.toOption]
  | false =>
      by_cases long : name.utf8ByteSize > maxNameSize
      · simp [long, Except.toOption]
      · cases found : tree.at? (place ++ [name]) with
        | none => simp [long, found, Except.toOption]
        | some node =>
            cases node with
            | link target => simp [found, FileNode.shape] at unlinked
            | file mode bytes => simp [long, found, FileNode.shape, FileNode.leaf?]
            | directory mode entries =>
                simp [long, found, FileNode.shape, FileNode.leaf?, follow, textOf, Except.toOption]

end FileTree

namespace Host

variable {host behind : Host} {path other : Path}

/-- A file that may be absent is read under the last name of its path. -/
theorem fst_readOptional
    {place : Place}
    {name : String}
    (named : path.fileName? = some name)
    (opens : host.files.openDirectory host.place path.directory = .ok place) :
    (host.readOptional path).1 = (host.files.readNamed place name).toOption := by
  unfold readOptional
  simp only [named, opens]
  cases host.files.readNamed place name with
  | ok text => rfl
  | error fault => cases fault <;> rfl

/-- The text of a file that a path leads to is read. -/
theorem fst_readOptional_of_file
    {place : Place}
    {name text : String}
    {mode : Nat}
    (ends : FileTree.EndsIn path name)
    (opens : host.files.openDirectory host.place path.directory = .ok place)
    (there : host.files.at? (place ++ [name]) = some (.file mode text.toUTF8)) :
    (host.readOptional path).1 = some text := by
  rw [fst_readOptional (Path.fileName?_of_getLast? ends.last) opens,
    FileTree.readNamed_of_file ends.nameUnended ends.short there]
  rfl

/-- Whatever is written through one path, the same is read through another one. -/
def Unseen (host : Host) (path other : Path) : Prop :=
  ∀ text written, host.replaceFile path text = (.ok (), written) ->
    (written.readOptional other).1 = (host.readOptional other).1

/-- Notices have no effect on what is read. -/
theorem readOptional_tell (notices : List Notice) (path : Path) :
    (host.tell notices).readOptional path = host.readOptional path := rfl

/-- A file that lands in the place of no link is not seen through a path that leads elsewhere, if
the directory of that path opens already and the path leads to no link. -/
theorem unseen_of_landing?
    {spot place : Place}
    {name : String}
    (lands : host.landing? path = some spot)
    (unlinked : host.files.IsUnlinked spot)
    (named : other.fileName? = some name)
    (opens : host.files.openDirectory host.place other.directory = .ok place)
    (unlinkedOther : host.files.IsUnlinked (place ++ [name]))
    (apart : spot ≠ place ++ [name]) :
    host.Unseen path other := by
  intro text written replaced
  obtain ⟨spot', landed⟩ := landed_of_replaceFile replaced
  obtain rfl : spot = spot' := Option.some.inj (lands.symm.trans landed.lands)
  -- The new file takes the place of neither a directory nor a link.
  have covers : written.files.Covers host.files := by
    intro place shape unlikeFile shown
    by_cases here : spot = place
    · subst here
      cases shape with
      | file => exact absurd rfl unlikeFile
      | link target => exact absurd shown (unlinked target)
      | directory => exact absurd shown landed.free
    · have same := landed.changed.leaf place (by simpa using here)
      cases shape with
      | file => exact absurd rfl unlikeFile
      | link target => rwa [← FileTree.leafAt?_eq_link_iff, same, FileTree.leafAt?_eq_link_iff]
      | directory => exact landed.changed.directory place (by simpa using here) shown
  have same := landed.changed.leaf (place ++ [name]) (by simpa using apart)
  have opensWritten : written.files.openDirectory written.place other.directory = .ok place := by
    rw [landed.place]
    exact covers.openDirectory opens
  rw [fst_readOptional named opensWritten, fst_readOptional named opens,
    FileTree.toOption_readNamed unlinkedOther,
    FileTree.toOption_readNamed (unlinkedOther.of_leafAt?_eq same), same]

end Host
end ConfigWiring
