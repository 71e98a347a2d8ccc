import ConfigWiring.Container.Variables
import ConfigWiring.Proofs.EnvFile.Seeding
import ConfigWiring.Proofs.Generator.StructListing
import ConfigWiring.Proofs.Text.LetterCase

/-!
# What the variables of a prefix fill

A constructor that reads variables takes those whose names are a prefix, in any ASCII case, an
underscore and a part that is not empty, and files their values under the lower case of that part.
The names that descriptors ask for are made of the same prefix and an underscore, so that whatever
a run gives to the process under such a name is found again under its part.  Only names that differ
in the letter case alone compete for a field.
-/

namespace ConfigWiring

open Text

namespace Constructor

variable {leading text rest name key spelled : String} {environment : Environment}

/-- The bytes that characters take up in a text. -/
def byteCount : List Char -> Nat
  | [] => 0
  | char :: chars => char.utf8Size + byteCount chars

theorem byteCount_cons (char : Char) (chars : List Char) :
    byteCount (char :: chars) = char.utf8Size + byteCount chars := rfl

theorem utf8ByteSize_ofList (chars : List Char) :
    (String.ofList chars).utf8ByteSize = byteCount chars := by
  induction chars with
  | nil => rfl
  | cons char chars inductionHypothesis =>
      have split :
          String.ofList (char :: chars) = String.singleton char ++ String.ofList chars := by
        simp
      rw [split, String.utf8ByteSize_append, String.utf8ByteSize_singleton, inductionHypothesis,
        byteCount_cons]

/-- Characters that differ in the ASCII case only take up as many bytes. -/
theorem byteCount_eq_of_map_toLower
    {chars others : List Char}
    (same : chars.map Char.toLower = others.map Char.toLower) :
    byteCount chars = byteCount others := by
  have lowered (list : List Char) : byteCount list = byteCount (list.map Char.toLower) := by
    induction list with
    | nil => rfl
    | cons char chars inductionHypothesis =>
        rw [List.map_cons, byteCount_cons, byteCount_cons, utf8Size_toLower, inductionHypothesis]
  rw [lowered, same, ← lowered]

theorem byteCount_eq_zero_iff {chars : List Char} : byteCount chars = 0 ↔ chars = [] := by
  cases chars with
  | nil => exact iff_of_true rfl rfl
  | cons char chars =>
      have positive := char.utf8Size_pos
      rw [byteCount_cons]
      exact iff_of_false (by omega) (List.cons_ne_nil char chars)

theorem cut_zero_eq_some_iff {front chars before behind : List Char} :
    behindIgnoringCase?.cut front 0 chars = some (before, behind) ↔
      ∃ taken, chars = taken ++ behind ∧ before = front.reverse ++ taken ∧ byteCount taken = 0 := by
  have cut : behindIgnoringCase?.cut front 0 chars = some (front.reverse, chars) := by
    cases chars <;> rw [behindIgnoringCase?.cut]
  simp only [cut, byteCount_eq_zero_iff, Option.some.injEq, Prod.mk.injEq]
  constructor
  · rintro ⟨rfl, rfl⟩
    exact ⟨[], rfl, by simp, rfl⟩
  · rintro ⟨_, split, rfl, rfl⟩
    exact ⟨by simp, split⟩

theorem cut_cons
    {front chars : List Char}
    {room : Nat}
    (positive : room ≠ 0)
    (char : Char) :
    behindIgnoringCase?.cut front room (char :: chars) =
      if char.utf8Size ≤ room then
        behindIgnoringCase?.cut (char :: front) (room - char.utf8Size) chars
      else none := by
  cases room with
  | zero => exact absurd rfl positive
  | succ room =>
      rw [behindIgnoringCase?.cut]
      exact positive

/-- A text is cut behind characters that take up the given room, if there are such. -/
theorem cut_eq_some_iff
    {front chars before behind : List Char}
    {room : Nat} :
    behindIgnoringCase?.cut front room chars = some (before, behind) ↔
      ∃ taken, chars = taken ++ behind ∧ before = front.reverse ++ taken ∧
        byteCount taken = room := by
  induction chars generalizing front room with
  | nil =>
      cases room with
      | zero => exact cut_zero_eq_some_iff
      | succ room =>
          rw [behindIgnoringCase?.cut]
          refine iff_of_false (by simp) ?_
          rintro ⟨taken, split, -, size⟩
          obtain ⟨rfl, rfl⟩ := List.append_eq_nil_iff.1 split.symm
          cases size
  | cons char chars inductionHypothesis =>
      by_cases exhausted : room = 0
      · rw [exhausted]
        exact cut_zero_eq_some_iff
      · rw [cut_cons exhausted]
        constructor
        · intro cut
          split at cut
          · next fits =>
              obtain ⟨taken, rfl, rfl, size⟩ := inductionHypothesis.1 cut
              refine ⟨char :: taken, rfl, by simp, ?_⟩
              rw [byteCount_cons]
              omega
          · cases cut
        · rintro ⟨taken, split, rfl, size⟩
          cases taken with
          | nil => exact absurd size.symm exhausted
          | cons first taken =>
              obtain ⟨rfl, rfl⟩ := List.cons.inj split
              rw [byteCount_cons] at size
              rw [if_pos (by omega), inductionHypothesis]
              exact ⟨taken, rfl, by simp, by omega⟩

/-- The text behind a leading part is what follows characters that differ from the leading part in
the ASCII case only. -/
theorem behindIgnoringCase?_eq_some_iff :
    behindIgnoringCase? leading text = some rest ↔
      ∃ front, text.toList = front ++ rest.toList ∧
        front.map Char.toLower = leading.toList.map Char.toLower := by
  have room : leading.utf8ByteSize = byteCount leading.toList := by
    rw [← utf8ByteSize_ofList, String.ofList_toList]
  unfold behindIgnoringCase?
  dsimp only
  rw [room]
  constructor
  · intro found
    split at found
    · next front behind cut =>
        split at found
        · next same =>
            obtain ⟨_, split, rfl, -⟩ := cut_eq_some_iff.1 cut
            cases found
            exact ⟨_, by simpa using split, same⟩
        · cases found
    · cases found
  · rintro ⟨front, split, same⟩
    have cut : behindIgnoringCase?.cut [] (byteCount leading.toList) text.toList =
        some (front, rest.toList) :=
      cut_eq_some_iff.2 ⟨front, split, rfl, byteCount_eq_of_map_toLower same⟩
    rw [cut]
    simp [same]

/-- A variable fills a field of a prefix exactly if its name is the prefix, in any ASCII case, an
underscore and a part that is not empty; the field is the lower case of that part. -/
theorem fieldKey?_eq_some_iff
    (ascii : Ascii spelled.toList) :
    fieldKey? spelled name = some key ↔
      ∃ front part, name.toList = front ++ '_' :: part ∧
        front.map Char.toLower = spelled.toList.map Char.toLower ∧ part ≠ [] ∧
          key = lowerText (String.ofList part) := by
  have leads : (namespaceOf spelled).toList.map Char.toLower =
      spelled.toList.map Char.toLower ++ ['_'] := by
    rw [namespaceOf, String.toList_append, List.map_append, map_toLower_upperText ascii]
    rfl
  unfold fieldKey?
  constructor
  · intro filled
    split at filled
    · next rest found =>
        obtain ⟨front, split, same⟩ := behindIgnoringCase?_eq_some_iff.1 found
        rw [leads, List.map_eq_append_iff] at same
        obtain ⟨before, last, rfl, spelt, underscore⟩ := same
        obtain ⟨char, rfl, lowered⟩ := List.map_eq_singleton_iff.1 underscore
        obtain rfl := eq_underscore_of_toLower lowered
        split at filled
        · cases filled
        · next nonempty =>
            cases filled
            refine ⟨before, rest.toList, by simpa using split, spelt, ?_, by simp⟩
            simpa using nonempty
    · cases filled
  · rintro ⟨front, part, split, same, nonempty, rfl⟩
    have found : behindIgnoringCase? (namespaceOf spelled) name = some (String.ofList part) := by
      refine behindIgnoringCase?_eq_some_iff.2 ⟨front ++ ['_'], by simp [split], ?_⟩
      rw [leads, List.map_append, same]
      rfl
    rw [found]
    simp [nonempty]

/-! ## The fields that variables fill -/

/-- One more variable fills its field, if it has one. -/
theorem prefixedVariables_concat (spelled name content : String) (pairs : List (String × String)) :
    prefixedVariables spelled ⟨pairs ++ [(name, content)]⟩ =
      (fieldKey? spelled name).elim (prefixedVariables spelled ⟨pairs⟩) fun key =>
        Config.putField key (.text content) (prefixedVariables spelled ⟨pairs⟩) := by
  rw [prefixedVariables, List.foldl_append, List.foldl_cons, List.foldl_nil]
  dsimp only
  cases fieldKey? spelled name <;> rfl

/-- Names that fill one field differ in letter case at most. -/
theorem lowerText_eq_of_fieldKey?
    {other : String}
    (ascii : Ascii spelled.toList)
    (filled : fieldKey? spelled name = some key)
    (again : fieldKey? spelled other = some key) :
    lowerText name = lowerText other := by
  obtain ⟨front, part, split, same, -, fieldKey⟩ := (fieldKey?_eq_some_iff ascii).1 filled
  obtain ⟨otherFront, otherPart, otherSplit, otherSame, -, otherKey⟩ :=
    (fieldKey?_eq_some_iff ascii).1 again
  rw [← String.toList_inj, toList_lowerText_of_ascii (ascii.of_map_toLower same) split,
    toList_lowerText_of_ascii (ascii.of_map_toLower otherSame) otherSplit, same, otherSame,
    ← fieldKey, ← otherKey]

/-- Every field of a prefix comes from a variable. -/
theorem exists_variable_of_mem
    {field : String × Config.Value}
    (present : field ∈ prefixedVariables spelled environment) :
    ∃ name content, (name, content) ∈ environment.pairs ∧ fieldKey? spelled name = some field.1 ∧
      field.2 = .text content := by
  obtain ⟨pairs⟩ := environment
  induction pairs using List.reverseRecOn with
  | nil => cases present
  | append_singleton pairs last inductionHypothesis =>
      obtain ⟨name, content⟩ := last
      rw [prefixedVariables_concat] at present
      cases filled : fieldKey? spelled name with
      | none =>
          rw [filled] at present
          obtain ⟨other, held, among, fills⟩ := inductionHypothesis present
          exact ⟨other, held, List.mem_append_left _ among, fills⟩
      | some key =>
          rw [filled] at present
          rcases Config.mem_putField present with rfl | before
          · exact ⟨name, content, by simp, filled, rfl⟩
          · obtain ⟨other, held, among, fills⟩ := inductionHypothesis before
            exact ⟨other, held, List.mem_append_left _ among, fills⟩

/-- A variable fills its field, unless it shares its name with another one but for the letter
case. -/
theorem lookup_prefixedVariables
    {content : String}
    (ascii : Ascii spelled.toList)
    (distinct : (environment.names.map lowerText).Nodup)
    (live : (name, content) ∈ environment.pairs)
    (filled : fieldKey? spelled name = some key) :
    (prefixedVariables spelled environment).lookup key = some (.text content) := by
  obtain ⟨pairs⟩ := environment
  induction pairs using List.reverseRecOn with
  | nil => cases live
  | append_singleton pairs last inductionHypothesis =>
      obtain ⟨lastName, lastContent⟩ := last
      rw [Entries.names, List.map_append, List.map_append, List.nodup_append] at distinct
      obtain ⟨distinctBefore, -, apart⟩ := distinct
      rw [prefixedVariables_concat]
      rcases List.mem_append.1 live with before | itself
      · have found := inductionHypothesis distinctBefore before
        cases lastFilled : fieldKey? spelled lastName with
        | none => exact found
        | some lastKey =>
            have other : key ≠ lastKey := by
              rintro rfl
              refine apart (lowerText name) ?_ (lowerText lastName) (by simp)
                (lowerText_eq_of_fieldKey? ascii filled lastFilled)
              exact List.mem_map_of_mem (List.mem_map_of_mem before)
            rw [Option.elim_some, Config.lookup_putField, if_neg other]
            exact found
      · cases List.mem_singleton.1 itself
        rw [filled, Option.elim_some, Config.lookup_putField, if_pos rfl]

/-- No field of a prefix is without a name. -/
theorem lookup_empty_prefixedVariables
    (ascii : Ascii spelled.toList) :
    (prefixedVariables spelled environment).lookup "" = none := by
  rw [List.lookup_eq_none_iff]
  rintro ⟨key, content⟩ present
  obtain ⟨name, _, _, filled, _⟩ := exists_variable_of_mem present
  obtain ⟨_, part, _, _, nonempty, rfl⟩ := (fieldKey?_eq_some_iff ascii).1 filled
  simpa using (lowerText_ofList_ne_empty nonempty).symm

end Constructor

namespace Descriptor

variable {policy : CtorNamePolicy} {marked : List MarkedType} {descriptors : List Descriptor}

/-- The variables of a descriptor are named by its prefix, an underscore and a part of their own,
which is empty for a field without a name only. -/
theorem exists_part_of_ofMarked
    {descriptor : Descriptor}
    {field : FieldDescriptor}
    (described : ofMarked policy marked = .ok descriptors)
    (present : descriptor ∈ descriptors)
    (asks : field ∈ descriptor.fields) :
    ∃ part, field.key = descriptor.namePrefix ++ "_" ++ part ∧
      (part = "" -> ∃ one ∈ marked, ∃ own ∈ one.fields, own.name = "") := by
  obtain ⟨one, among, describes⟩ := exists_of_mem_mapM described present
  unfold ofMarkedType at describes
  split at describes
  · cases describes
  · cases describes
    obtain ⟨own, member, rfl⟩ := List.mem_map.1 asks
    refine ⟨_, rfl, fun empty => ⟨one, List.mem_of_mem_filter among, own, member, ?_⟩⟩
    cases tagged : own.params.nonEmpty? "envconfig" with
    | none =>
        rw [tagged] at empty
        exact eq_empty_of_upperText empty
    | some name =>
        rw [tagged] at empty
        rw [Tag.Params.nonEmpty?, Option.filter_eq_some_iff] at tagged
        obtain rfl : name = "" := empty
        exact absurd tagged.2 (by decide)

end Descriptor

namespace Constructor

open EnvFile

variable {path : Path} {host behind : Host} {all : List Descriptor} {report : SyncReport}

/-- The merge of a run has an entry for each name that is asked for. -/
theorem exists_merged_of_asked
    (path : Path)
    (host : Host)
    (asked : Asked (Descriptor.allFields all) name) :
    ∃ merged, (mergeOf path all host).file.entries.get? name = some merged := by
  have fresh := holds_load host path
  obtain ⟨pairs, merged⟩ := merged_merge fresh (Descriptor.allFields all)
  have known : (mergeOf path all host).file.contains name = true := by
    rw [mergeOf, merged.contains_iff fresh, merged.mem_added]
    cases (load host path).1.contains name with
    | true => exact .inl rfl
    | false => exact .inr ⟨rfl, asked⟩
  exact Option.isSome_iff_exists.1 known

/-- Behind a run a name has the value that it had, or else that of its merged entry, if a variable
can have both. -/
theorem get?_of_synchronize
    (synchronized : (synchronize path all).on host = (.ok report, behind))
    (name : String) :
    behind.environment.get? name =
      (host.environment.get? name).or
        (((mergeOf path all host).file.entries.get? name).filter fun value =>
          Environment.isName name && Environment.isValue value) := by
  obtain ⟨_, _, holds⟩ := merge_eq_missing (holds_load host path) (Descriptor.allFields all)
  obtain ⟨environment, _⟩ := exports_of_synchronize synchronized
  obtain ⟨given, _⟩ := foldl_step_eq_grants holds.distinct ⟨host.environment, [], []⟩
  rw [environment.trans given]
  exact get?_append_grants holds.distinct host.environment name

/-! ## From synthesis to reading -/

/-- What a descriptor names and a run seeds, the constructor of the prefix reads, in whatever ASCII
case the prefix is given.  After a run that succeeds, with no two variables that differ in the
letter case only, each field whose name and merged value are fit for a variable has a live value,
and the table of the prefix holds it under the lower case of the part behind the prefix and the
underscore.  The part is empty only if a marked type has a field without a name, which no struct
has, and then the table has no field for it.  Conversely every field of the table comes from a
variable whose name is the prefix, in some ASCII case, an underscore and a part that is not
empty. -/
theorem prefixedVariables_of_synchronize
    {policy : CtorNamePolicy}
    {marked : List MarkedType}
    {descriptors : List Descriptor}
    (described : Descriptor.ofMarked policy marked = .ok descriptors)
    (ascii : ∀ descriptor ∈ descriptors, Ascii descriptor.namePrefix.toList)
    (among : descriptors ⊆ all)
    (synchronized : (synchronize path all).on host = (.ok report, behind))
    (distinct : (behind.environment.names.map lowerText).Nodup) :
    ∀ descriptor ∈ descriptors, ∀ spelled : String,
      spelled.toList.map Char.toLower = descriptor.namePrefix.toList.map Char.toLower ->
        (∀ field ∈ descriptor.fields, Environment.isName field.key = true ->
          ∃ part merged, field.key = descriptor.namePrefix ++ "_" ++ part ∧
            (part = "" -> ∃ one ∈ marked, ∃ own ∈ one.fields, own.name = "") ∧
            (mergeOf path all host).file.entries.get? field.key = some merged ∧
              (Environment.isValue merged = true ->
                ∃ live, behind.environment.get? field.key = some live ∧
                  (prefixedVariables spelled behind.environment).lookup (lowerText part) =
                    if part = "" then none else some (.text live))) ∧
        ∀ field ∈ prefixedVariables spelled behind.environment,
          ∃ name live front part, (name, live) ∈ behind.environment.pairs ∧
            name.toList = front ++ '_' :: part ∧
              front.map Char.toLower = descriptor.namePrefix.toList.map Char.toLower ∧
                part ≠ [] ∧ field = (lowerText (String.ofList part), .text live) := by
  intro descriptor present spelled same
  have asciiPrefix := ascii descriptor present
  have asciiSpelled := asciiPrefix.of_map_toLower same
  constructor
  · intro field asks isName
    obtain ⟨part, key, named⟩ := Descriptor.exists_part_of_ofMarked described present asks
    have member : field ∈ Descriptor.allFields all :=
      List.mem_flatMap.2 ⟨descriptor, among present, asks⟩
    obtain ⟨merged, seeded⟩ := exists_merged_of_asked path host ⟨field, member, rfl, isName⟩
    refine ⟨part, merged, key, named, seeded, fun isValue => ?_⟩
    obtain ⟨live, lives⟩ : ∃ live, behind.environment.get? field.key = some live := by
      rw [← Option.isSome_iff_exists, get?_of_synchronize synchronized, seeded]
      simp [isName, isValue]
    refine ⟨live, lives, ?_⟩
    split
    · next empty =>
        rw [empty]
        exact lookup_empty_prefixedVariables asciiSpelled
    · next nonempty =>
        obtain ⟨before, after, pairs, _⟩ := List.lookup_eq_some_iff.1 lives
        have pair : (field.key, live) ∈ behind.environment.pairs := by simp [pairs]
        refine lookup_prefixedVariables asciiSpelled distinct pair ?_
        rw [fieldKey?_eq_some_iff asciiSpelled]
        refine ⟨descriptor.namePrefix.toList, part.toList, ?_, same.symm, ?_, ?_⟩
        · rw [key]
          simp
        · simpa using nonempty
        · rw [String.ofList_toList]
  · rintro ⟨key, content⟩ member
    obtain ⟨name, live, pair, filled, rfl⟩ := exists_variable_of_mem member
    obtain ⟨front, part, split, spelt, nonempty, rfl⟩ :=
      (fieldKey?_eq_some_iff asciiSpelled).1 filled
    exact ⟨name, live, front, part, pair, split, spelt.trans same, nonempty, rfl⟩

/-- The prefix is given in lower case and read in mixed case.  One field has its value from the env
file and the other one its default. -/
theorem prefixedVariables_of_lower_case_prefix :
    let marked : List MarkedType := [⟨"@app-cfg", "config", "Db", ⟨"config"⟩,
      ⟨[("prefix", "db")]⟩, .struct,
      [⟨"Host", ⟨[]⟩⟩, ⟨"Port", ⟨[("envconfig", "Port_No"), ("default", "5432")]⟩⟩]⟩]
    let host : Host := { (default : Host) with
      environment := ⟨[("HOME", "/root"), ("DB_Extra", "x")]⟩
      files := ⟨.directory 0o755 (.cons ".env" (.file 0o644 "db_HOST=local\n".toUTF8) .nil)⟩ }
    ∃ descriptors report behind, Descriptor.ofMarked .verbatim marked = .ok descriptors ∧
      (synchronize ⟨".env"⟩ descriptors).on host = (.ok report, behind) ∧
      (behind.environment.names.map lowerText).Nodup ∧
      (prefixedVariables "Db" behind.environment).lookup "host" = some (.text "local") ∧
      (prefixedVariables "Db" behind.environment).lookup "port_no" = some (.text "5432") := by
  intro marked host
  have described : Descriptor.ofMarked .verbatim marked = .ok [⟨"", "db", "config.Db",
      [⟨"db_HOST", ""⟩, ⟨"db_Port_No", "5432"⟩]⟩] := by
    decide +kernel
  generalize given : [(⟨"", "db", "config.Db", [⟨"db_HOST", ""⟩, ⟨"db_Port_No", "5432"⟩]⟩ :
    Descriptor)] = descriptors at described
  have named : Path.fileName? ⟨".env"⟩ = some ".env" := by decide
  have opens : host.files.openDirectory host.place (Path.directory ⟨".env"⟩) = .ok [] :=
    Host.openDirectory_dot rfl
  have standing : host.Standing ⟨".env"⟩ "db_HOST=local\n" :=
    .file named opens rfl (by decide) (by decide)
  have added : (mergeOf ⟨".env"⟩ descriptors host).added = ["db_Port_No"] := by
    rw [mergeOf, (merge_eq_missing (holds_load host ⟨".env"⟩) _).1, (load_standing standing).2,
      ← given]
    decide
  have incomplete : (mergeOf ⟨".env"⟩ descriptors host).added ≠ [] := by
    rw [added]
    decide
  obtain ⟨report, behind, _, synchronized, _⟩ :=
    exists_synchronize_of_name ".env" (by decide) (by decide) rfl (by decide) incomplete
  have granted : grants host.environment (mergedEntries host.environment "db_HOST=local\n"
      (Descriptor.allFields descriptors)) = [("db_HOST", "local"), ("db_Port_No", "5432")] := by
    rw [← given]
    decide
  have environment : behind.environment = ⟨[("HOME", "/root"), ("DB_Extra", "x"),
      ("db_HOST", "local"), ("db_Port_No", "5432")]⟩ := by
    rw [(environment_of_synchronize standing synchronized).1, granted]
    rfl
  have distinct : (behind.environment.names.map lowerText).Nodup := by
    rw [environment]
    decide +kernel
  have ascii : ∀ descriptor ∈ descriptors, Ascii descriptor.namePrefix.toList := by
    rw [← given]
    exact List.forall_mem_singleton.2 (by decide)
  obtain ⟨reads, _⟩ := prefixedVariables_of_synchronize described ascii (List.Subset.refl _)
    synchronized distinct _ (by rw [← given]; exact List.mem_singleton_self _) "Db" (by decide)
  have merged : (mergeOf ⟨".env"⟩ descriptors host).file.entries.pairs =
      [("db_HOST", "local"), ("db_Port_No", "5432")] := by
    rw [(entries_mergeOf standing descriptors).1, ← given]
    decide
  have field (part content : String) (nonempty : part ≠ "")
      (asks : ∃ fallback, (⟨"db" ++ "_" ++ part, fallback⟩ : FieldDescriptor) ∈
        [(⟨"db_HOST", ""⟩ : FieldDescriptor), ⟨"db_Port_No", "5432"⟩])
      (fit : Environment.isName ("db" ++ "_" ++ part) = true ∧ Environment.isValue content = true)
      (seeds : [("db_HOST", "local"), ("db_Port_No", "5432")].lookup ("db" ++ "_" ++ part) =
        some content)
      (lives : behind.environment.get? ("db" ++ "_" ++ part) = some content) :
      (prefixedVariables "Db" behind.environment).lookup (lowerText part) =
        some (.text content) := by
    obtain ⟨fallback, asked⟩ := asks
    obtain ⟨own, value, key, _, seeded, read⟩ := reads _ asked fit.1
    obtain rfl : own = part := by
      rw [← String.toList_inj]
      simpa using (congrArg String.toList key).symm
    rw [Entries.get?, merged, seeds] at seeded
    cases seeded
    obtain ⟨live, same, found⟩ := read fit.2
    rw [lives] at same
    cases same
    rw [found, if_neg nonempty]
  have hostField := field "HOST" "local" (by decide) ⟨"", by decide⟩ (by decide) (by decide)
    (by rw [environment]; decide)
  have port := field "Port_No" "5432" (by decide) ⟨"5432", by decide⟩ (by decide) (by decide)
    (by rw [environment]; decide)
  rw [show lowerText "HOST" = "host" by decide +kernel] at hostField
  rw [show lowerText "Port_No" = "port_no" by decide +kernel] at port
  exact ⟨descriptors, report, behind, described, synchronized, distinct, hostField, port⟩

end Constructor
end ConfigWiring
