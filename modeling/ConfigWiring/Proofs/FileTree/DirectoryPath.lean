import ConfigWiring.Host.Files

/-!
# The directory of a path

A path whose last step goes to a name has that name as its last component, and the path of its
directory asks for the same steps up to there, apart from steps that stay where they are.
-/

namespace ConfigWiring

open Text

namespace PathStep

/-- The steps that do not stay where they are. -/
def moves (steps : List PathStep) : List PathStep := steps.filter (· ≠ .stay)

theorem moves_append (left right : List PathStep) :
    moves (left ++ right) = moves left ++ moves right :=
  List.filter_append left right

theorem moves_moves (steps : List PathStep) : moves (moves steps) = moves steps := by
  simp [moves]

/-- The last of the steps, if it moves, is the last of the moves. -/
theorem moves_of_getLast?
    {steps : List PathStep}
    {name : String}
    (last : steps.getLast? = some (.into name)) :
    moves steps = moves steps.dropLast ++ [.into name] := by
  obtain ⟨front, rfl⟩ := List.getLast?_eq_some_iff.1 last
  rw [List.dropLast_concat, moves_append]
  rfl

end PathStep

namespace Path

/-! ## Pieces between slashes -/

/-- The pieces that name something. -/
def busyPieces (pieces : List (List Char)) : List (List Char) := pieces.filter (!isIdle ·)

theorem busyPieces_append (left right : List (List Char)) :
    busyPieces (left ++ right) = busyPieces left ++ busyPieces right :=
  List.filter_append left right

theorem busyPieces_eq_nil
    {pieces : List (List Char)}
    (idles : ∀ piece ∈ pieces, isIdle piece = true) :
    busyPieces pieces = [] :=
  List.filter_eq_nil_iff.2 fun piece present => by simp [idles piece present]

/-- Pieces without the idle ones at their end, and those idle ones. -/
theorem exists_idle_end (pieces : List (List Char)) :
    ∃ idle, pieces = (pieces.reverse.dropWhile isIdle).reverse ++ idle ∧
      busyPieces (pieces.reverse.dropWhile isIdle).reverse = busyPieces pieces := by
  have ends : pieces = (pieces.reverse.dropWhile isIdle).reverse ++
      (pieces.reverse.takeWhile isIdle).reverse := by
    rw [← List.reverse_append, List.takeWhile_append_dropWhile, List.reverse_reverse]
  have nothing : busyPieces (pieces.reverse.takeWhile isIdle).reverse = [] :=
    busyPieces_eq_nil fun piece present =>
      List.all_eq_true.1 List.all_takeWhile piece (List.mem_reverse.1 present)
  refine ⟨_, ends, ?_⟩
  calc busyPieces (pieces.reverse.dropWhile isIdle).reverse
      = busyPieces ((pieces.reverse.dropWhile isIdle).reverse ++
          (pieces.reverse.takeWhile isIdle).reverse) := by
        rw [busyPieces_append, nothing, List.append_nil]
    _ = busyPieces pieces := by rw [← ends]

/-- The steps of a path that move are those of the pieces that name something. -/
theorem moves_nameSteps (path : Path) :
    PathStep.moves path.nameSteps =
      (busyPieces (splitAll '/' path.text.toList)).map PathStep.ofPiece := by
  unfold PathStep.moves nameSteps busyPieces
  rw [List.filter_map, List.filter_filter]
  congr 1
  apply List.filter_congr
  intro piece _
  simp only [Function.comp_apply, isIdle, PathStep.ofPiece]
  by_cases empty : piece = []
  · simp [empty]
  · by_cases dot : piece = ['.']
    · simp [dot]
    · by_cases dots : piece = ['.', '.'] <;> simp [empty, dot, dots]

theorem slash_not_mem_of_mem_splitAll
    {text piece : List Char}
    (present : piece ∈ splitAll '/' text) :
    '/' ∉ piece := by
  induction text generalizing piece with
  | nil => simp_all [splitAll]
  | cons char rest inductionHypothesis =>
      rw [splitAll] at present
      split at present
      · rcases List.mem_cons.1 present with rfl | further
        · simp
        · exact inductionHypothesis further
      · next other =>
          split at present
          · next none => exact absurd none (splitAll_ne_nil '/' rest)
          · next first others some =>
              rcases List.mem_cons.1 present with rfl | further
              · have apart := inductionHypothesis (some ▸ List.mem_cons_self)
                simp [apart, Ne.symm other]
              · exact inductionHypothesis (some ▸ List.mem_cons_of_mem _ further)

/-- Cutting a text makes up no characters. -/
theorem mem_of_mem_flatten_splitAll
    {char : Char}
    {text : List Char}
    (present : char ∈ (splitAll '/' text).flatten) :
    char ∈ text := by
  induction text with
  | nil => simp [splitAll] at present
  | cons first rest inductionHypothesis =>
      rw [splitAll] at present
      split at present
      · exact List.mem_cons_of_mem _ (inductionHypothesis (by simpa using present))
      · split at present
        · next none => exact absurd none (splitAll_ne_nil '/' rest)
        · next piece pieces some =>
            rw [some] at inductionHypothesis
            rw [List.flatten_cons, List.cons_append] at present
            rcases List.mem_cons.1 present with rfl | further
            · exact List.mem_cons_self
            · exact List.mem_cons_of_mem _ (inductionHypothesis (by simpa using further))

/-- A piece without a slash in front of further text is a piece of its own. -/
theorem splitAll_slash_append
    {piece : List Char}
    (whole : '/' ∉ piece)
    (text : List Char) :
    splitAll '/' (piece ++ '/' :: text) = piece :: splitAll '/' text := by
  induction piece with
  | nil => simp [splitAll]
  | cons char rest inductionHypothesis =>
      simp only [List.mem_cons, not_or] at whole
      rw [List.cons_append, splitAll, if_neg (Ne.symm whole.1), inductionHypothesis whole.2]

theorem joinAll_cons_cons (separator : Char) (piece next : List Char) (pieces : List (List Char)) :
    joinAll separator (piece :: next :: pieces) =
      piece ++ separator :: joinAll separator (next :: pieces) := by
  simp [joinAll, List.intercalate, List.intersperse]

/-- Cutting what was joined gives the pieces back. -/
theorem splitAll_joinAll
    {pieces : List (List Char)}
    (nonempty : pieces ≠ [])
    (whole : ∀ piece ∈ pieces, '/' ∉ piece) :
    splitAll '/' (joinAll '/' pieces) = pieces := by
  induction pieces with
  | nil => exact absurd rfl nonempty
  | cons piece others inductionHypothesis =>
      cases others with
      | nil =>
          have alone : joinAll '/' [piece] = piece := by
            simp [joinAll, List.intercalate, List.intersperse]
          rw [alone]
          exact splitAll_of_not_mem (whole piece List.mem_cons_self)
      | cons next rest =>
          rw [joinAll_cons_cons, splitAll_slash_append (whole piece List.mem_cons_self),
            inductionHypothesis (by simp) fun other present =>
              whole other (List.mem_cons_of_mem _ present)]

/-! ## The leading part -/

/-- A spelling begins with a slash, with a leading dot that nothing or a slash follows, or with
neither. -/
theorem leadingText_cases (spelling : List Char) :
    (∃ rest, spelling = '/' :: rest ∧ leadingText spelling = ['/'] ∧
        pieces spelling = splitAll '/' rest) ∨
      (leadingText spelling = ['.'] ∧ spelling.head? = some '.' ∧
        ∃ others, pieces spelling = [] :: others ∧ splitAll '/' spelling = ['.'] :: others) ∨
      (leadingText spelling = [] ∧ spelling.head? ≠ some '/' ∧
        pieces spelling = splitAll '/' spelling) := by
  by_cases absolute : spelling.head? = some '/'
  · obtain ⟨rest, rfl⟩ := List.head?_eq_some_iff.1 absolute
    exact .inl ⟨rest, rfl, rfl, rfl⟩
  by_cases dot : spelling = ['.']
  · subst dot
    exact .inr (.inl ⟨rfl, rfl, [], rfl, rfl⟩)
  by_cases dotSlash : ∃ rest, spelling = '.' :: '/' :: rest
  · obtain ⟨rest, rfl⟩ := dotSlash
    exact .inr (.inl ⟨rfl, rfl, splitAll '/' rest, rfl, by simp [splitAll]⟩)
  · have bare : leading? spelling = none := by
      unfold leading?
      split <;> simp_all
    exact .inr (.inr ⟨by simp [leadingText, bare], absolute, by simp [pieces, leadingText, bare]⟩)

/-- The pieces of a whole spelling that name something are those behind its leading part. -/
theorem busyPieces_pieces (spelling : List Char) :
    busyPieces (pieces spelling) = busyPieces (splitAll '/' spelling) := by
  rcases leadingText_cases spelling with
    ⟨rest, rfl, _, pieced⟩ | ⟨_, _, others, pieced, cut⟩ | ⟨_, _, pieced⟩
  · rw [pieced, splitAll, if_pos rfl]
    rfl
  · rw [pieced, cut]
    rfl
  · rw [pieced]

/-- Some pieces from the front of a spelling, behind its leading part, name what they named
in the whole spelling, and lead from the root exactly if the spelling does. -/
theorem busyPieces_splitAll_join
    {spelling : List Char}
    {front others : List (List Char)}
    (split : pieces spelling = front ++ others)
    (nonempty : spelling ≠ []) :
    busyPieces (splitAll '/' (leadingText spelling ++ joinAll '/' front)) = busyPieces front ∧
      ((leadingText spelling ++ joinAll '/' front).head? = some '/' ↔
        spelling.head? = some '/') := by
  have whole : ∀ piece ∈ front, '/' ∉ piece := by
    intro piece present
    have member : piece ∈ pieces spelling := split ▸ List.mem_append_left _ present
    exact slash_not_mem_of_mem_splitAll member
  rcases leadingText_cases spelling with
    ⟨rest, rfl, leading, cut⟩ | ⟨leading, dot, rest, pieced, _⟩ | ⟨leading, relative, pieced⟩
  · rw [leading]
    refine ⟨?_, by simp⟩
    cases front with
    | nil => rfl
    | cons first tail =>
        rw [List.singleton_append, splitAll, if_pos rfl, splitAll_joinAll (by simp) whole]
        rfl
  · rw [leading]
    refine ⟨?_, by simp [dot]⟩
    cases front with
    | nil => rfl
    | cons first tail =>
        obtain ⟨rfl, _⟩ := List.cons.inj (pieced.symm.trans split)
        cases tail with
        | nil => rfl
        | cons next tail =>
            rw [joinAll_cons_cons, List.nil_append,
              splitAll_slash_append (by decide : '/' ∉ ['.']),
              splitAll_joinAll (by simp) fun piece present =>
                whole piece (List.mem_cons_of_mem _ present)]
            rfl
  · rw [leading, List.nil_append]
    cases front with
    | nil => simpa [busyPieces, splitAll, isIdle, joinAll] using relative
    | cons first tail =>
        refine ⟨by rw [splitAll_joinAll (by simp) whole], ?_⟩
        obtain ⟨char, behind, rfl⟩ := List.exists_cons_of_ne_nil nonempty
        have other : char ≠ '/' := by simpa using relative
        have starts : ∃ letters, first = char :: letters := by
          rw [pieced, splitAll, if_neg other] at split
          split at split <;> exact ⟨_, (List.cons.inj split).1.symm⟩
        obtain ⟨letters, rfl⟩ := starts
        cases tail with
        | nil => simp [joinAll, List.intercalate, List.intersperse]
        | cons next tail => simp [joinAll_cons_cons]

/-! ## The directory -/

/-- What a path whose last step goes to a name consists of: the pieces in front of that name,
the name, and pieces that name nothing. -/
theorem exists_pieces_of_getLast?
    {path : Path}
    {name : String}
    (last : path.nameSteps.getLast? = some (.into name)) :
    ∃ before idle piece,
      pieces path.text.toList = before ++ piece :: idle ∧
        (∀ other ∈ idle, isIdle other = true) ∧ isIdle piece = false ∧
        PathStep.ofPiece piece = .into name ∧
        (busyPieces before).map PathStep.ofPiece = PathStep.moves path.nameSteps.dropLast := by
  have moved := moves_nameSteps path
  rw [PathStep.moves_of_getLast? last, ← busyPieces_pieces] at moved
  obtain ⟨front, ends, busy, frontMoves, endMoves⟩ := List.map_eq_append_iff.1 moved.symm
  obtain ⟨piece, rfl, named⟩ := List.map_eq_singleton_iff.1 endMoves
  obtain ⟨first, second, split, firstBusy, secondBusy⟩ := List.filter_eq_append_iff.1 busy
  obtain ⟨skipped, idle, rfl, skippedIdle, pieceBusy, idleRest⟩ :=
    List.filter_eq_cons_iff.1 secondBusy
  refine ⟨first ++ skipped, idle, piece, by rw [split, List.append_assoc], ?_, ?_, named, ?_⟩
  · intro other present
    simpa using List.filter_eq_nil_iff.1 idleRest other present
  · simpa using pieceBusy
  · have nothing : busyPieces skipped = [] :=
      busyPieces_eq_nil fun other present => by simpa using skippedIdle other present
    rw [busyPieces_append, nothing, List.append_nil]
    exact (congrArg _ firstBusy).trans frontMoves

/-- The last component of a path whose last step goes to a name is that name. -/
theorem fileName?_of_getLast?
    {path : Path}
    {name : String}
    (last : path.nameSteps.getLast? = some (.into name)) :
    path.fileName? = some name := by
  obtain ⟨before, idle, piece, split, idles, busy, named, _⟩ := exists_pieces_of_getLast? last
  have nothing : busyPieces idle = [] := busyPieces_eq_nil idles
  have component : componentOf piece = .name name := by
    unfold PathStep.ofPiece at named
    unfold componentOf
    split at named
    · cases named
    · split at named
      · cases named
      · next notDots =>
          rw [if_neg notDots]
          cases named
          rfl
  have pieced : (pieces path.text.toList).filter (!isIdle ·) = busyPieces before ++ [piece] := by
    show busyPieces (pieces path.text.toList) = _
    rw [split, busyPieces_append, busyPieces, busyPieces, List.filter_cons_of_pos (by simp [busy])]
    show _ ++ piece :: busyPieces idle = _
    rw [nothing]
  rw [fileName?, components, pieced, List.map_append, ← List.append_assoc]
  simp [component]

/-- The path in front of the last name of a path. -/
theorem parent?_of_pieces
    {path : Path}
    {before idle : List (List Char)}
    {piece : List Char}
    (split : pieces path.text.toList = before ++ piece :: idle)
    (idles : ∀ other ∈ idle, isIdle other = true)
    (busy : isIdle piece = false) :
    path.parent? = some ⟨String.ofList (leadingText path.text.toList ++
      joinAll '/' (before.reverse.dropWhile isIdle).reverse)⟩ := by
  have ends : (pieces path.text.toList).reverse.dropWhile isIdle = piece :: before.reverse := by
    rw [split, List.reverse_append, List.reverse_cons, List.append_assoc,
      List.dropWhile_append_of_pos fun other present =>
        idles other (List.mem_reverse.1 present)]
    simp [busy]
  unfold parent?
  simp only [ends]

/-- The last step of a path that ends in a name goes to that name. -/
theorem steps_of_getLast?
    {path : Path}
    {name : String}
    (last : path.nameSteps.getLast? = some (.into name))
    (unslashed : path.endsInSlash = false) :
    path.steps = path.nameSteps.dropLast ++ [.into name] := by
  obtain ⟨front, spelt⟩ := List.getLast?_eq_some_iff.1 last
  simp [steps, unslashed, spelt]

/-- The directory of a path is reached by the moves in front of the last name, from where the
path itself starts. -/
theorem directory_of_getLast?
    {path : Path}
    {name : String}
    (last : path.nameSteps.getLast? = some (.into name)) :
    PathStep.moves path.directory.steps = PathStep.moves path.nameSteps.dropLast ∧
      path.directory.isAbsolute = path.isAbsolute := by
  obtain ⟨before, idle, piece, split, idles, busy, _, moved⟩ := exists_pieces_of_getLast? last
  have nonempty : path.text.toList ≠ [] := by
    intro none
    have absent : path.nameSteps = [] := by simp [nameSteps, none, splitAll]
    simp [absent] at last
  obtain ⟨ending, idleEnds, frontBusy⟩ := exists_idle_end before
  have wholeSplit : pieces path.text.toList =
      (before.reverse.dropWhile isIdle).reverse ++ (ending ++ piece :: idle) := by
    rw [← List.append_assoc, ← idleEnds, split]
  obtain ⟨joined, absolute⟩ := busyPieces_splitAll_join wholeSplit nonempty
  rw [frontBusy] at joined
  have stays : ∀ other : Path, PathStep.moves other.steps = PathStep.moves other.nameSteps := by
    intro other
    rw [steps, PathStep.moves_append]
    split <;> simp [PathStep.moves]
  rw [stays, moves_nameSteps, ← moved, directory, parent?_of_pieces split idles busy]
  dsimp only
  split
  · next empty =>
      have none : leadingText path.text.toList ++
          joinAll '/' (before.reverse.dropWhile isIdle).reverse = [] := by simpa using empty
      rw [none] at joined absolute
      have relative : path.text.toList.head? ≠ some '/' := by simpa using absolute
      rw [← joined]
      exact ⟨rfl, by simp [isAbsolute, relative]⟩
  · rw [String.toList_ofList, joined]
    refine ⟨rfl, ?_⟩
    rw [isAbsolute, isAbsolute, String.toList_ofList, Bool.eq_iff_iff]
    simpa using absolute

end Path
end ConfigWiring
