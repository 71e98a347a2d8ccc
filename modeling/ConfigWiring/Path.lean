import ConfigWiring.Text.Split

/-!
# Slash-separated paths

A path is kept as it is spelt.  Its components are read off the text: empty ones
and single dots fall away, except for a dot at the very start, and a leading
slash is a component of its own.  Two spellings name the same place exactly when
their components agree.
-/

namespace ConfigWiring

open Text

/-- A path as it is spelt. -/
structure Path where
  /-- The spelling. -/
  text : String
  deriving DecidableEq, Repr

namespace Path

instance : Inhabited Path := ⟨⟨""⟩⟩

instance : ToString Path := ⟨Path.text⟩

/-- A part of a path between two slashes, or the slash at its start. -/
inductive Component where
  /-- The leading slash. -/
  | root
  /-- A dot at the start of a relative path. -/
  | here
  /-- Two dots. -/
  | up
  /-- The name of an entry. -/
  | name (text : String)
  deriving DecidableEq, Repr

/-- Whether a path begins at the root. -/
def isAbsolute (path : Path) : Bool := path.text.toList.head? == some '/'

/-- The part of the spelling in front of the names, as a component and its length:
the leading slash or the leading dot. -/
def leading? (spelling : List Char) : Option (Component × List Char) :=
  match spelling with
  | '/' :: _ => some (.root, ['/'])
  | ['.'] => some (.here, ['.'])
  | '.' :: '/' :: _ => some (.here, ['.'])
  | _ => none

/-- The spelling of what `leading?` finds. -/
def leadingText (spelling : List Char) : List Char :=
  match leading? spelling with
  | some (_, text) => text
  | none => []

/-- The pieces between slashes behind the leading part. -/
def pieces (spelling : List Char) : List (List Char) :=
  splitAll '/' (spelling.drop (leadingText spelling).length)

/-- Whether a piece names nothing: it is empty or a single dot. -/
def isIdle (piece : List Char) : Bool := piece == [] || piece == ['.']

/-- The component that a piece names. -/
def componentOf (piece : List Char) : Component :=
  if piece = ['.', '.'] then .up else .name (String.ofList piece)

/-- The components of a path. -/
def components (path : Path) : List Component :=
  ((leading? path.text.toList).map Prod.fst).toList ++
    ((pieces path.text.toList).filter (!isIdle ·)).map componentOf

/-- Whether two spellings have the same components. -/
def agrees (left right : Path) : Bool := left.components == right.components

/-- The last component, if it is the name of an entry. -/
def fileName? (path : Path) : Option String :=
  match path.components.getLast? with
  | some (.name text) => some text
  | _ => none

/-- The path without its last component, spelt as it was up to there; a path of
no components and the root have none. -/
def parent? (path : Path) : Option Path :=
  let spelling := path.text.toList
  match (pieces spelling).reverse.dropWhile isIdle with
  | _ :: before =>
      some ⟨String.ofList (leadingText spelling ++
        joinAll '/' (before.dropWhile isIdle).reverse)⟩
  | [] =>
      match leading? spelling with
      | some (.here, _) => some ⟨""⟩
      | _ => none

/-- The path of the second argument seen from the first: an absolute path stands
for itself, any other is put behind a slash. -/
def join (base other : Path) : Path :=
  if other.isAbsolute then other
  else if base.text.isEmpty || base.text.toList.getLast? == some '/' then
    ⟨base.text ++ other.text⟩
  else ⟨base.text ++ "/" ++ other.text⟩

instance : HDiv Path String Path := ⟨fun base name => base.join ⟨name⟩⟩

theorem join_absolute {base other : Path} (absolute : other.isAbsolute = true) :
    base.join other = other := by
  simp [join, absolute]

theorem agrees_iff {left right : Path} :
    left.agrees right = true ↔ left.components = right.components := by
  simp [agrees]

end Path
end ConfigWiring
