/-!
# Tokens of Go source text

A token keeps its spelling, the place where it stands, the comments in front of
it, and whether a line break outside those comments separates it from the token
before.  Rows are counted from zero.
-/

namespace ConfigWiring
namespace Go

/-- A comment with its marks, and the rows on which it begins and ends. -/
structure Comment where
  text : List Char
  startRow : Nat
  endRow : Nat
  deriving DecidableEq, Repr

/-- The classes of tokens. -/
inductive TokenKind where
  | identifier
  | keyword
  | number
  | rune
  /-- A string between double quotes. -/
  | interpreted
  /-- A string between back quotes. -/
  | raw
  /-- An operator or a punctuation mark. -/
  | mark
  /-- A character that begins no token. -/
  | stray
  /-- The end of the text. -/
  | finish
  deriving DecidableEq, Repr

/-- A token in its place. -/
structure Token where
  kind : TokenKind
  /-- The spelling. -/
  text : List Char
  /-- The number of characters in front of the token. -/
  offset : Nat
  startRow : Nat
  endRow : Nat
  /-- Whether a line break stands between the token and the one before. -/
  afterBreak : Bool
  /-- The comments between the token and the one before, in order. -/
  comments : List Comment
  deriving DecidableEq, Repr

namespace Token

/-- The number of characters up to the end of the token. -/
def stop (token : Token) : Nat := token.offset + token.text.length

/-- Whether the token is a mark with the given spelling. -/
def isMark (spelling : String) (token : Token) : Bool :=
  token.kind == .mark && token.text == spelling.toList

/-- Whether the token is a keyword with the given spelling. -/
def isKeyword (spelling : String) (token : Token) : Bool :=
  token.kind == .keyword && token.text == spelling.toList

/-- Whether the token ends a line: a semicolon or a zero character. -/
def endsLine (token : Token) : Bool :=
  token.kind == .mark && (token.text == [';'] || token.text == ['\x00'])

/-- Whether the token is an identifier. -/
def isIdentifier (token : Token) : Bool := token.kind == .identifier

/-- The identifiers that stand for a value or a function of their own where a value
is expected. -/
def valueNames : List String := ["nil", "true", "false", "iota", "new", "make"]

/-- Whether the token is an identifier that may name a type or a label where a
value may stand as well. -/
def isPlainName (token : Token) : Bool :=
  token.kind == .identifier && !valueNames.any (fun name => token.text == name.toList)

/-- Whether the token is one of the identifiers in front of a call whose first
argument may be a type. -/
def isAllocator (token : Token) : Bool :=
  token.kind == .identifier && ["new", "make"].any (fun name => token.text == name.toList)

/-- Whether the token is a string. -/
def isString (token : Token) : Bool := token.kind == .interpreted || token.kind == .raw

/-- Whether the token is a literal of any kind. -/
def isLiteral (token : Token) : Bool :=
  token.isString || token.kind == .number || token.kind == .rune

/-- Whether the token is the end of the text. -/
def isFinish (token : Token) : Bool := token.kind == .finish

end Token
end Go
end ConfigWiring
