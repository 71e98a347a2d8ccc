import ConfigWiring.Text.Identifier

/-!
# Terminals of Go

The smallest parts of a source text as a grammar sees them.  Strings fall into their
quotes and what stands between them, and a line break is a terminal where it can end
a line.  The order of all terminals says which one is tried first where something is
missing.
-/

namespace ConfigWiring
namespace Go
namespace Recovery

open Text

/-- A smallest part of a source text. -/
inductive Terminal where
  /-- The end of the text. -/
  | finish
  | identifier
  /-- One or more line feeds. -/
  | lineBreak
  /-- A zero character. -/
  | zero
  /-- An underscore instead of the name of an import. -/
  | blankName
  /-- What stands between back quotes. -/
  | rawText
  /-- What stands between double quotes, up to an escape. -/
  | quotedText
  /-- The quote that ends a string. -/
  | closingQuote
  | escape
  | whole
  | fractional
  | imaginary
  | rune
  | comment
  /-- A keyword, an operator or a punctuation mark. -/
  | spelled (spelling : String)
  deriving DecidableEq, Repr, Inhabited

namespace Terminal

/-- All terminals. -/
def all : List Terminal :=
  [finish, identifier, lineBreak, spelled ";", zero] ++
  ["package", "import", "."].map spelled ++
  [blankName] ++
  ["(", ")", "const", ",", "=", "var", "func", "[", "]", "...", "type", "*", "struct", "~", "\x7b",
    "\x7d", "interface", "|", "map", "chan", "<-", ":=", "++", "--", "*=", "/=", "%=", "<<=",
    ">>=", "&=", "&^=", "+=", "-=", "|=", "^=", ":", "fallthrough", "break", "continue", "goto",
    "return", "go", "defer", "if", "else", "for", "range", "switch", "case", "default", "select",
    "new", "make", "+", "-", "!", "^", "&", "/", "%", "<<", ">>", "&^", "==", "!=", "<", "<=",
    ">", ">=", "&&", "||", String.singleton (Char.ofNat 96)].map spelled ++
  [rawText, spelled "\"", quotedText, closingQuote, escape, whole, fractional, imaginary, rune] ++
  ["nil", "true", "false", "iota"].map spelled ++
  [comment]

/-- What a terminal is called where one is missing. -/
def name : Terminal -> String
  | finish => "end"
  | identifier => "identifier"
  | lineBreak => "\n"
  | zero => ""
  | blankName => "blank_identifier"
  | rawText => "raw_string_literal_content"
  | quotedText => "interpreted_string_literal_content"
  | closingQuote => "\""
  | escape => "escape_sequence"
  | whole => "int_literal"
  | fractional => "float_literal"
  | imaginary => "imaginary_literal"
  | rune => "rune_literal"
  | comment => "comment"
  | spelled spelling => spelling

/-- Whether a terminal is a node of its own in a tree. -/
def isShown : Terminal -> Bool
  | finish | lineBreak | rawText | quotedText => false
  | _ => true

/-- The word that a terminal consists of, if it looks like an identifier. -/
def word? : Terminal -> Option String
  | blankName => some "_"
  | spelled spelling => if spelling.toList.all isIdentifierStart then some spelling else none
  | _ => none

/-- The words that are never identifiers. -/
def reserved : List String :=
  ["break", "case", "chan", "const", "continue", "default", "defer", "else", "fallthrough",
    "for", "func", "go", "goto", "if", "import", "interface", "map", "package", "range",
    "return", "select", "struct", "switch", "type", "var"]

/-- The terminals in an array. -/
def array : Array Terminal := all.toArray

/-- The number of a terminal. -/
def code (terminal : Terminal) : Nat := all.findIdx (· == terminal)

end Terminal

/-! ## Sets of terminals -/

/-- A set of terminals; its bits stand for their numbers. -/
structure TerminalSet where
  bits : Nat
  deriving DecidableEq, Repr, Hashable

namespace TerminalSet

/-- The set without terminals. -/
def empty : TerminalSet := ⟨0⟩

/-- The set of one terminal. -/
def single (code : Nat) : TerminalSet := ⟨1 <<< code⟩

/-- The set of some terminals. -/
def ofCodes (codes : List Nat) : TerminalSet :=
  ⟨codes.foldl (fun bits code => bits ||| (1 <<< code)) 0⟩

/-- Whether a terminal belongs to a set. -/
def contains (set : TerminalSet) (code : Nat) : Bool := set.bits.testBit code

/-- The terminals of either set. -/
def union (first second : TerminalSet) : TerminalSet := ⟨first.bits ||| second.bits⟩

/-- Whether two sets have a terminal in common. -/
def meets (first second : TerminalSet) : Bool := (first.bits &&& second.bits) != 0

/-- The numbers of the terminals of a set, in order. -/
def codes (set : TerminalSet) : List Nat :=
  (List.range Terminal.all.length).filter set.contains

end TerminalSet

namespace Terminal

/-- Each word that is a terminal of its own, with the terminal's number. -/
def words : List (List Char × Nat) :=
  array.toList.zipIdx.filterMap fun (terminal, code) =>
    terminal.word?.map fun word => (word.toList, code)

/-- The marks, longer ones first, each with the terminal's number. -/
def marks : List (List Char × Nat) :=
  let spelledMarks := array.toList.zipIdx.filterMap fun (terminal, code) =>
    match terminal with
    | .spelled spelling => if terminal.word?.isNone then some (spelling.toList, code) else none
    | _ => none
  [3, 2, 1].flatMap fun length =>
    spelledMarks.filter fun (spelling, _) => spelling.length == length

/-- The terminals that are words. -/
def wordSet : TerminalSet := .ofCodes (words.map (·.2))

/-- The terminals that are reserved words. -/
def reservedSet : TerminalSet := .ofCodes (reserved.map fun word => (spelled word).code)

/-- The terminals that are looked for behind a fault: all that cannot be taken for
nearly anything. -/
def soughtSet : TerminalSet :=
  .ofCodes ((List.range all.length).filter fun code =>
    !([lineBreak, rawText, quotedText].contains (array.getD code .finish)))

end Terminal
end Recovery
end Go
end ConfigWiring
