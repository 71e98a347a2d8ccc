import ConfigWiring.Go.Token

/-!
# Grammars and syntax trees

A grammar maps names to rules.  A rule is read from left to right and decides by
the next token; where two alternatives begin alike, the first one that fits wins.
Line breaks end declarations, statements and list entries, but only inside the
brackets that hold such a list: reading therefore carries a mode that tells
whether a break ends anything, and whether a brace may open a literal.
-/

namespace ConfigWiring
namespace Go

/-- The parts of a source file that are kept apart in its tree. -/
inductive NodeKind where
  | package
  | item
  | typeDeclaration
  | typeSpec
  | typeAlias
  | typeParameters
  | type
  | structType
  | field
  | names
  | embedded
  | tag
  deriving DecidableEq, Repr

/-- A syntax tree whose leaves are tokens. -/
inductive Tree where
  | leaf (token : Token)
  | node (kind : NodeKind) (children : List Tree)

/-- What the brackets around a place decide. -/
structure Mode where
  /-- Whether a line break ends what it can end. -/
  breaksEnd : Bool
  /-- Whether a brace behind a type opens a literal. -/
  braceOpensLiteral : Bool
  deriving DecidableEq, Repr

namespace Mode

/-- Inside a list of lines, such as a block. -/
def lines : Mode := ⟨true, true⟩

/-- Inside parentheses or brackets. -/
def enclosed : Mode := ⟨false, true⟩

/-- In front of a block, where a brace opens the block. -/
def header : Mode := ⟨false, false⟩

end Mode

/-- How a part of a text is read. -/
inductive Rule (name : Type) where
  /-- Nothing is read. -/
  | nothing
  /-- One token that satisfies a test. -/
  | token (test : Token -> Bool)
  /-- The end of a line: a semicolon, or a break or the end of the text, which
  are not read over. -/
  | lineEnd
  /-- No break ends the line here. -/
  | joined
  /-- The next token satisfies a test; it is not read over. -/
  | ahead (test : Token -> Bool)
  /-- A rule does not fit here; nothing is read over. -/
  | absent (rule : Rule name)
  /-- A brace opens a literal here. -/
  | literalHere
  /-- One rule after another. -/
  | both (first second : Rule name)
  /-- The first rule that fits. -/
  | either (first second : Rule name)
  /-- A rule as often as it fits. -/
  | many (rule : Rule name)
  /-- A rule in another mode. -/
  | inside (mode : Mode) (rule : Rule name)
  /-- A rule whose trees become the children of a node. -/
  | node (kind : NodeKind) (rule : Rule name)
  /-- The rule of a name. -/
  | named (name : name)

namespace Rule

variable {name : Type}

/-- Several rules, one after another. -/
def sequence : List (Rule name) -> Rule name
  | [] => nothing
  | [rule] => rule
  | rule :: rules => both rule (sequence rules)

/-- The first of several rules that fits. -/
def oneOf : List (Rule name) -> Rule name
  | [] => nothing
  | [rule] => rule
  | rule :: rules => either rule (oneOf rules)

/-- A rule, or nothing. -/
def optional (rule : Rule name) : Rule name := either rule nothing

/-- A mark. -/
def mark (spelling : String) : Rule name := token (Token.isMark spelling)

/-- A keyword. -/
def keyword (spelling : String) : Rule name := token (Token.isKeyword spelling)

/-- A mark on the line that is being read. -/
def joinedMark (spelling : String) : Rule name := both joined (mark spelling)

/-- One or more readings of a rule with a mark between them, which a line break
ends. -/
def separatedBy (spelling : String) (rule : Rule name) : Rule name :=
  both rule (many (both (joinedMark spelling) rule))

/-- Readings of a rule with commas between them, in which the list may go on
behind a line break. -/
def commaSeparated (rule : Rule name) : Rule name := both rule (many (both (mark ",") rule))

/-- One or more readings of a rule with commas between them and perhaps behind the
last one. -/
def commaEnded (rule : Rule name) : Rule name :=
  both (commaSeparated rule) (optional (mark ","))

/-- Readings of a rule with commas between them, perhaps none at all, and perhaps a
comma behind them. -/
def commaList (rule : Rule name) : Rule name :=
  both (optional (commaSeparated rule)) (optional (mark ","))

/-- Readings of a rule on lines of their own; perhaps none at all. -/
def lineList (rule : Rule name) : Rule name :=
  optional (sequence [rule, many (both lineEnd rule), optional lineEnd])

/-- Readings of a rule, each with the end of its line; perhaps none at all. -/
def lineEnded (rule : Rule name) : Rule name := many (both rule lineEnd)

/-- A rule between two marks, read in a mode of its own. -/
def enclosed (opening closing : String) (mode : Mode) (rule : Rule name) : Rule name :=
  sequence [mark opening, inside mode (both rule (mark closing))]

end Rule

/-! ## Reading -/

/-- What reading a rule gives if the rule fits: the trees read and the tokens behind
them. -/
abbrev Reading : Type := Option (List Tree × List Token)

namespace Reading

/-- Read on behind what has been read, and join the trees. -/
def andThen (first : Reading) (next : List Token -> Reading) : Reading :=
  match first with
  | none => none
  | some (trees, rest) => (next rest).map fun (trees', rest') => (trees ++ trees', rest')

/-- Wrap the trees of a reading. -/
def wrap (kind : NodeKind) (reading : Reading) : Reading :=
  reading.map fun (trees, rest) => ([.node kind trees], rest)

end Reading

/-- Whether the next token satisfies a test. -/
def nextIs (test : Token -> Bool) : List Token -> Bool
  | [] => false
  | next :: _ => test next

/-- Whether a line break stands in front of the tokens where breaks end lines. -/
def atBreak (mode : Mode) (tokens : List Token) : Bool :=
  mode.breaksEnd && nextIs Token.afterBreak tokens

/-- Read one token that satisfies a test. -/
def readToken (test : Token -> Bool) : List Token -> Reading
  | [] => none
  | next :: rest => if test next then some ([.leaf next], rest) else none

/-- Go on without reading if a condition holds. -/
def passIf (condition : Bool) (tokens : List Token) : Reading :=
  if condition then some ([], tokens) else none

/-- Read a rule of a grammar in a mode.  The number bounds the depth of the
reading. -/
def Rule.read {name : Type} (grammar : name -> Rule name) :
    Nat -> Mode -> Rule name -> List Token -> Reading
  | 0, _, _, _ => none
  | _ + 1, _, .nothing, tokens => some ([], tokens)
  | _ + 1, _, .token test, tokens => readToken test tokens
  | _ + 1, mode, .lineEnd, tokens =>
      if atBreak mode tokens then some ([], tokens) else readToken Token.endsLine tokens
  | _ + 1, mode, .joined, tokens => passIf (!atBreak mode tokens) tokens
  | _ + 1, _, .ahead test, tokens => passIf (nextIs test tokens) tokens
  | _ + 1, mode, .literalHere, tokens => passIf mode.braceOpensLiteral tokens
  | depth + 1, mode, .absent rule, tokens =>
      passIf (rule.read grammar depth mode tokens).isNone tokens
  | depth + 1, mode, .both first second, tokens =>
      (first.read grammar depth mode tokens).andThen (second.read grammar depth mode)
  | depth + 1, mode, .either first second, tokens =>
      match first.read grammar depth mode tokens with
      | none => second.read grammar depth mode tokens
      | some found => some found
  | depth + 1, mode, .many rule, tokens =>
      match rule.read grammar depth mode tokens with
      | none => some ([], tokens)
      | some (trees, rest) =>
          if rest.length < tokens.length then
            Reading.andThen (some (trees, rest)) ((Rule.many rule).read grammar depth mode)
          else some (trees, rest)
  | depth + 1, _, .inside mode rule, tokens => rule.read grammar depth mode tokens
  | depth + 1, mode, .node kind rule, tokens =>
      (rule.read grammar depth mode tokens).wrap kind
  | depth + 1, mode, .named name, tokens => (grammar name).read grammar depth mode tokens

namespace Tree

mutual

/-- The tokens of a tree in order. -/
def tokens : Tree -> List Token
  | .leaf token => [token]
  | .node _ children => tokensOfAll children

/-- The tokens of a list of trees in order. -/
def tokensOfAll : List Tree -> List Token
  | [] => []
  | tree :: trees => tree.tokens ++ tokensOfAll trees

end

/-- The first token of a tree. -/
def first? (tree : Tree) : Option Token := tree.tokens.head?

/-- The last token of a tree. -/
def last? (tree : Tree) : Option Token := tree.tokens.getLast?

end Tree
end Go
end ConfigWiring
