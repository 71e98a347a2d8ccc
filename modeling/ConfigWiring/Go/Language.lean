import ConfigWiring.Go.Grammar

/-!
# The grammar of Go source files

A file is a list of items, each on lines of its own.  Besides declarations, a
statement or an expression may stand at the top level, so fragments of programs
are files as well.  Only the parts that declare types leave nodes in the tree.

The rules accept valid files only.  They leave out what cannot be decided by
looking at the next tokens, such as a conversion to a channel type; files with such
parts are valid as well, but it takes more than these rules to read them.
-/

namespace ConfigWiring
namespace Go

/-- The parts of a source file. -/
inductive Part where
  | file
  | declaration
  | item
  | packageClause
  | importDeclaration
  | importSpec
  | functionDeclaration
  | methodDeclaration
  | constDeclaration
  | constSpec
  | varDeclaration
  | varSpec
  | typeDeclaration
  | typeSpec
  | typeParameters
  | type
  | simpleType
  | typeName
  | typeArguments
  | typeElement
  | arrayType
  | structType
  | field
  | embeddedField
  | interfaceType
  | interfaceElement
  | mapType
  | channelType
  | parameters
  | parameter
  | result
  | statement
  | statements
  | emptyLabel
  | block
  | simpleStatement
  | simpleEnd
  | ifStatement
  | forHeader
  | forClause
  | typeSwitchHeader
  | switchHeader
  | typeClause
  | valueClause
  | communicationClause
  | defaultClause
  | expressions
  | expression
  | unaryExpression
  | primaryExpression
  | operand
  | literalType
  | allocation
  | functionLiteral
  | literalValue
  | literalElement
  | suffix
  | call
  | index
  | colons
  deriving DecidableEq, Repr

namespace Part

open Rule

/-- Marks between two operands. -/
def binaryMarks : List String :=
  ["||", "&&", "==", "!=", "<", "<=", ">", ">=", "+", "-", "|", "^", "*", "/", "%", "<<", ">>",
    "&", "&^"]

/-- Marks in front of an operand. -/
def unaryMarks : List String := ["+", "-", "!", "^", "*", "&", "<-"]

/-- Marks that define or assign the names in front of them. -/
def definingMarks : List String := ["=", ":="]

/-- Marks between the two sides of an assignment. -/
def assignMarks : List String :=
  ["=", ":=", "+=", "-=", "*=", "/=", "%=", "&=", "|=", "^=", "<<=", ">>=", "&^="]

/-- One of several marks. -/
def oneMark (spellings : List String) : Rule Part :=
  .token fun token => spellings.any fun spelling => token.isMark spelling

/-- An identifier. -/
def identifier : Rule Part := .token Token.isIdentifier

/-- A name of a type or a label where a value may stand as well. -/
def plainName : Rule Part := .token Token.isPlainName

/-- A rule on the line that is being read, or nothing. -/
def onLine (rule : Rule Part) : Rule Part := optional (both joined rule)

/-- A rule between braces that hold lines. -/
def braced (rule : Rule Part) : Rule Part := enclosed "\x7b" "\x7d" .lines rule

/-- A rule between parentheses. -/
def parenthesized (rule : Rule Part) : Rule Part := enclosed "(" ")" .enclosed rule

/-- A rule between brackets. -/
def bracketed (rule : Rule Part) : Rule Part := enclosed "[" "]" .enclosed rule

/-- One entry, or a list of entries in parentheses, each with the end of its
line. -/
def entries (entry : Rule Part) : Rule Part :=
  either (enclosed "(" ")" .lines (lineEnded entry)) entry

/-- Further expressions behind the first one of a list, or nothing. -/
def furtherExpressions : Rule Part := optional (both (mark ",") (named expressions))

/-- A list of statements behind a colon. -/
def clauseBody : Rule Part := both (mark ":") (named statements)

/-- A clause behind the keyword of a case. -/
def caseOf (head : Rule Part) : Rule Part :=
  sequence [keyword "case", .inside .enclosed head, clauseBody]

/-- Whether a token ends a field that consists of a type alone. -/
def endsField (token : Token) : Bool :=
  token.afterBreak || token.endsLine || token.isString || token.isMark "\x7d"

/-- Whether a token ends a list of statements. -/
def endsStatements (token : Token) : Bool :=
  token.isMark "\x7d" || token.isKeyword "case" || token.isKeyword "default"

/-- Whether a type may begin with a token. -/
def beginsType (token : Token) : Bool :=
  token.isIdentifier ||
    ["(", "*", "[", "~", "<-"].any (fun mark => token.isMark mark) ||
    ["struct", "interface", "map", "chan", "func"].any (fun word => token.isKeyword word)

/-- The result of a function, or nothing if no type begins on the line. -/
def resultOnLine : Rule Part :=
  either (both joined (named result)) (absent (both joined (ahead beginsType)))

/-- How each part is read. -/
def rule : Part -> Rule Part
  | file =>
      both (lineEnded (named item)) (optional (.node .item (named declaration)))
  | declaration =>
      oneOf [named packageClause, named importDeclaration, named functionDeclaration,
        named methodDeclaration]
  | item => .node .item (either (named declaration) (named statement))
  | packageClause => .node .package (both (keyword "package") identifier)
  | importDeclaration =>
      both (keyword "import")
        (either (enclosed "(" ")" .lines (lineList (named importSpec))) (named importSpec))
  | importSpec => both (optional (either (mark ".") identifier)) (.token Token.isString)
  | functionDeclaration =>
      sequence [keyword "func", identifier, optional (named typeParameters), named parameters,
        resultOnLine, onLine (named block)]
  | methodDeclaration =>
      sequence [keyword "func", named parameters, identifier, named parameters,
        resultOnLine, onLine (named block)]
  | constDeclaration => both (keyword "const") (entries (named constSpec))
  | constSpec =>
      both (separatedBy "," identifier)
        (onLine (sequence [optional (named type), mark "=", named expressions]))
  | varDeclaration => both (keyword "var") (entries (named varSpec))
  | varSpec =>
      both (commaSeparated identifier)
        (either (both (mark "=") (named expressions))
          (both (named type) (onLine (both (mark "=") (named expressions)))))
  | typeDeclaration =>
      .node .typeDeclaration (both (keyword "type") (entries (named typeSpec)))
  | typeSpec =>
      oneOf [
        .node .typeSpec (both identifier (.node .type (named type))),
        .node .typeAlias
          (sequence [identifier, optional (named typeParameters), mark "=", named type]),
        .node .typeSpec
          (sequence [identifier, named typeParameters, .node .type (named type)])]
  | typeParameters =>
      .node .typeParameters (bracketed
        (both (ahead Token.isPlainName)
          (commaEnded (both (commaSeparated identifier) (named typeElement)))))
  | type => either (parenthesized (named type)) (named simpleType)
  | simpleType =>
      oneOf [named typeName, both (oneMark ["*", "~"]) (named type), named structType,
        named interfaceType, named arrayType, named mapType, named channelType,
        sequence [keyword "func", named parameters, resultOnLine]]
  | typeName =>
      sequence [plainName, onLine (both (mark ".") identifier), onLine (named typeArguments)]
  | typeArguments => bracketed (commaEnded (named typeElement))
  | typeElement => separatedBy "|" (named type)
  | arrayType =>
      both
        (sequence [mark "[",
          .inside .enclosed (either (mark "]") (both (named expression) (mark "]")))])
        (named type)
  | structType => .node .structType (both (keyword "struct") (braced (lineList (named field))))
  | field =>
      .node .field (both
        (oneOf [both (mark "*") (named embeddedField),
          both (named embeddedField) (ahead endsField),
          both
            (.node .names (both identifier (onLine (both (mark ",") (commaSeparated identifier)))))
            (named type)])
        (onLine (.node .tag (.token Token.isString))))
  | embeddedField => .node .embedded (named typeName)
  | interfaceType => both (keyword "interface") (braced (lineList (named interfaceElement)))
  | interfaceElement =>
      either (sequence [identifier, joined, named parameters, resultOnLine])
        (named typeElement)
  | mapType => sequence [keyword "map", bracketed (named type), named type]
  | channelType =>
      either (sequence [keyword "chan", optional (mark "<-"), named type])
        (sequence [mark "<-", keyword "chan", named type])
  | parameters => parenthesized (commaList (named parameter))
  | parameter =>
      either (sequence [identifier, optional (mark "..."), named type])
        (both (optional (mark "...")) (named type))
  | result => either (named parameters) (named simpleType)
  | statement =>
      oneOf [named constDeclaration, named typeDeclaration, named varDeclaration,
        both (keyword "return") (onLine (named expressions)),
        both (either (keyword "go") (keyword "defer")) (named expression),
        named ifStatement,
        sequence [keyword "for", .inside .header (optional (named forHeader)), named block],
        sequence [keyword "switch", .inside .header (named typeSwitchHeader),
          braced (.many (either (named typeClause) (named defaultClause)))],
        sequence [keyword "switch", .inside .header (named switchHeader),
          braced (.many (either (named valueClause) (named defaultClause)))],
        both (keyword "select")
          (braced (.many (either (named communicationClause) (named defaultClause)))),
        keyword "fallthrough",
        both (either (keyword "break") (keyword "continue")) (onLine identifier),
        both (keyword "goto") identifier,
        named block,
        mark ";",
        sequence [plainName, joinedMark ":", named statement],
        named simpleStatement]
  | statements =>
      oneOf [
        named emptyLabel,
        sequence [named statement,
          .many (sequence [lineEnd, absent (named emptyLabel), named statement]),
          optional (both lineEnd (optional (named emptyLabel)))],
        nothing]
  | emptyLabel => sequence [plainName, joinedMark ":", ahead endsStatements]
  | block => braced (named statements)
  | simpleStatement => both (named expression) (onLine (named simpleEnd))
  | simpleEnd =>
      oneOf [sequence [furtherExpressions, oneMark assignMarks, named expressions],
        oneMark ["++", "--"],
        both (mark "<-") (named expression)]
  | ifStatement =>
      sequence [keyword "if",
        .inside .header (both (named expression)
          (optional (sequence [optional (named simpleEnd), mark ";", named expression]))),
        named block,
        onLine (both (keyword "else") (either (named block) (named ifStatement)))]
  | forHeader =>
      oneOf [
        both (keyword "range") (named expression),
        named forClause,
        both (named expression) (oneOf [
          sequence [furtherExpressions, oneMark definingMarks, keyword "range",
            named expression],
          both (optional (named simpleEnd)) (named forClause),
          nothing])]
  | forClause =>
      sequence [mark ";", optional (named expression), mark ";",
        optional (named simpleStatement)]
  | typeSwitchHeader =>
      sequence [optional (both (named simpleStatement) (mark ";")),
        optional (both (named expressions) (mark ":=")),
        named primaryExpression, mark ".", mark "(", keyword "type", mark ")"]
  | switchHeader =>
      both (optional (both (named simpleStatement) (mark ";"))) (optional (named expression))
  | typeClause => caseOf (commaSeparated (named type))
  | valueClause => caseOf (named expressions)
  | communicationClause =>
      caseOf (both (named expression) (optional (either
        (both (mark "<-") (named expression))
        (sequence [furtherExpressions, oneMark definingMarks, named expression]))))
  | defaultClause => both (keyword "default") clauseBody
  | expressions => separatedBy "," (named expression)
  | expression =>
      both (named unaryExpression)
        (.many (sequence [joined, oneMark binaryMarks, named unaryExpression]))
  | unaryExpression => both (.many (oneMark unaryMarks)) (named primaryExpression)
  | primaryExpression => both (named operand) (.many (both joined (named suffix)))
  | operand =>
      oneOf [.token Token.isLiteral,
        both (named literalType) (either (named literalValue)
          (parenthesized (both (named expression) (optional (mark ","))))),
        sequence [mark "[", mark "...", mark "]", named type, named literalValue],
        sequence [named typeName, literalHere, joined, named literalValue],
        named allocation,
        both (absent (sequence [.token Token.isAllocator, joinedMark "("])) identifier,
        named functionLiteral,
        parenthesized (named expression)]
  | literalType => oneOf [named arrayType, named mapType, named structType]
  | allocation =>
      sequence [.token Token.isAllocator, joined,
        parenthesized (optional (sequence [named type,
          .many (both (mark ",") (named expression)), optional (mark ",")]))]
  | functionLiteral =>
      sequence [keyword "func", named parameters, resultOnLine, named block]
  | literalValue => enclosed "\x7b" "\x7d" .enclosed (commaList (named literalElement))
  | literalElement =>
      both (either (named literalValue) (named expression))
        (optional (both (mark ":") (either (named literalValue) (named expression))))
  | suffix =>
      oneOf [
        both (mark ".") (either identifier (parenthesized (named type))),
        named call,
        bracketed (named index),
        both (named typeArguments) (named call)]
  | call =>
      parenthesized (optional (commaEnded (both (named expression) (optional (mark "...")))))
  | index => either (both (named expression) (optional (named colons))) (named colons)
  | colons =>
      both (mark ":")
        (optional (both (named expression) (optional (both (mark ":") (named expression)))))

end Part

/-- The items of a file whose parts the rules can read. -/
def readFile (tokens : List Token) : Option (List Tree) :=
  match (Rule.named Part.file).read Part.rule (100 * (tokens.length + 1)) .lines tokens with
  | some (trees, rest) => if rest.all Token.isFinish then some trees else none
  | none => none

end Go
end ConfigWiring
