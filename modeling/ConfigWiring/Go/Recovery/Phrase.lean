import ConfigWiring.Go.Recovery.Terminal

/-!
# Phrases of a grammar

A grammar describes each construct of a language by a phrase.  Where a text can be
read in more than one way, ranks and sides decide: a reading of higher rank wins,
and between equal ranks the side tells whether operators group to the left or to the
right.  Where this decides nothing, all readings are followed and the weightiest one
is kept.
-/

namespace ConfigWiring
namespace Go
namespace Recovery

/-- The constructs of Go. -/
inductive Construct where
  | sourceFile
  | packageClause
  | importDeclaration
  | importSpec
  | dot
  | importSpecList
  | declaration
  | constDeclaration
  | constSpec
  | varDeclaration
  | varSpec
  | varSpecList
  | functionDeclaration
  | methodDeclaration
  | typeParameterList
  | typeParameterDeclaration
  | parameterList
  | parameterDeclaration
  | variadicParameterDeclaration
  | typeAlias
  | typeDeclaration
  | typeSpec
  | expressionList
  | parenthesizedType
  | simpleType
  | genericType
  | typeArguments
  | pointerType
  | arrayType
  | implicitLengthArrayType
  | sliceType
  | structType
  | negatedType
  | fieldDeclarationList
  | fieldDeclaration
  | interfaceType
  | methodElement
  | typeElement
  | mapType
  | channelType
  | functionType
  | block
  | statementList
  | statement
  | emptyStatement
  | simpleStatement
  | expressionStatement
  | sendStatement
  | receiveStatement
  | incStatement
  | decStatement
  | assignmentStatement
  | shortVarDeclaration
  | labeledStatement
  | emptyLabeledStatement
  | fallthroughStatement
  | breakStatement
  | continueStatement
  | gotoStatement
  | returnStatement
  | goStatement
  | deferStatement
  | ifStatement
  | forStatement
  | forClause
  | rangeClause
  | expressionSwitchStatement
  | expressionCase
  | defaultCase
  | typeSwitchStatement
  | typeSwitchHeader
  | typeCase
  | selectStatement
  | communicationCase
  | expression
  | parenthesizedExpression
  | callExpression
  | variadicArgument
  | specialArgumentList
  | argumentList
  | selectorExpression
  | indexExpression
  | sliceExpression
  | typeAssertionExpression
  | typeConversionExpression
  | typeInstantiationExpression
  | compositeLiteral
  | literalValue
  | literalElement
  | keyedElement
  | functionLiteral
  | unaryExpression
  | binaryExpression
  | qualifiedType
  | rawString
  | interpretedString
  deriving DecidableEq, Repr, Hashable

/-- How operators of one rank group. -/
inductive Side where
  | left
  | right
  deriving DecidableEq, Repr

/-- What a construct may consist of. -/
inductive Phrase where
  | nothing
  | terminal (terminal : Terminal)
  | construct (construct : Construct)
  /-- One phrase after another. -/
  | both (first second : Phrase)
  /-- One of two phrases. -/
  | either (first second : Phrase)
  /-- A phrase one or more times. -/
  | repeated (phrase : Phrase)
  /-- A phrase of a rank. -/
  | ranked (rank : Int) (phrase : Phrase)
  /-- A phrase whose parts group to a side. -/
  | grouped (side : Side) (phrase : Phrase)
  /-- A phrase that weighs in where readings compete. -/
  | weighted (weight : Int) (phrase : Phrase)
  /-- A phrase under another name. -/
  | renamed (name : String) (phrase : Phrase)
  deriving DecidableEq, Repr

namespace Phrase

instance : Coe Construct Phrase := ⟨construct⟩

instance : Coe Terminal Phrase := ⟨terminal⟩

instance : Coe String Phrase := ⟨fun spelling => terminal (.spelled spelling)⟩

/-- Several phrases, one after another. -/
def sequence : List Phrase -> Phrase
  | [] => nothing
  | [phrase] => phrase
  | phrase :: phrases => both phrase (sequence phrases)

/-- One of several phrases. -/
def choice : List Phrase -> Phrase
  | [] => nothing
  | [phrase] => phrase
  | phrase :: phrases => either phrase (choice phrases)

/-- A phrase, or nothing. -/
def optional (phrase : Phrase) : Phrase := either phrase nothing

/-- A phrase any number of times. -/
def many (phrase : Phrase) : Phrase := optional (repeated phrase)

/-- A phrase one or more times with a mark in between. -/
def separated (mark : String) (phrase : Phrase) : Phrase := both phrase (many (both mark phrase))

/-- A phrase one or more times with commas in between. -/
def commas (phrase : Phrase) : Phrase := separated "," phrase

/-- A phrase of a rank whose parts group to the left. -/
def leftward (rank : Int) (phrase : Phrase) : Phrase := ranked rank (grouped .left phrase)

/-- A phrase of a rank whose parts group to the right. -/
def rightward (rank : Int) (phrase : Phrase) : Phrase := ranked rank (grouped .right phrase)

end Phrase
end Recovery
end Go
end ConfigWiring
