import ConfigWiring.Go.Recovery.Phrase

/-!
# What the constructs of Go consist of

The phrases take in more than valid Go: they do not check what a program means, and
they accept statements at the top level of a file.
-/

namespace ConfigWiring
namespace Go
namespace Recovery
namespace Construct

open Phrase

/-- All constructs. -/
def all : List Construct :=
  [sourceFile, packageClause, importDeclaration, importSpec, dot, importSpecList, declaration,
    constDeclaration, constSpec, varDeclaration, varSpec, varSpecList, functionDeclaration,
    methodDeclaration, typeParameterList, typeParameterDeclaration, parameterList,
    parameterDeclaration, variadicParameterDeclaration, typeAlias, typeDeclaration, typeSpec,
    expressionList, parenthesizedType, simpleType, genericType, typeArguments, pointerType,
    arrayType, implicitLengthArrayType, sliceType, structType, negatedType,
    fieldDeclarationList, fieldDeclaration, interfaceType, methodElement, typeElement, mapType,
    channelType, functionType, block, statementList, statement, emptyStatement,
    simpleStatement, expressionStatement, sendStatement, receiveStatement, incStatement,
    decStatement, assignmentStatement, shortVarDeclaration, labeledStatement,
    emptyLabeledStatement, fallthroughStatement, breakStatement, continueStatement,
    gotoStatement, returnStatement, goStatement, deferStatement, ifStatement, forStatement,
    forClause, rangeClause, expressionSwitchStatement, expressionCase, defaultCase,
    typeSwitchStatement, typeSwitchHeader, typeCase, selectStatement, communicationCase,
    expression, parenthesizedExpression, callExpression, variadicArgument,
    specialArgumentList, argumentList, selectorExpression, indexExpression, sliceExpression,
    typeAssertionExpression, typeConversionExpression, typeInstantiationExpression,
    compositeLiteral, literalValue, literalElement, keyedElement, functionLiteral,
    unaryExpression, binaryExpression, qualifiedType, rawString, interpretedString]

/-- The constructs that only sum up others and are no nodes of a tree. -/
def isShown : Construct -> Bool
  | declaration | simpleType | statement | simpleStatement | typeSwitchHeader | expression =>
      false
  | _ => true

/-! ## Parts that several constructs share -/

/-- The rank of a negligible reading. -/
def literalRank : Int := -1

/-- The rank of an operator in front of its operand. -/
def unaryRank : Int := 6

/-- The rank of what follows an operand. -/
def primaryRank : Int := 7

/-- The name of a type. -/
def typeName : Phrase := renamed "type_identifier" Terminal.identifier

/-- The name of a field or a method. -/
def fieldName : Phrase := renamed "field_identifier" Terminal.identifier

/-- The name of a package. -/
def packageName : Phrase := renamed "package_identifier" Terminal.identifier

/-- The name of a label. -/
def labelName : Phrase := renamed "label_name" Terminal.identifier

/-- A type. -/
def type : Phrase := either simpleType parenthesizedType

/-- A string. -/
def string : Phrase := either rawString interpretedString

/-- The end of a line. -/
def lineEnd : Phrase := choice [Terminal.lineBreak, ";", Terminal.zero]

/-- A phrase any number of times, each time with the end of its line. -/
def lines (phrase : Phrase) : Phrase := many (both phrase lineEnd)

/-- A phrase any number of times with the end of a line in between and perhaps
behind the last one. -/
def lineSeparated (phrase : Phrase) : Phrase :=
  optional (sequence [phrase, many (both lineEnd phrase), optional lineEnd])

/-- Marks of the operators that multiply. -/
def multiplying : List String := ["*", "/", "%", "<<", ">>", "&", "&^"]

/-- Marks of the operators that add. -/
def adding : List String := ["+", "-", "|", "^"]

/-- Marks of the operators that compare. -/
def comparing : List String := ["==", "!=", "<", "<=", ">", ">="]

/-- One of several marks. -/
def oneOf (marks : List String) : Phrase := choice (marks.map fun mark => .terminal (.spelled mark))

/-- The parameters and the result of a function. -/
def signature : Phrase :=
  both parameterList (Phrase.optional (either parameterList simpleType))

/-- A word that allocates memory. -/
def allocator : Phrase := renamed "identifier" (either "new" "make")

/-- A simple statement in front of a condition. -/
def initializer : Phrase := optional (both simpleStatement ";")

/-- A label at the end of a list of statements. -/
def lastLabel : Phrase := renamed "labeled_statement" emptyLabeledStatement

/-- The names on the left side of a definition or an assignment. -/
def receivers : Phrase := optional (both expressionList (either "=" ":="))

/-- A list in parentheses or braces, with a comma behind its last entry or not. -/
def listIn (opening closing : String) (entries : Phrase) : Phrase :=
  sequence [opening, optional (both entries (optional ",")), closing]

/-! ## The constructs -/

/-- What a construct consists of. -/
def phrase : Construct -> Phrase
  | sourceFile =>
      both
        (many (either (both statement lineEnd)
          (both (choice [packageClause, functionDeclaration, methodDeclaration,
            importDeclaration]) lineEnd)))
        (optional (choice [packageClause, functionDeclaration, methodDeclaration,
          importDeclaration]))
  | packageClause => both "package" packageName
  | importDeclaration => both "import" (either importSpec importSpecList)
  | importSpec => both (optional (choice [dot, Terminal.blankName, packageName])) string
  | dot => "."
  | importSpecList => sequence ["(", lineSeparated importSpec, ")"]
  | declaration => choice [constDeclaration, typeDeclaration, varDeclaration]
  | constDeclaration => both "const" (either constSpec (sequence ["(", lines constSpec, ")"]))
  | constSpec =>
      leftward 0 (both (commas Terminal.identifier)
        (optional (sequence [optional type, "=", expressionList])))
  | varDeclaration => both "var" (either varSpec varSpecList)
  | varSpec =>
      both (commas Terminal.identifier)
        (either (both type (optional (both "=" expressionList))) (both "=" expressionList))
  | varSpecList => sequence ["(", lines varSpec, ")"]
  | functionDeclaration =>
      rightward 1 (sequence ["func", Terminal.identifier, optional typeParameterList,
        signature, optional block])
  | methodDeclaration =>
      rightward 1 (sequence ["func", parameterList, fieldName, signature, optional block])
  | typeParameterList => sequence ["[", commas typeParameterDeclaration, optional ",", "]"]
  | typeParameterDeclaration =>
      both (commas Terminal.identifier) (renamed "type_constraint" typeElement)
  | parameterList =>
      sequence ["(",
        optional (both
          (optional (commas (either parameterDeclaration variadicParameterDeclaration)))
          (optional ",")),
        ")"]
  | parameterDeclaration => both (optional (commas Terminal.identifier)) type
  | variadicParameterDeclaration =>
      sequence [optional Terminal.identifier, "...", type]
  | typeAlias => sequence [typeName, optional typeParameterList, "=", type]
  | typeDeclaration =>
      both "type" (choice [typeSpec, typeAlias,
        sequence ["(", lines (either typeSpec typeAlias), ")"]])
  | typeSpec => sequence [typeName, optional typeParameterList, type]
  | expressionList => commas expression
  | parenthesizedType => sequence ["(", type, ")"]
  | simpleType =>
      choice [weighted (-1) typeName, genericType, qualifiedType, pointerType, structType,
        interfaceType, arrayType, sliceType, mapType, channelType, functionType, negatedType]
  | genericType =>
      weighted 1 (both (choice [typeName, qualifiedType, negatedType]) typeArguments)
  | typeArguments => weighted 2 (sequence ["[", commas typeElement, optional ",", "]"])
  | pointerType => ranked unaryRank (both "*" type)
  | arrayType => rightward 0 (sequence ["[", expression, "]", type])
  | implicitLengthArrayType => sequence ["[", "...", "]", type]
  | sliceType => rightward 0 (sequence ["[", "]", type])
  | structType => both "struct" fieldDeclarationList
  | negatedType => leftward 0 (both "~" type)
  | fieldDeclarationList => sequence ["\x7b", lineSeparated fieldDeclaration, "\x7d"]
  | fieldDeclaration =>
      both
        (either (both (commas fieldName) type)
          (both (optional "*") (choice [typeName, qualifiedType, genericType])))
        (optional string)
  | interfaceType =>
      sequence ["interface", "\x7b", lineSeparated (either methodElement typeElement), "\x7d"]
  | methodElement => both fieldName signature
  | typeElement => separated "|" type
  | mapType => rightward 0 (sequence ["map", "[", type, "]", type])
  | channelType =>
      leftward 0 (choice [both "chan" type, sequence ["chan", "<-", type],
        ranked unaryRank (sequence ["<-", "chan", type])])
  | functionType => rightward 0 (both "func" signature)
  | block => sequence ["\x7b", optional statementList, "\x7d"]
  | statementList =>
      either
        (sequence [statement, many (both lineEnd statement),
          optional (both lineEnd (optional lastLabel))])
        lastLabel
  | statement =>
      choice [declaration, simpleStatement, returnStatement, goStatement, deferStatement,
        ifStatement, forStatement, expressionSwitchStatement, typeSwitchStatement,
        selectStatement, labeledStatement, fallthroughStatement, breakStatement,
        continueStatement, gotoStatement, block, emptyStatement]
  | emptyStatement => ";"
  | simpleStatement =>
      choice [expressionStatement, sendStatement, incStatement, decStatement,
        assignmentStatement, shortVarDeclaration]
  | expressionStatement => expression
  | sendStatement => sequence [expression, "<-", expression]
  | receiveStatement => both receivers expression
  | incStatement => both expression "++"
  | decStatement => both expression "--"
  | assignmentStatement =>
      sequence [expressionList,
        oneOf ((multiplying ++ adding).map (· ++ "=") ++ ["="]), expressionList]
  | shortVarDeclaration => sequence [expressionList, ":=", expressionList]
  | labeledStatement => sequence [labelName, ":", statement]
  | emptyLabeledStatement => both labelName ":"
  | fallthroughStatement => leftward 0 "fallthrough"
  | breakStatement => both "break" (optional labelName)
  | continueStatement => both "continue" (optional labelName)
  | gotoStatement => both "goto" labelName
  | returnStatement => both "return" (optional expressionList)
  | goStatement => both "go" expression
  | deferStatement => both "defer" expression
  | ifStatement =>
      sequence ["if", initializer, expression, block,
        optional (both "else" (either block ifStatement))]
  | forStatement =>
      sequence ["for", optional (choice [expression, forClause, rangeClause]), block]
  | forClause =>
      sequence [optional simpleStatement, ";", optional expression, ";",
        optional simpleStatement]
  | rangeClause => sequence [receivers, "range", expression]
  | expressionSwitchStatement =>
      sequence ["switch", initializer, optional expression, "\x7b",
        many (either expressionCase defaultCase), "\x7d"]
  | expressionCase => sequence ["case", expressionList, ":", optional statementList]
  | defaultCase => sequence ["default", ":", optional statementList]
  | typeSwitchStatement =>
      sequence ["switch", typeSwitchHeader, "\x7b", many (either typeCase defaultCase), "\x7d"]
  | typeSwitchHeader =>
      sequence [initializer, optional (both expressionList ":="), expression, ".", "(", "type",
        ")"]
  | typeCase => sequence ["case", commas type, ":", optional statementList]
  | selectStatement =>
      sequence ["select", "\x7b", many (either communicationCase defaultCase), "\x7d"]
  | communicationCase =>
      sequence ["case", either sendStatement receiveStatement, ":", optional statementList]
  | expression =>
      choice [unaryExpression, binaryExpression, selectorExpression, indexExpression,
        sliceExpression, callExpression, typeAssertionExpression, typeConversionExpression,
        typeInstantiationExpression, Terminal.identifier, allocator, compositeLiteral,
        functionLiteral, string, Terminal.whole, Terminal.fractional, Terminal.imaginary,
        Terminal.rune, "nil", "true", "false", "iota", parenthesizedExpression]
  | parenthesizedExpression => sequence ["(", expression, ")"]
  | callExpression =>
      ranked primaryRank (either
        (both allocator (renamed "argument_list" specialArgumentList))
        (sequence [expression, optional typeArguments, argumentList]))
  | variadicArgument => rightward 0 (both expression "...")
  | specialArgumentList => listIn "(" ")" (both type (many (both "," expression)))
  | argumentList => listIn "(" ")" (commas (either expression variadicArgument))
  | selectorExpression => ranked primaryRank (sequence [expression, ".", fieldName])
  | indexExpression => ranked primaryRank (sequence [expression, "[", expression, "]"])
  | sliceExpression =>
      ranked primaryRank (sequence [expression, "[",
        either (sequence [optional expression, ":", optional expression])
          (sequence [optional expression, ":", expression, ":", expression]),
        "]"])
  | typeAssertionExpression =>
      ranked primaryRank (sequence [expression, ".", "(", type, ")"])
  | typeConversionExpression =>
      weighted (-1) (sequence [type, "(", expression, optional ",", ")"])
  | typeInstantiationExpression =>
      ranked primaryRank (sequence [type, "[", commas type, optional ",", "]"])
  | compositeLiteral =>
      ranked literalRank (both
        (choice [mapType, sliceType, arrayType, implicitLengthArrayType, structType, typeName,
          genericType, qualifiedType])
        literalValue)
  | literalValue => listIn "\x7b" "\x7d" (optional (commas (either literalElement keyedElement)))
  | literalElement => either expression literalValue
  | keyedElement => sequence [literalElement, ":", literalElement]
  | functionLiteral => sequence ["func", signature, block]
  | unaryExpression =>
      ranked unaryRank (both (oneOf ["+", "-", "!", "^", "*", "&", "<-"]) expression)
  | binaryExpression =>
      choice ([(5, multiplying), (4, adding), (3, comparing), (2, ["&&"]), (1, ["||"])].map
        fun (rank, marks) => leftward rank (sequence [expression, oneOf marks, expression]))
  | qualifiedType => sequence [packageName, ".", typeName]
  | rawString =>
      let quote := String.singleton (Char.ofNat 96)
      sequence [quote, optional (renamed "raw_string_literal_content" Terminal.rawText), quote]
  | interpretedString =>
      sequence ["\"",
        many (either (renamed "interpreted_string_literal_content" Terminal.quotedText)
          Terminal.escape),
        Terminal.closingQuote]

end Construct
end Recovery
end Go
end ConfigWiring
