import ConfigWiring.Text.Split

/-!
# Words of shell scripts

A word of a script is not text yet.  It holds characters, quoted or not, and places
where the value of a parameter, the output of commands or the result of a calculation
is put in.
-/

namespace ConfigWiring
namespace Shell

/-- What a script is not understood for. -/
inductive ScriptFault where
  /-- A quotation, a brace or a parenthesis is not closed. -/
  | unclosed
  /-- Something stands where it has no meaning. -/
  | unexpected
  deriving DecidableEq, Repr

/-- How the value of a parameter is used.  The flag of those that ask for a value tells
whether an empty value is none. -/
inductive ParameterUse where
  | value
  | length
  /-- The word instead of a value that is missing. -/
  | orElse (emptyIsNone : Bool)
  /-- The word instead of a value that is missing, which is set to it. -/
  | orAssign (emptyIsNone : Bool)
  /-- The value, which must not be missing. -/
  | orFail (emptyIsNone : Bool)
  /-- The word instead of a value, and nothing if the value is missing. -/
  | ifPresent (emptyIsNone : Bool)
  /-- The value without its shortest or longest start that fits the word. -/
  | withoutStart (longest : Bool)
  /-- The value without its shortest or longest end that fits the word. -/
  | withoutEnd (longest : Bool)
  deriving DecidableEq, Repr

/-- A part of a word. -/
inductive WordPart where
  | char (char : Char) (quoted : Bool)
  /-- A quotation, which makes a word even if it is empty. -/
  | quotation
  | parameter (name : String) (quoted : Bool) (use : ParameterUse) (word : List WordPart)
  | output (script : List Char) (quoted : Bool)
  | result (expression : List WordPart) (quoted : Bool)

/-- A word of a script. -/
abbrev Word : Type := List WordPart

/-! ## Characters -/

/-- The mark around a script whose output is put in. -/
def backQuote : Char := Char.ofNat 96

/-- Whether a name may begin with a character. -/
def isNameStart (char : Char) : Bool := char.isAlpha || char == '_'

/-- Whether a name may go on with a character. -/
def isNameChar (char : Char) : Bool := isNameStart char || char.isDigit

/-- Whether a text is a name. -/
def isName (text : List Char) : Bool := text.head?.any isNameStart && text.all isNameChar

/-- Whether a character is a parameter by itself. -/
def isSpecialParameter (char : Char) : Bool := "@*#?-$!".toList.contains char || char.isDigit

/-- Whether a character separates words. -/
def isGap (char : Char) : Bool := char == ' ' || char == '\t'

/-- Whether a character ends a word that is not quoted. -/
def endsWord (char : Char) : Bool := isGap char || "\n;&|<>()".toList.contains char

namespace Word

/-- The text of a word that is neither quoted nor filled in. -/
def plain? : Word -> Option (List Char)
  | [] => some []
  | .char char false :: word => (plain? word).map (char :: ·)
  | _ => none

/-- The parts of a text that is quoted as a whole. -/
def ofQuoted (text : List Char) : Word := text.map fun char => .char char true

/-- Whether any part of a word is quoted. -/
def isQuoted (word : Word) : Bool :=
  word.any fun part =>
    match part with
    | .quotation => true
    | .char _ quoted => quoted
    | _ => false

end Word

/-! ## Scripts inside words -/

/-- What surrounds a place in a script inside a word. -/
inductive Enclosure where
  | parenthesis
  | doubleQuote
  | singleQuote
  deriving DecidableEq, Repr

/-- The script up to the parenthesis that closes it, and what stands behind.  The list
holds what is open, and the character is the one in front. -/
def enclosedScript? : List Enclosure -> Char -> List Char -> Option (List Char × List Char)
  | [], _, text => some ([], text)
  | _, _, [] => none
  | enclosure :: around, before, char :: rest =>
      let go (enclosures : List Enclosure) : Option (List Char × List Char) :=
        (enclosedScript? enclosures (if before = '\\' then ' ' else char) rest).map
          fun (script, behind) =>
            (if enclosures.isEmpty then script else char :: script, behind)
      match enclosure with
      | .singleQuote => go (if char = '\'' then around else enclosure :: around)
      | _ =>
          if before = '\\' then go (enclosure :: around)
          else if char = '"' then
            go (if enclosure = .doubleQuote then around else .doubleQuote :: enclosure :: around)
          else if char = '(' && (enclosure == .parenthesis || before == '$') then
            go (.parenthesis :: enclosure :: around)
          else if char = ')' && enclosure == .parenthesis then go around
          else if char = '\'' && enclosure == .parenthesis then
            go (.singleQuote :: enclosure :: around)
          else go (enclosure :: around)

/-- The script up to the mark that closes it, and what stands behind. -/
def backQuotedScript? : List Char -> Option (List Char × List Char)
  | [] => none
  | '\\' :: char :: rest =>
      let kept := if char = backQuote || char = '\\' || char = '$' then [char] else ['\\', char]
      (backQuotedScript? rest).map fun (script, behind) => (kept ++ script, behind)
  | char :: rest =>
      if char = backQuote then some ([], rest)
      else (backQuotedScript? rest).map fun (script, behind) => (char :: script, behind)

/-! ## Reading words -/

/-- What surrounds a place in a word. -/
inductive Surrounding where
  | bare
  /-- Double quotes. -/
  | quotes
  /-- The braces of a parameter. -/
  | braces (quoted : Bool)
  /-- A calculation with a number of open parentheses. -/
  | calculation (opened : Nat)
  /-- A text inside the script. -/
  | document
  deriving DecidableEq, Repr

namespace Surrounding

/-- Whether characters count as quoted. -/
def isQuoted : Surrounding -> Bool
  | quotes | document => true
  | braces quoted => quoted
  | bare | calculation _ => false

/-- Whether a script may end here. -/
def mayEnd : Surrounding -> Bool
  | bare | document => true
  | _ => false

/-- What stands behind the word if it ends in front of a text. -/
def end? : Surrounding -> List Char -> Option (List Char)
  | bare, char :: rest => if endsWord char then some (char :: rest) else none
  | quotes, '"' :: rest => some rest
  | braces _, '}' :: rest => some rest
  | calculation 0, ')' :: ')' :: rest => some rest
  | _, _ => none

/-- What surrounds the place behind a character. -/
def behind : Surrounding -> Char -> Surrounding
  | calculation opened, '(' => calculation (opened + 1)
  | calculation opened, ')' => calculation (opened - 1)
  | around, _ => around

/-- Whether a backslash quotes a character. -/
def escapes (around : Surrounding) (char : Char) : Bool :=
  match around with
  | bare | calculation _ | braces false => true
  | quotes => [backQuote, '$', '"', '\\'].contains char
  | braces true => [backQuote, '$', '"', '\\', '}'].contains char
  | document => [backQuote, '$', '\\'].contains char

end Surrounding

/-- The parts of a quotation.  A list of arguments alone makes no word if it is
empty. -/
def quotation (parts : Word) : Word :=
  let isArguments := parts.any fun part =>
    match part with
    | .parameter "@" _ _ _ => true
    | _ => false
  if isArguments then parts else .quotation :: parts

/-- The name at the start of a text inside braces, and what stands behind. -/
def parameterName? : List Char -> Option (String × List Char)
  | [] => none
  | char :: rest =>
      let text := char :: rest
      if isNameStart char then
        some (String.ofList (text.takeWhile isNameChar), text.dropWhile isNameChar)
      else if char.isDigit then
        some (String.ofList (text.takeWhile Char.isDigit), text.dropWhile Char.isDigit)
      else if isSpecialParameter char then some (String.singleton char, rest)
      else none

/-- How the parameter in front of a text is used, and what stands behind the marks that
tell it. -/
def parameterUse? : List Char -> Option (ParameterUse × List Char)
  | ':' :: '-' :: rest => some (.orElse true, rest)
  | ':' :: '=' :: rest => some (.orAssign true, rest)
  | ':' :: '?' :: rest => some (.orFail true, rest)
  | ':' :: '+' :: rest => some (.ifPresent true, rest)
  | '-' :: rest => some (.orElse false, rest)
  | '=' :: rest => some (.orAssign false, rest)
  | '?' :: rest => some (.orFail false, rest)
  | '+' :: rest => some (.ifPresent false, rest)
  | '#' :: '#' :: rest => some (.withoutStart true, rest)
  | '#' :: rest => some (.withoutStart false, rest)
  | '%' :: '%' :: rest => some (.withoutEnd true, rest)
  | '%' :: rest => some (.withoutEnd false, rest)
  | _ => none

/-- Whether the word behind a parameter is a pattern. -/
def ParameterUse.takesPattern : ParameterUse -> Bool
  | withoutStart _ | withoutEnd _ => true
  | _ => false

mutual

/-- Read the parts of a word.  The number bounds the length and the depth. -/
def readParts : Nat -> Surrounding -> List Char -> Except ScriptFault (Word × List Char)
  | 0, _, _ => .error .unclosed
  | _ + 1, around, [] => if around.mayEnd then .ok ([], []) else .error .unclosed
  | bound + 1, around, char :: rest =>
      match around.end? (char :: rest) with
      | some behind => .ok ([], behind)
      | none => do
          let (parts, behind) ← readPart bound around char rest
          let (further, behind) ← readParts bound (around.behind char) behind
          return (parts ++ further, behind)

/-- Read one part of a word. -/
def readPart : Nat -> Surrounding -> Char -> List Char ->
    Except ScriptFault (Word × List Char)
  | 0, _, _, _ => .error .unclosed
  | bound + 1, around, char, rest =>
      let quoted := around.isQuoted
      if char = '\\' then
        match rest with
        | [] => .ok ([.char '\\' true], [])
        | '\n' :: behind => .ok ([], behind)
        | next :: behind =>
            if around.escapes next then .ok ([.char next true], behind)
            else .ok ([.char '\\' true], next :: behind)
      else if char = '\'' && !quoted then
        let inner := rest.takeWhile (· != '\'')
        match rest.drop inner.length with
        | [] => .error .unclosed
        | _ :: behind => .ok (.quotation :: Word.ofQuoted inner, behind)
      else if char = '"' && around != .document then do
        let (parts, behind) ← readParts bound .quotes rest
        return (quotation parts, behind)
      else if char = backQuote then
        match backQuotedScript? rest with
        | some (script, behind) => .ok ([.output script quoted], behind)
        | none => .error .unclosed
      else if char = '$' then readValue bound quoted rest
      else .ok ([.char char quoted], rest)

/-- Read what stands behind a dollar sign. -/
def readValue : Nat -> Bool -> List Char -> Except ScriptFault (Word × List Char)
  | 0, _, _ => .error .unclosed
  | _ + 1, quoted, [] => .ok ([.char '$' quoted], [])
  | bound + 1, quoted, '(' :: '(' :: rest => do
      let (expression, behind) ← readParts bound (.calculation 0) rest
      return ([.result expression quoted], behind)
  | _ + 1, quoted, '(' :: rest =>
      match enclosedScript? [.parenthesis] ' ' rest with
      | some (script, behind) => .ok ([.output script quoted], behind)
      | none => .error .unclosed
  | bound + 1, quoted, '{' :: rest => readBraced bound quoted rest
  | _ + 1, quoted, char :: rest =>
      if isNameStart char then
        let name := String.ofList ((char :: rest).takeWhile isNameChar)
        .ok ([.parameter name quoted .value []], (char :: rest).dropWhile isNameChar)
      else if isSpecialParameter char then
        .ok ([.parameter (String.singleton char) quoted .value []], rest)
      else .ok ([.char '$' quoted], char :: rest)

/-- Read a parameter in braces. -/
def readBraced : Nat -> Bool -> List Char -> Except ScriptFault (Word × List Char)
  | 0, _, _ => .error .unclosed
  | bound + 1, quoted, text =>
      let measured :=
        match text with
        | '#' :: rest =>
            match parameterName? rest with
            | some (name, '}' :: behind) => some (name, behind)
            | _ => none
        | _ => none
      match measured, parameterName? text with
      | some (name, behind), _ => .ok ([.parameter name quoted .length []], behind)
      | none, none => .error .unexpected
      | none, some (name, '}' :: behind) => .ok ([.parameter name quoted .value []], behind)
      | none, some (name, rest) =>
          match parameterUse? rest with
          | none => .error .unexpected
          | some (use, rest) => do
              let (word, behind) ←
                readParts bound (.braces (quoted && !use.takesPattern)) rest
              return ([.parameter name quoted use word], behind)

end

/-- Read a word that ends where words end. -/
def readWord (text : List Char) : Except ScriptFault (Word × List Char) :=
  readParts (4 * text.length + 4) .bare text

/-- The parts of a text inside a script. -/
def readDocument (text : List Char) : Except ScriptFault Word :=
  (readParts (4 * text.length + 4) .document text).map (·.1)

end Shell
end ConfigWiring
