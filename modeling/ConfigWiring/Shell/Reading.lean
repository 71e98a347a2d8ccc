import ConfigWiring.Shell.Command

/-!
# Reading commands

A script is read line by line, and a line is read as a whole before any of it is run.
Words like `if` have their meaning only where a command begins.
-/

namespace ConfigWiring
namespace Shell

/-! ## Lexemes -/

/-- The smallest part of a script. -/
inductive Lexeme where
  | word (word : Word)
  /-- A mark between commands. -/
  | mark (spelling : String)
  /-- A mark in front of a word that a stream is redirected to. -/
  | redirection (stream : Option Nat) (spelling : String)
  | finish

namespace Lexeme

/-- The marks between commands, longer ones first. -/
def marks : List String := ["&&", "||", ";;", "\n", ";", "&", "|", "(", ")"]

/-- The marks of redirections, longer ones first. -/
def redirectionMarks : List String := ["<<-", "<<", "<&", "<>", "<", ">>", ">&", ">|", ">"]

/-- The first of some spellings that a text begins with, and what stands behind it. -/
def spelled? (spellings : List String) (text : List Char) : Option (String × List Char) :=
  spellings.findSome? fun spelling =>
    (Text.behind? spelling.toList text).map fun rest => (spelling, rest)

/-- What stands behind blanks, comments and breaks that are no breaks.  The number
bounds how many there are. -/
def skipGaps : Nat -> List Char -> List Char
  | 0, text => text
  | bound + 1, text =>
      match text with
      | '\\' :: '\n' :: rest => skipGaps bound rest
      | '#' :: rest => rest.dropWhile (· != '\n')
      | char :: rest => if isGap char then skipGaps bound rest else char :: rest
      | [] => []

/-- Read the next lexeme. -/
def next (text : List Char) : Except ScriptFault (Lexeme × List Char) :=
  let text := skipGaps (text.length + 1) text
  if text.isEmpty then .ok (finish, [])
  else
    let digits := text.takeWhile Char.isDigit
    match spelled? redirectionMarks (text.drop digits.length) with
    | some (spelling, rest) =>
        .ok (redirection (String.ofList digits).toNat? spelling, rest)
    | none =>
        match spelled? marks text with
        | some (spelling, rest) => .ok (mark spelling, rest)
        | none => (readWord text).map fun (parts, rest) => (word parts, rest)

/-- Whether a lexeme is a mark. -/
def isMark (spelling : String) : Lexeme -> Bool
  | mark spelling' => spelling' == spelling
  | _ => false

/-- Whether a lexeme is an unquoted word. -/
def isWord (spelling : String) : Lexeme -> Bool
  | word parts => parts.plain? == some spelling.toList
  | _ => false

end Lexeme

/-! ## Reading lexemes -/

/-- What reads a part of a script. -/
abbrev Reader : Type -> Type := StateT (List Char) (Except ScriptFault)

namespace Reader

/-- The next lexeme, which stays in front. -/
def peek : Reader Lexeme := do
  let (lexeme, _) ← (Lexeme.next (← get) : Except ScriptFault _)
  return lexeme

/-- Read the next lexeme. -/
def take : Reader Lexeme := do
  let (lexeme, rest) ← (Lexeme.next (← get) : Except ScriptFault _)
  set rest
  return lexeme

/-- Read a word. -/
def takeWord : Reader Word := do
  match ← take with
  | .word word => return word
  | _ => throw .unexpected

/-- Read an unquoted word of a certain spelling. -/
def expectWord (spelling : String) : Reader Unit := do
  if !(← take).isWord spelling then throw .unexpected

/-- Read a mark. -/
def expectMark (spelling : String) : Reader Unit := do
  if !(← take).isMark spelling then throw .unexpected

/-- Read a mark if it stands in front. -/
def optionalMark (spelling : String) : Reader Bool := do
  if (← peek).isMark spelling then
    let _ ← take
    return true
  return false

/-- Skip the ends of lines.  The number bounds how many there are. -/
def skipLines : Nat -> Reader Unit
  | 0 => return
  | bound + 1 => do
      if ← optionalMark "\n" then skipLines bound

/-! ## Redirections -/

/-- The text of some lines in front of one that is equal to an end, and the lines behind
that one.  The flag tells whether tabs at the starts of lines are left out. -/
def documentText (stripped : Bool) (finish : List Char) :
    List (List Char) -> List Char × List (List Char)
  | [] => ([], [])
  | line :: lines =>
      let line := if stripped then line.dropWhile (· == '\t') else line
      if line = finish then ([], lines)
      else if lines.isEmpty then (line, [])
      else
        let (text, behind) := documentText stripped finish lines
        (line ++ '\n' :: text, behind)

/-- Take the text that begins on the next line out of the script, up to a line that
holds only a word. -/
def takeDocument (stripped : Bool) (finish : Word) : Reader Word := do
  let text ← get
  let line := text.takeWhile (· != '\n')
  let below := Text.splitAll '\n' (text.drop (line.length + 1))
  let ending := finish.filterMap fun part =>
    match part with
    | .char char _ => some char
    | _ => none
  let (body, behind) := documentText stripped ending below
  set (line ++ '\n' :: Text.joinAll '\n' behind)
  if finish.isQuoted then return Word.ofQuoted body
  else (readDocument body : Except ScriptFault Word)

/-- Read what stands behind the mark of a redirection. -/
def redirection (stream : Option Nat) (spelling : String) : Reader Redirection := do
  let word ← takeWord
  match spelling with
  | "<" => return ⟨stream.getD 0, .input, word⟩
  | "<&" => return ⟨stream.getD 0, .duplicate, word⟩
  | "<>" => return ⟨stream.getD 0, .append, word⟩
  | ">>" => return ⟨stream.getD 1, .append, word⟩
  | ">&" => return ⟨stream.getD 1, .duplicate, word⟩
  | "<<" => return ⟨stream.getD 0, .document, ← takeDocument false word⟩
  | "<<-" => return ⟨stream.getD 0, .document, ← takeDocument true word⟩
  | _ => return ⟨stream.getD 1, .output, word⟩

/-- Read redirections.  The number bounds how many there are. -/
def redirections : Nat -> Reader (List Redirection)
  | 0 => return []
  | bound + 1 => do
      match ← peek with
      | .redirection stream spelling =>
          let _ ← take
          let first ← redirection stream spelling
          return first :: (← redirections bound)
      | _ => return []

/-! ## Simple commands -/

/-- The name and the value of a word that assigns one. -/
def assignment? (word : Word) : Option (String × Word) :=
  let front := word.takeWhile fun part =>
    match part with
    | .char '=' false => false
    | .char _ false => true
    | _ => false
  match Word.plain? front, word.drop front.length with
  | some name, .char '=' false :: value =>
      if isName name then some (String.ofList name, value) else none
  | _, _ => none

/-- Read the rest of a simple command.  The number bounds its length. -/
def simple : Nat -> List (String × Word) -> List Word -> List Redirection -> Reader Command
  | 0, assignments, words, redirections => return .simple assignments words redirections
  | bound + 1, assignments, words, redirections => do
      match ← peek with
      | .word word =>
          let _ ← take
          match words, assignment? word with
          | [], some assignment => simple bound (assignments ++ [assignment]) [] redirections
          | _, _ => simple bound assignments (words ++ [word]) redirections
      | .redirection stream spelling =>
          let _ ← take
          let further ← redirection stream spelling
          simple bound assignments words (redirections ++ [further])
      | _ => return .simple assignments words redirections

/-- Read words up to the end of a line.  The number bounds how many there are. -/
def words : Nat -> Reader (List Word)
  | 0 => return []
  | bound + 1 => do
      match ← peek with
      | .word word =>
          let _ ← take
          return word :: (← words bound)
      | _ => return []

/-- Read patterns with bars in between.  The number bounds how many there are. -/
def patterns : Nat -> Reader (List Word)
  | 0 => return []
  | bound + 1 => do
      let first ← takeWord
      if ← optionalMark "|" then return first :: (← patterns bound)
      else return [first]

/-! ## Commands -/

/-- The words that cannot begin a command. -/
def closingWords : List String :=
  ["then", "else", "elif", "fi", "do", "done", "esac", "in", "\x7d"]

/-- Whether a list of commands ends in front of a lexeme. -/
def endsList (lexeme : Lexeme) : Bool :=
  closingWords.any lexeme.isWord || lexeme.isMark ")" || lexeme.isMark ";;" ||
    match lexeme with
    | .finish => true
    | _ => false

mutual

/-- Read a list of commands in another command, which may not be empty. -/
def body : Nat -> Reader Command
  | 0 => throw .unexpected
  | bound + 1 => do
      skipLines (← get).length
      if endsList (← peek) then throw .unexpected
      commands bound

/-- Read a list of commands in another command. -/
def commands : Nat -> Reader Command
  | 0 => throw .unexpected
  | bound + 1 => do
      skipLines (← get).length
      if endsList (← peek) then return .nothing
      let first ← chain bound
      let separator ← peek
      if separator.isMark ";" || separator.isMark "\n" then
        let _ ← take
        return .sequence first (← commands bound)
      else if separator.isMark "&" then
        let _ ← take
        return .sequence (.background first) (← commands bound)
      else if endsList separator then return first
      else throw .unexpected

/-- Read commands that depend on each other's success. -/
def chain : Nat -> Reader Command
  | 0 => throw .unexpected
  | bound + 1 => do links bound (← pipeline bound)

/-- Read on behind a command whose success others may depend on. -/
def links : Nat -> Command -> Reader Command
  | 0, first => return first
  | bound + 1, first => do
      if ← optionalMark "&&" then
        skipLines (← get).length
        links bound (.both first (← pipeline bound))
      else if ← optionalMark "||" then
        skipLines (← get).length
        links bound (.either first (← pipeline bound))
      else return first

/-- Read commands that hand on what they write. -/
def pipeline : Nat -> Reader Command
  | 0 => throw .unexpected
  | bound + 1 => do
      let isNegated := (← peek).isWord "!"
      if isNegated then
        let _ ← take
      let first ← command bound
      let joined :=
        match ← piped bound with
        | [] => first
        | others => .pipeline (first :: others)
      return if isNegated then .negated joined else joined

/-- Read the further commands of a pipeline. -/
def piped : Nat -> Reader (List Command)
  | 0 => throw .unexpected
  | bound + 1 => do
      if ← optionalMark "|" then
        skipLines (← get).length
        let first ← command bound
        return first :: (← piped bound)
      else return []

/-- Read one command with its redirections. -/
def command : Nat -> Reader Command
  | 0 => throw .unexpected
  | bound + 1 => do
      let lexeme ← peek
      let compound ← compound? bound lexeme
      match compound with
      | some compound =>
          match ← redirections (← get).length with
          | [] => return compound
          | found => return .redirected compound found
      | none =>
          if endsList lexeme || lexeme.isWord "!" then throw .unexpected
          let found ← simple (← get).length [] [] []
          match found with
          | .simple [] [] [] => throw .unexpected
          | .simple [] [name] [] =>
              match name.plain? with
              | some name =>
                  if isName name && (← optionalMark "(") then
                    expectMark ")"
                    skipLines (← get).length
                    return .define (String.ofList name) (← command bound)
                  else return found
              | none => return found
          | _ => return found

/-- Read a command that joins others, if one begins with a lexeme. -/
def compound? : Nat -> Lexeme -> Reader (Option Command)
  | 0, _ => throw .unexpected
  | bound + 1, lexeme => do
      if lexeme.isMark "(" then
        let _ ← take
        let inner ← body bound
        expectMark ")"
        return some (.subshell inner)
      else if lexeme.isWord "\x7b" then
        let _ ← take
        let inner ← body bound
        expectWord "\x7d"
        return some (.redirected inner [])
      else if lexeme.isWord "if" then
        let _ ← take
        return some (← branch bound)
      else if lexeme.isWord "while" || lexeme.isWord "until" then
        let _ ← take
        let condition ← body bound
        return some (.loop (lexeme.isWord "while") condition (← doBody bound))
      else if lexeme.isWord "for" then
        let _ ← take
        return some (← each bound)
      else if lexeme.isWord "case" then
        let _ ← take
        let word ← takeWord
        skipLines (← get).length
        expectWord "in"
        return some (.choice word (← clauses bound))
      else return none

/-- Read the body of a loop. -/
def doBody : Nat -> Reader Command
  | 0 => throw .unexpected
  | bound + 1 => do
      expectWord "do"
      let inner ← body bound
      expectWord "done"
      return inner

/-- Read a conditional command behind its first word. -/
def branch : Nat -> Reader Command
  | 0 => throw .unexpected
  | bound + 1 => do
      let condition ← body bound
      expectWord "then"
      let onSuccess ← body bound
      let lexeme ← take
      if lexeme.isWord "elif" then return .branch condition onSuccess (← branch bound)
      else if lexeme.isWord "else" then
        let onFailure ← body bound
        expectWord "fi"
        return .branch condition onSuccess onFailure
      else if lexeme.isWord "fi" then return .branch condition onSuccess .nothing
      else throw .unexpected

/-- Read a loop over words behind its first word. -/
def each : Nat -> Reader Command
  | 0 => throw .unexpected
  | bound + 1 => do
      match (← takeWord).plain? with
      | none => throw .unexpected
      | some name =>
          if !isName name then throw .unexpected
          skipLines (← get).length
          if (← peek).isWord "in" then
            let _ ← take
            let list ← words (← get).length
            let ended ← optionalMark ";"
            if !ended then expectMark "\n"
            skipLines (← get).length
            return .each (String.ofList name) (some list) (← doBody bound)
          else
            let _ ← optionalMark ";"
            skipLines (← get).length
            return .each (String.ofList name) none (← doBody bound)

/-- Read the clauses of a choice up to its end. -/
def clauses : Nat -> Reader (List (List Word × Command))
  | 0 => throw .unexpected
  | bound + 1 => do
      skipLines (← get).length
      if (← peek).isWord "esac" then
        let _ ← take
        return []
      let _ ← optionalMark "("
      let fitting ← patterns (← get).length
      expectMark ")"
      let inner ← commands bound
      if ← optionalMark ";;" then return (fitting, inner) :: (← clauses bound)
      else
        expectWord "esac"
        return [(fitting, inner)]

end

/-- Read the commands up to the end of a line.  The number bounds how many there
are. -/
def line : Nat -> Nat -> Reader Command
  | 0, _ => throw .unexpected
  | bound + 1, depth => do
      if ← optionalMark "\n" then return .nothing
      match ← peek with
      | .finish => return .nothing
      | _ =>
          let first ← chain depth
          if ← optionalMark ";" then return .sequence first (← line bound depth)
          else if ← optionalMark "&" then
            return .sequence (.background first) (← line bound depth)
          else if ← optionalMark "\n" then return first
          else
            match ← peek with
            | .finish => return first
            | _ => throw .unexpected

end Reader

/-- Read the first line of commands of a script; the result holds what stands behind
it. -/
def readLine (script : List Char) : Except ScriptFault (Command × List Char) :=
  (Reader.line (script.length + 1) (8 * script.length + 16)).run script

end Shell
end ConfigWiring
