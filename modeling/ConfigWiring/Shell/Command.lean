import ConfigWiring.Shell.Word

/-!
# Commands of shell scripts

A command is a row of words with redirections, or it joins other commands.
-/

namespace ConfigWiring
namespace Shell

/-- What a redirection does with the file or the stream that its word names. -/
inductive RedirectionKind where
  /-- Read from a file. -/
  | input
  /-- Write to a file from its start. -/
  | output
  /-- Write to a file behind its end. -/
  | append
  /-- Use another stream. -/
  | duplicate
  /-- Read the word itself. -/
  | document
  deriving DecidableEq, Repr

/-- A redirection of a stream. -/
structure Redirection where
  /-- The number of the stream. -/
  stream : Nat
  kind : RedirectionKind
  word : Word

/-- A command. -/
inductive Command where
  | nothing
  | simple (assignments : List (String × Word)) (words : List Word)
      (redirections : List Redirection)
  | redirected (command : Command) (redirections : List Redirection)
  /-- A command in a shell of its own. -/
  | subshell (command : Command)
  /-- A command that is not waited for. -/
  | background (command : Command)
  | sequence (first second : Command)
  /-- The second command if the first one succeeds. -/
  | both (first second : Command)
  /-- The second command if the first one fails. -/
  | either (first second : Command)
  | negated (command : Command)
  /-- Commands each of which reads what the one before writes. -/
  | pipeline (commands : List Command)
  | branch (condition onSuccess onFailure : Command)
  /-- A command again and again while a condition succeeds, or fails. -/
  | loop (goal : Bool) (condition body : Command)
  /-- A command for each of some words, or of the arguments. -/
  | each (name : String) (words : Option (List Word)) (body : Command)
  /-- The first of some commands one of whose patterns fits a word. -/
  | choice (word : Word) (clauses : List (List Word × Command))
  /-- A command that gets a name. -/
  | define (name : String) (body : Command)

end Shell
end ConfigWiring
