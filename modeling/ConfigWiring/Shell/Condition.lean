import ConfigWiring.Shell.Calculation

/-!
# Conditions

A condition is spelled out in words: a comparison, a question about a file, or both
joined by other words.  Which words are operators depends on what stands around them.
-/

namespace ConfigWiring
namespace Shell
namespace Condition

/-- The words in front of a single operand. -/
def questions : List String :=
  ["-n", "-z", "-b", "-c", "-d", "-e", "-f", "-g", "-G", "-h", "-k", "-L", "-O", "-p", "-r", "-s",
    "-S", "-t", "-u", "-w", "-x"]

/-- The words between two operands. -/
def comparisons : List String :=
  ["=", "!=", "<", ">", "-eq", "-ne", "-gt", "-ge", "-lt", "-le", "-nt", "-ot", "-ef"]

/-- The number that a word spells. -/
def number? (word : String) : Option Int :=
  match Text.trimWhile isGap word.toList with
  | '-' :: digits => (Calculation.ofDigits? 10 digits).map (- ·)
  | '+' :: digits => Calculation.ofDigits? 10 digits
  | digits => Calculation.ofDigits? 10 digits

/-- Compare two words as numbers. -/
def compareNumbers? (left right : String) (holds : Int -> Int -> Bool) : Option Bool :=
  match number? left, number? right with
  | some left, some right => some (holds left right)
  | _, _ => none

/-- Whether a comparison of two words holds, if it makes sense. -/
def compare? (left comparison right : String) : Option Bool :=
  match comparison with
  | "=" => some (left == right)
  | "!=" => some (left != right)
  | "<" => some (left < right)
  | ">" => some (right < left)
  | "-eq" => compareNumbers? left right fun left right => left == right
  | "-ne" => compareNumbers? left right fun left right => left != right
  | "-gt" => compareNumbers? left right fun left right => left > right
  | "-ge" => compareNumbers? left right fun left right => left ≥ right
  | "-lt" => compareNumbers? left right fun left right => left < right
  | "-le" => compareNumbers? left right fun left right => left ≤ right
  | _ => some false

/-- Whether a word asks a question although others stand behind it. -/
def asks (word : String) (behind : List String) : Bool :=
  questions.contains word &&
    match behind with
    | [] => false
    | [_] => true
    | next :: _ => !comparisons.contains next

/-- The answer to a question about a word; the function answers those about files. -/
def answer (file : String -> String -> Bool) (question word : String) : Bool :=
  match question with
  | "-n" => !word.isEmpty
  | "-z" => word.isEmpty
  | _ => file question word

mutual

/-- Read alternatives.  The number bounds the depth. -/
def alternatives? (file : String -> String -> Bool) : Nat -> List String ->
    Option (Bool × List String)
  | 0, _ => none
  | bound + 1, words =>
      match conjunction? file bound words with
      | some (left, "-o" :: rest) =>
          (alternatives? file bound rest).map fun (right, rest) => (left || right, rest)
      | outcome => outcome

/-- Read conditions that hold at the same time. -/
def conjunction? (file : String -> String -> Bool) : Nat -> List String ->
    Option (Bool × List String)
  | 0, _ => none
  | bound + 1, words =>
      match negation? file bound words with
      | some (left, "-a" :: rest) =>
          (conjunction? file bound rest).map fun (right, rest) => (left && right, rest)
      | outcome => outcome

/-- Read a condition that may be negated. -/
def negation? (file : String -> String -> Bool) : Nat -> List String ->
    Option (Bool × List String)
  | 0, _ => none
  | _ + 1, [] => some (false, [])
  | bound + 1, word :: rest =>
      if word = "!" then (negation? file bound rest).map fun (holds, rest) => (!holds, rest)
      else if word = "(" && !rest.isEmpty then
        match rest with
        | ")" :: behind => some (false, behind)
        | _ =>
            match alternatives? file bound rest with
            | some (holds, ")" :: behind) => some (holds, behind)
            | _ => none
      else if asks word rest then
        match rest with
        | operand :: behind => some (answer file word operand, behind)
        | [] => none
      else
        match rest with
        | comparison :: right :: behind =>
            if comparisons.contains comparison then
              (compare? word comparison right).map fun holds => (holds, behind)
            else some (!word.isEmpty, rest)
        | [comparison] =>
            if comparisons.contains comparison then none else some (!word.isEmpty, rest)
        | [] => some (!word.isEmpty, [])

end

/-- Whether the condition that some words spell out holds, if they spell one.  With
three words a comparison in the middle decides, and otherwise a negation in front. -/
def holds? (file : String -> String -> Bool) (words : List String) : Option Bool :=
  let read (words : List String) : Option Bool :=
    match alternatives? file (4 * words.length + 4) words with
    | some (holds, []) => some holds
    | _ => none
  let bracketed (words : List String) : Option Bool :=
    if words.head? = some "(" && words.getLast? = some ")" then read (words.drop 1).dropLast
    else read words
  match words with
  | [] => some false
  | [left, comparison, right] =>
      if comparisons.contains comparison then compare? left comparison right
      else if left = "!" then (read [comparison, right]).map (!·)
      else bracketed words
  | ["!", first, second, third] =>
      if comparisons.contains second then (compare? first second third).map (!·)
      else (read [first, second, third]).map (!·)
  | [_, _, _, _] => bracketed words
  | _ => read words

end Condition
end Shell
end ConfigWiring
