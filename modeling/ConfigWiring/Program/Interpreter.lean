import ConfigWiring.FileTree.Fault

/-!
# Interpreters of scripts

A file that is no program itself can name the program that interprets it on its first
line, behind two marks, with at most one argument.  Only the first bytes of a file are
looked at, and a file that is shorter counts as filled up with zeros.
-/

namespace ConfigWiring
namespace Program

/-- The program that interprets a file. -/
structure Interpreter where
  path : String
  /-- The argument in front of the path of the file. -/
  argument : Option String
  deriving DecidableEq, Repr

namespace Interpreter

/-- How many bytes of a file are looked at. -/
def headSize : Nat := 256

/-- Whether a byte is a blank on the line of the interpreter. -/
def isGap (byte : UInt8) : Bool := byte == 32 || byte == 9

/-- The text of some bytes. -/
def textOf (bytes : List UInt8) : String :=
  (String.fromUTF8? ⟨bytes.toArray⟩).getD
    (String.ofList (bytes.map fun byte => Char.ofNat byte.toNat))

/-- The interpreter that a line names behind the marks, if the line has more than
blanks.  An empty name stands for the working directory. -/
def ofLine? (line : List UInt8) : Option Interpreter :=
  let body := line.dropWhile isGap
  let name := body.takeWhile fun byte => !isGap byte && byte != 0
  if body.isEmpty then none
  else
    let path := if name.isEmpty then "." else textOf name
    let behind := body.drop name.length
    let argument := (behind.dropWhile isGap)
    if behind.head? = some 0 || argument.isEmpty then some ⟨path, none⟩
    else some ⟨path, some (textOf (argument.takeWhile (· != 0)))⟩

/-- The interpreter that a file names.  Where the first line is cut off, at least the
end of the name has to be in sight. -/
def ofFile? (bytes : ByteArray) : Option Interpreter :=
  let head := (bytes.extract 0 headSize).toList
  match head ++ List.replicate (headSize - head.length) 0 with
  | 35 :: 33 :: rest =>
      let line := rest.takeWhile (· != 10)
      if line.length < rest.length then
        ofLine? (line.reverse.dropWhile isGap).reverse
      else
        let line := rest.dropLast
        if (line.dropWhile isGap).any fun byte => isGap byte || byte == 0 then ofLine? line
        else none
  | _ => none

end Interpreter
end Program
end ConfigWiring
