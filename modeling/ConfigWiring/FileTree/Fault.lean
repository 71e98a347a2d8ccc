/-!
# Faults of the file system

The reasons for which an operation on the file tree fails, each with the wording
and the number under which the operating system reports it.
-/

namespace ConfigWiring

/-- Why an operation on the file tree fails. -/
inductive FileFault where
  /-- No entry stands at the path. -/
  | notFound
  /-- The entry may not be run or opened. -/
  | permissionDenied
  /-- An entry stands where a new one should go. -/
  | alreadyExists
  /-- A step of the path leads through something that is no directory. -/
  | notDirectory
  /-- A directory stands where a file is asked for. -/
  | isDirectory
  /-- A directory that still has entries cannot be replaced. -/
  | notEmpty
  /-- The entry cannot be replaced because it is in use as a place. -/
  | busy
  /-- Symbolic links lead in a circle. -/
  | linkLoop
  /-- A name is longer than the file system allows. -/
  | nameTooLong
  /-- The file cannot be run as a program. -/
  | notExecutable
  /-- A name holds a character that no name can hold. -/
  | invalidArgument
  /-- The spelling of a path holds the character that ends every spelling. -/
  | endInside
  /-- A word for a program holds the character that ends every word. -/
  | endInWord
  /-- A confined path leads out of its directory. -/
  | outside
  /-- The bytes of a file are not text. -/
  | notText
  /-- The path cannot name a file. -/
  | invalidPath
  deriving DecidableEq, Repr

namespace FileFault

/-- A system wording with its number. -/
def numbered (wording : String) (number : Nat) : String :=
  wording ++ " (os error " ++ toString number ++ ")"

/-- The wording of a fault. -/
def message : FileFault -> String
  | notFound => numbered "No such file or directory" 2
  | permissionDenied => numbered "Permission denied" 13
  | alreadyExists => numbered "File exists" 17
  | notDirectory => numbered "Not a directory" 20
  | isDirectory => numbered "Is a directory" 21
  | notEmpty => numbered "Directory not empty" 39
  | busy => numbered "Device or resource busy" 16
  | linkLoop => numbered "Too many levels of symbolic links" 40
  | nameTooLong => numbered "File name too long" 36
  | notExecutable => numbered "Exec format error" 8
  | invalidArgument => numbered "Invalid argument" 22
  | endInside => "file name contained an unexpected NUL byte"
  | endInWord => "nul byte found in provided data"
  | outside => "a path led outside of the filesystem"
  | notText => "stream did not contain valid UTF-8"
  | invalidPath => "invalid input parameter"

end FileFault
end ConfigWiring
