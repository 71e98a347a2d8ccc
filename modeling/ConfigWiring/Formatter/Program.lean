import ConfigWiring.Formatter.Basic
import ConfigWiring.Program.Start

/-!
# Formatting programs

A formatting program is called with the option `-w` and the path of the file.  What it
does to files stays, however it ends.
-/

namespace ConfigWiring

namespace Shell
namespace Ending

/-- Whether a program ended well. -/
def succeeded : Ending -> Bool
  | code number => number == 0
  | signal _ => false

/-- The wording of an ending. -/
def text : Ending -> String
  | code number => "exit status: " ++ toString number
  | signal number => "signal: " ++ Signal.text number

end Ending
end Shell

namespace ImportFormatter

/-- The program that formats imports unless another is given. -/
def standardProgram : String := "goimports"

/-- The formatter that calls a program. -/
def program (name : String) : ImportFormatter :=
  ⟨fun path host =>
    match Program.run host name ["-w", path.text] with
    | .error fault => (some (.message fault.message), host)
    | .ok (ending, host) =>
        if ending.succeeded then (none, host)
        else (some (.message (name ++ " exited with " ++ ending.text)), host)⟩

end ImportFormatter
end ConfigWiring
