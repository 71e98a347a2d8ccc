import ConfigWiring.Host.Basic

/-!
# Import formatters

A formatter puts the imports of a generated file into order.  It may change the host as
it likes, and it may fail, which costs the run nothing but a warning.
-/

namespace ConfigWiring

/-- What puts the imports of a file into order. -/
structure ImportFormatter where
  /-- Format the file that a path leads to. -/
  format : Path -> Host -> Option ComponentError × Host

namespace ImportFormatter

/-- The formatter that leaves every file as it is. -/
def idle : ImportFormatter := ⟨fun _ host => (none, host)⟩

@[simp] theorem format_idle (path : Path) (host : Host) :
    idle.format path host = (none, host) := rfl

end ImportFormatter
end ConfigWiring
