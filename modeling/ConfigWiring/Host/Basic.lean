import ConfigWiring.Environment.Basic
import ConfigWiring.Failure
import ConfigWiring.FileTree.Basic
import ConfigWiring.Notice

/-!
# Hosts and procedures

A host is what a run can see and change: the files, the directory it works in, the
variables of its process, the notices given so far and the lines that components have
written.  A procedure is work on a host; what it changed before it fails stays changed.
-/

namespace ConfigWiring

/-- What a run can see and change. -/
structure Host where
  /-- All files. -/
  files : FileTree
  /-- The working directory. -/
  place : Place
  /-- The permission bits that new entries do not get. -/
  umask : Nat
  /-- The variables of the process. -/
  environment : Environment
  /-- The notices given so far. -/
  notices : List Notice
  /-- The lines that components have written. -/
  output : List String

instance : Inhabited Host := ⟨⟨.empty, [], 0o022, .empty, [], []⟩⟩

namespace Host

/-- The host with one more line written. -/
def write (host : Host) (line : String) : Host := { host with output := host.output ++ [line] }

/-- The host with further notices given. -/
def tell (host : Host) (notices : List Notice) : Host :=
  { host with notices := host.notices ++ notices }

end Host

/-- Work on a host that may fail. -/
abbrev Procedure (result : Type) := ExceptT Failure (StateM Host) result

namespace Procedure

variable {result : Type}

/-- Do the work on a host. -/
def on (procedure : Procedure result) (host : Host) : Except Failure result × Host :=
  (ExceptT.run procedure).run host

/-- The work that a function on hosts describes. -/
def of (work : Host -> Except Failure result × Host) : Procedure result :=
  ExceptT.mk (StateT.mk work)

/-- The work of computing a result or a failure. -/
def ofExcept : Except Failure result -> Procedure result
  | .ok value => pure value
  | .error failure => throw failure

/-- Give notices. -/
def tell (notices : List Notice) : Procedure Unit :=
  modify fun host => host.tell notices

@[simp] theorem on_of (work : Host -> Except Failure result × Host) (host : Host) :
    (of work).on host = work host := rfl

@[simp] theorem on_pure (value : result) (host : Host) :
    (pure value : Procedure result).on host = (.ok value, host) := rfl

theorem on_bind_ok {next : Type} {procedure : Procedure result} {host behind : Host} {value : result}
    (done : procedure.on host = (.ok value, behind)) (continuation : result -> Procedure next) :
    (procedure >>= continuation).on host = (continuation value).on behind := by
  simp only [on, ExceptT.run_bind, StateT.run_bind] at *
  rw [done]
  rfl

theorem on_bind_error {next : Type} {procedure : Procedure result} {host behind : Host}
    {failure : Failure} (failed : procedure.on host = (.error failure, behind))
    (continuation : result -> Procedure next) :
    (procedure >>= continuation).on host = (.error failure, behind) := by
  simp only [on, ExceptT.run_bind, StateT.run_bind] at *
  rw [failed]
  rfl

end Procedure
end ConfigWiring
