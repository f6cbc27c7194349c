import SocketMux.Fault.Errno

/-!
# System faults

What a failed system call or transfer reports: a system error number, a kind alone, or
a kind with a text of its own.
-/

namespace SocketMux

/-- A fault of the system. -/
inductive Fault where
  | system (number : Int)
  | plain (kind : FaultKind)
  | described (kind : FaultKind) (text : String)
deriving DecidableEq, Repr

namespace Fault

/-- The kind of a fault. -/
def kind : Fault → FaultKind
  | system number => Errno.kind number
  | plain kind => kind
  | described kind _ => kind

/-- The text of a fault. -/
def message : Fault → String
  | system number => s!"{Errno.text number} (os error {number})"
  | plain kind => kind.description
  | described _ text => text

end Fault

end SocketMux
