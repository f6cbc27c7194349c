import SocketMux.Layout

/-!
# Namings

A naming says which registry port belongs to a socket directory and where its port
authority is found: at hand, or behind a socket at a path.
-/

namespace SocketMux

/-- The registry port of a directory and where its port authority is found. Authorities
at hand are known by a number. -/
inductive Naming where
  | direct (registryPort : Port) (assigner : Nat)
  | socket (registryPort : Port) (authority : Path)
deriving DecidableEq, Repr

namespace Naming

/-- The registry port of a naming. -/
def registryPort : Naming → Port
  | direct registryPort _ => registryPort
  | socket registryPort _ => registryPort

/-- The naming whose authority stands at the registry port's file. -/
def ofLayout (layout : SocketLayout) (registryPort : Port) : Naming :=
  socket registryPort (layout.fileFor registryPort)

/-- A naming as text; an authority at hand has none. -/
def display? : Naming → Option String
  | direct .. => none
  | socket registryPort authority =>
    some s!"SocketNaming \x7b registry_port: {registryPort}, authority: {authority.quoted} \x7d"

end Naming

/-- A source of namings for directories and registry ports. -/
inductive NamingSource where
  /-- Authorities behind sockets, under file names with a fixed beginning and ending. -/
  | sockets (namePrefix nameSuffix : String)
  /-- One authority at hand, for registry ports that are not negative or plain-file. -/
  | direct (assigner : Nat)
deriving DecidableEq, Repr

/-- The naming of a directory and registry port. -/
def NamingSource.make (source : NamingSource) (directory : Path) (registryPort : Port) :
    Except MuxError Naming :=
  match source with
  | sockets namePrefix nameSuffix =>
    (SocketLayout.make directory namePrefix nameSuffix registryPort).map fun layout =>
      Naming.ofLayout layout registryPort
  | direct assigner =>
    if registryPort < 0 ∧ registryPort ≠ Port.plainFile then
      .error (.unavailable (.stated s!"refused {registryPort}"))
    else .ok (Naming.direct registryPort assigner)

end SocketMux
