import SocketMux.Keyed
import SocketMux.Port

/-!
# Peer credentials

The process, user and group behind the other end of a connection, remembered under the
host and port that the connection was made for. The latest entry for a host and port
stands alone.
-/

namespace SocketMux

/-- The identity of a peer; the process is not always known. -/
structure PeerCredentials where
  process : Option Int32
  user : UInt32
  group : UInt32
deriving DecidableEq, Repr

/-- Credentials as text; an unknown process is left out. -/
def PeerCredentials.display (credentials : PeerCredentials) : String :=
  let owner := s!"uid={credentials.user};gid={credentials.group}"
  match credentials.process with
  | some process => s!"pid={process};{owner}"
  | none => owner

/-- The host and port that a connection was made for. -/
structure HostAndPort where
  host : String
  port : Port
deriving DecidableEq, Repr

/-- A host and port as text. -/
def HostAndPort.display (key : HostAndPort) : String := s!"{key.host}:{key.port}"

/-- The remembered credentials, at most one entry for each host and port. -/
structure CredentialTable where
  entries : List (HostAndPort × PeerCredentials)
deriving DecidableEq, Repr

namespace CredentialTable

/-- The table without entries. -/
def empty : CredentialTable := ⟨[]⟩

/-- The credentials remembered for a host and port. -/
def get? (table : CredentialTable) (key : HostAndPort) : Option PeerCredentials :=
  Keyed.get? table.entries key

/-- Forget a host and port. -/
def erase (table : CredentialTable) (key : HostAndPort) : CredentialTable :=
  ⟨Keyed.erase table.entries key⟩

/-- Remember credentials in the place of earlier ones. -/
def insert (table : CredentialTable) (key : HostAndPort) (credentials : PeerCredentials) :
    CredentialTable :=
  ⟨Keyed.insert table.entries key credentials⟩

/-- The number of entries. -/
def size (table : CredentialTable) : Nat := table.entries.length

@[simp]
theorem get?_empty (key : HostAndPort) : empty.get? key = none := rfl

@[simp]
theorem get?_insert (table : CredentialTable) (key other : HostAndPort)
    (credentials : PeerCredentials) :
    (table.insert key credentials).get? other =
      if other = key then some credentials else table.get? other :=
  Keyed.get?_insert table.entries key other credentials

@[simp]
theorem get?_erase (table : CredentialTable) (key other : HostAndPort) :
    (table.erase key).get? other = if other = key then none else table.get? other :=
  Keyed.get?_erase table.entries key other

end CredentialTable

end SocketMux
