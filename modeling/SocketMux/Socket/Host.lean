import SocketMux.File.Change
import SocketMux.Socket.Connection
import SocketMux.Table

/-!
# Hosts

A host keeps the files, the sockets that listen, the connections and the network ports
in use. A socket listens at a socket file or under an abstract name. Whoever connects
is queued at once and accepted in turn; a socket that is closed resets all that it has
not accepted.

The interfaces of the host are down: network ports can be taken but not reached.
-/

namespace SocketMux

/-- Where a socket listens. A file is known by its number, so that the socket is still
found when the file is moved. -/
inductive SocketSpot where
  | file (number : Nat)
  | abstractName (name : List UInt8)
  | nowhere
deriving DecidableEq, Repr

/-- A socket that listens, or has listened. -/
structure ListeningSocket where
  spot : SocketSpot
  /-- The connections that wait to be accepted, the first come first. -/
  backlog : List Nat
  /-- The accepts that wait for a connection, in the order in which they are tried. -/
  waiting : List Nat
  isOpen : Bool
deriving DecidableEq, Repr

/-- The state of an accept that waits in the background. -/
inductive PendingAccept where
  | waiting
  | accepted (connection : Nat)
  | closed
deriving DecidableEq, Repr

/-- The state of a host. -/
structure Host where
  files : FileTree
  sockets : Table ListeningSocket
  connections : Table Connection
  accepts : Table PendingAccept
  /-- The network ports in use. -/
  networkPorts : List Nat
deriving DecidableEq, Repr

namespace Host

/-- The host with nothing on it. -/
def bare : Host := ⟨.bare, .empty, .empty, .empty, []⟩

/-- The length from which on a path or a name without its zero byte does not fit into a
socket address. -/
def addressLimit : Nat := 108

/-- The fault of a name that does not fit. -/
def longName : Fault := .described .invalidInput "abstract socket name must be shorter than SUN_LEN"

/-- The fault of a path that does not fit. -/
def longPath : Fault := .described .invalidInput "path must be shorter than SUN_LEN"

/-- The fault of a socket path with a zero byte in it. -/
def zeroInAddress : Fault :=
  .described .invalidInput "paths must not contain interior null bytes"

/-- Refuse paths that do not fit into a socket address. -/
def checkPath (path : Path) : Except Fault Unit :=
  if path.contains 0 then .error zeroInAddress
  else if addressLimit ≤ path.length then .error longPath
  else .ok ()

/-- The name behind a leading zero byte, which stands for the abstract namespace. -/
def abstractName? (bytes : List UInt8) : Option (List UInt8) :=
  match bytes with
  | first :: name => if first = 0 then some name else none
  | [] => none

/-- The open socket at a spot. -/
def socketAt? (host : Host) (spot : SocketSpot) : Option Nat :=
  (host.sockets.numbersWhere fun socket => socket.isOpen && socket.spot == spot).head?

/-- Open a socket at a spot. -/
def listenAt (host : Host) (spot : SocketSpot) : Nat × Host :=
  let (socket, sockets) := host.sockets.add ⟨spot, [], [], true⟩
  (socket, { host with sockets })

/-- Listen under an abstract name that is not in use. -/
def listenUnder (host : Host) (name : List UInt8) : Except Fault (Nat × Host) :=
  if addressLimit ≤ name.length then .error longName
  else
    match host.socketAt? (.abstractName name) with
    | some _ => .error (.system Errno.addressInUse)
    | none => .ok (host.listenAt (.abstractName name))

/-- Listen at a fresh socket file. A leading zero byte asks for an abstract name, and
the empty path for no address at all. -/
def listen (host : Host) (path : Path) : Except Fault (Nat × Host) :=
  match abstractName? path with
  | some name => host.listenUnder name
  | none => do
    checkPath path
    if path = [] then return host.listenAt .nowhere
    else
      let (number, files) ← host.files.makeSocket path
      return { host with files }.listenAt (.file number)

/-- Queue a fresh connection at a socket, or hand it to an accept that waits. The
accepts that were tried in vain are tried in the opposite order next time. -/
def connectTo (host : Host) (socket : Nat) : Nat × Host :=
  let (connection, connections) := host.connections.add .fresh
  let host := { host with connections }
  match (host.sockets.get? socket).map ListeningSocket.waiting with
  | some (first :: others) =>
    (connection, { host with
      sockets := host.sockets.modify socket fun state => { state with waiting := others.reverse }
      accepts := host.accepts.modify first fun _ => .accepted connection })
  | _ =>
    (connection, { host with
      sockets := host.sockets.modify socket fun state =>
        { state with backlog := state.backlog ++ [connection] } })

/-- The open socket under an abstract name. -/
def reachName (host : Host) (name : List UInt8) : Except Fault Nat :=
  if addressLimit ≤ name.length then .error longName
  else
    match host.socketAt? (.abstractName name) with
    | some socket => .ok socket
    | none => .error (.system Errno.refused)

/-- The open socket that a path leads to. -/
def reach (host : Host) (path : Path) : Except Fault Nat :=
  match abstractName? path with
  | some name => host.reachName name
  | none => do
    checkPath path
    if path = [] then .error (.system Errno.invalid)
    else
      let node ← host.files.find true path
      match host.socketAt? (.file node.number) with
      | some socket => return socket
      | none => .error (.system Errno.refused)

/-- Take the first connection that waits at a socket. -/
def accept (host : Host) (socket : Nat) : Option Nat × Host :=
  match (host.sockets.get? socket).map ListeningSocket.backlog with
  | some (first :: others) =>
    (some first, { host with
      sockets := host.sockets.modify socket fun state => { state with backlog := others } })
  | _ => (none, host)

/-- Begin an accept in the background. -/
def beginAccept (host : Host) (socket : Nat) : Nat × Host :=
  match host.accept socket with
  | (some connection, host) =>
    let (pending, accepts) := host.accepts.add (.accepted connection)
    (pending, { host with accepts })
  | (none, host) =>
    let (pending, accepts) := host.accepts.add .waiting
    (pending, { host with
      accepts
      sockets := host.sockets.modify socket fun state =>
        { state with waiting := pending :: state.waiting } })

/-- Note an accept that ended or never ends by itself. -/
def noteAccept (host : Host) (state : PendingAccept) : Nat × Host :=
  let (pending, accepts) := host.accepts.add state
  (pending, { host with accepts })

/-- Give an accept up. No connection is handed to it any more. -/
def cancelAccept (host : Host) (pending : Nat) : Host :=
  { host with
    accepts := host.accepts.modify pending fun _ => .closed
    sockets := host.sockets.map fun socket =>
      { socket with waiting := socket.waiting.erase pending } }

/-- Change a connection. -/
def modifyConnection (host : Host) (connection : Nat) (change : Connection → Connection) : Host :=
  { host with connections := host.connections.modify connection change }

/-- Let go of a terminal. -/
def release (host : Host) (connection : Nat) (side : Side) : Host :=
  host.modifyConnection connection fun state => state.release side true

/-- Close a socket: what waits to be accepted is reset, and accepts that wait end. -/
def closeSocket (host : Host) (socket : Nat) : Host :=
  match host.sockets.get? socket with
  | none => host
  | some state =>
    { host with
      sockets := host.sockets.modify socket fun state =>
        { state with backlog := [], waiting := [], isOpen := false }
      connections := state.backlog.foldl (fun connections connection =>
        connections.modify connection fun queued => queued.release .callee false) host.connections
      accepts := state.waiting.foldl (fun accepts pending =>
        accepts.modify pending fun _ => .closed) host.accepts }

/-- Read from a terminal. A connection that does not exist has ended. -/
def read (host : Host) (connection : Nat) (side : Side) (limit : Nat) : ReadOutcome × Host :=
  match host.connections.get? connection with
  | none => (.ended, host)
  | some state =>
    let (outcome, state) := state.read side limit
    (outcome, host.modifyConnection connection fun _ => state)

/-- Put bytes on a connection, which breaks if the connection does not exist. -/
def put (host : Host) (connection : Nat)
    (how : Connection → Except Fault Unit × Connection) : Except Fault Unit × Host :=
  match host.connections.get? connection with
  | none => (.error (.system Errno.brokenPipe), host)
  | some state =>
    let (outcome, state) := how state
    (outcome, host.modifyConnection connection fun _ => state)

/-- Write to a terminal. -/
def write (host : Host) (connection : Nat) (side : Side) (bytes : List UInt8) :
    Except Fault Unit × Host :=
  host.put connection fun state => state.write side bytes

/-- The number of parts that are written together at most. -/
def maxParts : Nat := 1024

/-- Write parts to a terminal in one go, and count the bytes: the first parts joined
together, or only the first part that is not empty. -/
def writeParts (host : Host) (connection : Nat) (side : Side) (together : Bool)
    (parts : List (List UInt8)) : Except Fault Nat × Host :=
  let bytes :=
    if together then (parts.take maxParts).flatten else (parts.find? (· ≠ [])).getD []
  let (outcome, host) := host.put connection fun state =>
    if together then state.write side bytes else state.send side bytes
  (outcome.map fun () => bytes.length, host)

/-- Remove a file that is no directory. -/
def removeFile (host : Host) (path : Path) : Except Fault Host := do
  let files ← host.files.unlink path
  return { host with files }

/-- Remove a file, where it does no harm if there is none. -/
def removeIfPresent (host : Host) (path : Path) : Except Fault Host :=
  match host.removeFile path with
  | .ok host => .ok host
  | .error fault => if fault.kind = .notFound then .ok host else .error fault

/-- The number of the file at a path, a link counting itself. -/
def fileNumber (host : Host) (path : Path) : Except Fault Nat :=
  (host.files.find false path).map FileNode.number

/-- Remove a file if it still has a number, where it does no harm if there is none. -/
def removeNumbered (host : Host) (path : Path) (number : Nat) : Except Fault Host :=
  match host.fileNumber path with
  | .ok present => if present = number then host.removeIfPresent path else .ok host
  | .error fault => if fault.kind = .notFound then .ok host else .error fault

/-- Take a network port. -/
def takeNetworkPort (host : Host) (port : Nat) : Except Fault Host :=
  if host.networkPorts.contains port then .error (.system Errno.addressInUse)
  else .ok { host with networkPorts := port :: host.networkPorts }

/-- Give a network port free. -/
def freeNetworkPort (host : Host) (port : Nat) : Host :=
  { host with networkPorts := host.networkPorts.erase port }

end Host

end SocketMux
