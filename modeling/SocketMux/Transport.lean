import SocketMux.Credentials
import SocketMux.Error
import SocketMux.Local.Address
import SocketMux.Socket.Host

/-!
# Transports

A transport connects and binds local addresses on a host and tells who the peer of a
connection is. Parts of it can be set to fail, to report another peer or to bind
another path than the one asked for.
-/

namespace SocketMux

/-- A transport, which works plainly where nothing is set. -/
structure Transport where
  connectFailure : Option MuxError
  bindFailure : Option MuxError
  credentialsFailure : Option MuxError
  /-- Who every peer is reported to be. -/
  reportedPeer : Option PeerCredentials
  /-- The path that is bound in the place of the asked one. -/
  boundPath : Option Path
deriving Repr

namespace Transport

/-- The transport that works plainly. -/
def plain : Transport := ⟨none, none, none, none, none⟩

/-- The feature that no transport has. -/
def clusterSockets : String := "cluster messaging sockets"

/-- Connect to an address without any setting. -/
def connectPlainly (host : Host) (address : LocalAddress) : Except MuxError (Nat × Host) :=
  let reached :=
    if address.isAbstract then host.reachName address.bytes.tail else host.reach address.bytes
  match reached with
  | .error fault => .error (.fault .connect fault)
  | .ok socket => .ok (host.connectTo socket)

/-- Bind an address without any setting. With `reuse` a file that is in the way is
removed first, even if binding fails then. -/
def bindPlainly (host : Host) (address : LocalAddress) (reuse : Bool) :
    Except MuxError Nat × Host :=
  let orFault (host : Host) (bound : Except Fault (Nat × Host)) : Except MuxError Nat × Host :=
    match bound with
    | .ok (socket, host) => (.ok socket, host)
    | .error fault => (.error (.fault .bind fault), host)
  if address.isAbstract then orFault host (host.listenUnder address.bytes.tail)
  else if reuse then
    match host.removeIfPresent address.bytes with
    | .error fault => (.error (.fault .bind fault), host)
    | .ok host => orFault host (host.listen address.bytes)
  else orFault host (host.listen address.bytes)

/-- Connect to an address. -/
def connect (transport : Transport) (host : Host) (address : LocalAddress) :
    Except MuxError (Nat × Host) :=
  match transport.connectFailure with
  | some err => .error err
  | none => connectPlainly host address

/-- Bind an address. -/
def bind (transport : Transport) (host : Host) (address : LocalAddress) (reuse : Bool) :
    Except MuxError Nat × Host :=
  match transport.bindFailure, transport.boundPath with
  | some err, _ => (.error err, host)
  | none, none => bindPlainly host address reuse
  | none, some path =>
    match LocalAddress.ofBytes path address.port with
    | .error err => (.error (.address err), host)
    | .ok other => bindPlainly host other reuse

/-- Who the peer of a connection is; `own` is who it really is. -/
def peer (transport : Transport) (own : PeerCredentials) : Except MuxError PeerCredentials :=
  match transport.credentialsFailure with
  | some err => .error err
  | none => .ok (transport.reportedPeer.getD own)

end Transport

end SocketMux
