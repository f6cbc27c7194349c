import SocketMux.Error

/-!
# Conventional sockets

Low ports may be served by conventional network sockets instead of socket files. Their
ports are those of the network protocol, 0 to 65535.
-/

namespace SocketMux.Conventional

/-- The network port of a port number. -/
def networkPort (port : Port) : Except MuxError Nat :=
  if 0 ≤ port ∧ port ≤ 65535 then .ok port.toInt.toNat else .error (.portOutOfRange port)

/-- The host of conventional sockets as text. -/
def display (host : String) : String := s!"tcp://{host}"

end SocketMux.Conventional
