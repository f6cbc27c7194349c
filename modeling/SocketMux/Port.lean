/-!
# Port numbers

Ports are signed 32-bit numbers that identify endpoints within a socket directory;
they are not ports of a network protocol. Their range is divided by convention, and
two values outside it carry a meaning of their own.
-/

namespace SocketMux

/-- A multiplexed port number. -/
abbrev Port := Int32

namespace Port

/-- The registry port that a configuration uses when it names none. -/
def defaultRegistry : Port := 1099

/-- The least port that belongs to multiplexed endpoints. -/
def multiplexedBase : Port := 100000

/-- The first port that a port authority hands out. -/
def anonymousBase : Port := 110000

/-- The port that asks for any free port. -/
def anonymous : Port := 0

/-- The registry port that makes the socket directory itself the only socket file. -/
def plainFile : Port := -2

/-- Whether a port belongs to multiplexed endpoints in every configuration. -/
def isMultiplexed (port : Port) : Bool := decide (multiplexedBase ≤ port)

end Port

end SocketMux
