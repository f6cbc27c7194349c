import SocketMux.Authority.Frame
import SocketMux.Factory.Profile
import SocketMux.Keyed
import SocketMux.Shutdown.Coordinator
import SocketMux.Transport

/-!
# The multiplexer's state

All that was made on a host: port pools and assigners, port authorities, factories with
their registries, listeners and clients, and the coordinators of their shutdown. Things
refer to each other by their numbers in these tables.
-/

namespace SocketMux

/-- What hands out anonymous ports. -/
inductive Assigner where
  /-- A pool at hand. -/
  | pooled (pool : Nat)
  /-- An authority behind a socket. -/
  | remote (path : Path)
  /-- Ports that are handed out in turn, and how each returned port is refused, if it is. -/
  | scripted (ports : List Port) (refusal : Port → Option MuxError)

/-- A listener that a factory made. -/
structure MuxListener where
  factory : Nat
  port : Port
  file : Path
  socket : Nat
  /-- The number of the file that was found at the path after binding. -/
  fileNumber : Option Nat
  /-- Whether the factory lists the listener. -/
  registered : Bool
  /-- The assigner that an anonymous port goes back to. -/
  assigner : Option Nat
  isClosed : Bool
deriving DecidableEq, Repr

/-- A client that a factory made. -/
structure MuxClient where
  factory : Nat
  key : HostAndPort
  credentials : PeerCredentials
  file : Path
  connection : Nat
  isClosed : Bool
deriving DecidableEq, Repr

/-- A factory with its registries. -/
structure Factory where
  profile : FactoryProfile
  naming : Naming
  transport : Transport
  /-- The listener registered last for each port. -/
  servers : List (Port × Nat)
  clients : List Nat
  credentials : CredentialTable
  /-- The assigner that was looked up since the last close. -/
  authority : Option Nat
  /-- The coordinator that the factory is registered with, and its entry there. -/
  registration : Option (Nat × HookId)
  /-- Whether anybody still holds the factory. -/
  isHeld : Bool
deriving Repr

/-- A port authority that serves a pool behind a socket. -/
structure AuthorityServer where
  path : Path
  pool : Nat
  socket : Nat
  /-- Whether it was shut down, which is done once. -/
  isShutDown : Bool
deriving DecidableEq, Repr

/-- A connection that an authority has accepted, and the incomplete request on it. -/
structure ServedConnection where
  connection : Nat
  pool : Nat
  partialRequest : List UInt8
deriving DecidableEq, Repr

/-- The state of a multiplexer. -/
structure Multiplexer where
  host : Host
  /-- Who the processes on the host are. -/
  own : PeerCredentials
  /-- What whoever listens at a path without being an authority sends back to a request before
  the connection ends, or how the connection fails. -/
  strangers : Path → Authority.Request → Except Fault (List UInt8)
  pools : Table PortPool
  assigners : Table Assigner
  authorities : Table AuthorityServer
  served : List ServedConnection
  factories : Table Factory
  listeners : Table MuxListener
  clients : Table MuxClient
  coordinators : Table (ShutdownCoordinator Nat)
  /-- The ports that background tasks have still to give back, each to its assigner. -/
  due : List (Nat × Port)
  /-- All ports that were ever given back, each to its assigner, the latest first. -/
  returned : List (Nat × Port)

namespace Multiplexer

/-- The state in which nothing was made. Whoever is no authority ends connections at once. -/
def initial (host : Host) (own : PeerCredentials) : Multiplexer :=
  ⟨host, own, fun _ _ => .ok [], .empty, .empty, .empty, [], .empty, .empty, .empty, .empty,
    [], []⟩

/-- Change a factory. -/
def modifyFactory (mux : Multiplexer) (factory : Nat) (change : Factory → Factory) : Multiplexer :=
  { mux with factories := mux.factories.modify factory change }

end Multiplexer

namespace Factory

/-- The registered ports in ascending order. -/
def serverPorts (factory : Factory) : List Port :=
  (factory.servers.map Prod.fst).mergeSort fun left right => decide (left ≤ right)

/-- The number of registered clients. -/
def clientCount (factory : Factory) : Nat := factory.clients.length

/-- Whether a multiplexed port has a registered listener. -/
def isLocalServer (factory : Factory) (port : Port) : Bool :=
  port.isMultiplexed && factory.servers.any fun entry => entry.1 == port

/-- Register a listener in the place of an earlier one of its port. -/
def registerServer (factory : Factory) (port : Port) (listener : Nat) : Factory :=
  { factory with servers := Keyed.insert factory.servers port listener }

/-- Drop the registration of a listener. One that was replaced has none. -/
def unregisterServer (factory : Factory) (port : Port) (listener : Nat) : Factory :=
  { factory with servers := factory.servers.filter fun entry => entry != (port, listener) }

/-- Register a client with the credentials of its peer. -/
def registerClient (factory : Factory) (client : Nat) (key : HostAndPort)
    (credentials : PeerCredentials) : Factory :=
  { factory with
    clients := client :: factory.clients
    credentials := factory.credentials.insert key credentials }

/-- Remember the credentials of a peer in vain. -/
def forgetPeer (factory : Factory) (key : HostAndPort) (credentials : PeerCredentials) :
    Factory :=
  { factory with credentials := (factory.credentials.insert key credentials).erase key }

/-- Drop the registration of a client and what is remembered of its peer. -/
def unregisterClient (factory : Factory) (client : Nat) (key : HostAndPort) : Factory :=
  { factory with
    clients := factory.clients.filter (· != client)
    credentials := factory.credentials.erase key }

end Factory

end SocketMux
