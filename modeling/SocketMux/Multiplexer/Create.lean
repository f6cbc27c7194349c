import SocketMux.Conventional
import SocketMux.Multiplexer.Endpoint

/-!
# Making endpoints

A factory makes clients and servers for ports. A port below the multiplexed ones is
left to a conventional network socket if the factory has a host for that. A server for
port zero gets an anonymous port; if it cannot be bound the port goes back at once and
the error of binding is the one reported.
-/

namespace SocketMux.Multiplexer

/-- What a factory makes for a port to be served. -/
inductive Server where
  | multiplexed (listener : Nat)
  | conventional (networkPort : Nat)
deriving DecidableEq, Repr

/-- Make a factory, and register it with a coordinator if one is given. -/
def makeFactory (mux : Multiplexer) (profile : FactoryProfile) (naming : Naming)
    (transport : Transport) (coordinator : Option Nat) : Nat × Multiplexer :=
  let number := mux.factories.size
  let listed : Option (Nat × HookId × ShutdownCoordinator Nat) := do
    let coordinator ← coordinator
    let state ← mux.coordinators.get? coordinator
    let (id, state) := state.register number
    return (coordinator, id, state)
  let registration := listed.map fun (coordinator, id, _) => (coordinator, id)
  let coordinators := match listed with
    | some (coordinator, _, state) => mux.coordinators.modify coordinator fun _ => state
    | none => mux.coordinators
  let (number, factories) := mux.factories.add
    ⟨profile, naming, transport, [], [], .empty, none, registration, true⟩
  (number, { mux with factories, coordinators })

/-- Bind the file of a port for a factory, and register the listener if asked to. -/
def bindListener (mux : Multiplexer) (number : Nat) (factory : Factory) (port : Port)
    (assigner : Option Nat) (registered : Bool) : Except MuxError Nat × Multiplexer :=
  let file := factory.profile.fileFor port
  match LocalAddress.ofBytes file port with
  | .error err => (.error (.address err), mux)
  | .ok address =>
    match factory.transport.bind mux.host address true with
    | (.error err, host) => (.error err, { mux with host })
    | (.ok socket, host) =>
      let fileNumber := (host.fileNumber file).toOption
      let (listener, listeners) := mux.listeners.add
        ⟨number, port, file, socket, fileNumber, registered, assigner, false⟩
      let mux := { mux with host, listeners }
      if registered then
        (.ok listener, mux.modifyFactory number fun state => state.registerServer port listener)
      else (.ok listener, mux)

/-- Make a server on a port from the factory's assigner. -/
def createAnonymous (mux : Multiplexer) (number : Nat) (factory : Factory) :
    Except MuxError Nat × Multiplexer :=
  match mux.assignerOf number with
  | (.error err, mux) => (.error err, mux)
  | (.ok assigner, mux) =>
    match mux.newPort assigner with
    | (.error err, mux) => (.error err, mux)
    | (.ok port, mux) =>
      match mux.bindListener number factory port (some assigner) port.isMultiplexed with
      | (.ok listener, mux) => (.ok listener, mux)
      | (.error err, mux) => (.error err, (mux.returnPort assigner port).2)

/-- Make a conventional server. -/
def createConventional (mux : Multiplexer) (port : Port) : Except MuxError Nat × Multiplexer :=
  match Conventional.networkPort port with
  | .error err => (.error err, mux)
  | .ok networkPort =>
    match mux.host.takeNetworkPort networkPort with
    | .error fault => (.error (.fault .conventional fault), mux)
    | .ok host => (.ok networkPort, { mux with host })

/-- Make a server for a port. -/
def createServer (mux : Multiplexer) (number : Nat) (port : Port) :
    Except MuxError Server × Multiplexer :=
  match mux.factories.get? number with
  | none => (.error .closed, mux)
  | some factory =>
    if port = Port.anonymous then
      let (made, mux) := mux.createAnonymous number factory
      (made.map .multiplexed, mux)
    else if port.isMultiplexed = false ∧ factory.profile.serverHost.isSome then
      let (made, mux) := mux.createConventional port
      (made.map .conventional, mux)
    else
      let (made, mux) := mux.bindListener number factory port none true
      (made.map .multiplexed, mux)

/-- Connect to the file of a port for a factory, and register the client with the
credentials of its peer. A process that is short of descriptors has none left by which the
client could be closed; what was remembered for the host and port is then forgotten. -/
def connectClient (mux : Multiplexer) (number : Nat) (factory : Factory) (key : HostAndPort)
    (shortage : Option Fault := none) : Except MuxError Nat × Multiplexer :=
  let file := factory.profile.fileFor key.port
  match LocalAddress.ofBytes file key.port with
  | .error err => (.error (.address err), mux)
  | .ok address =>
    match factory.transport.connect mux.host address with
    | .error err => (.error err, mux)
    | .ok (connection, host) =>
      match factory.transport.peer mux.own with
      | .error err => (.error err, { mux with host := host.release connection .caller })
      | .ok credentials =>
        match shortage with
        | some fault =>
          let host := host.release connection .caller
          (.error (.fault .connect fault), { mux with host }.modifyFactory number fun state =>
            state.forgetPeer key credentials)
        | none =>
          let (client, clients) :=
            mux.clients.add ⟨number, key, credentials, file, connection, false⟩
          (.ok client, { mux with host, clients }.modifyFactory number fun state =>
            state.registerClient client key credentials)

/-- Make a client for a host and port. Network ports cannot be reached. -/
def createClient (mux : Multiplexer) (number : Nat) (key : HostAndPort)
    (shortage : Option Fault := none) : Except MuxError Nat × Multiplexer :=
  match mux.factories.get? number with
  | none => (.error .closed, mux)
  | some factory =>
    if key.port.isMultiplexed = false ∧ factory.profile.clientHost.isSome then
      match Conventional.networkPort key.port with
      | .error err => (.error err, mux)
      | .ok _ => (.error (.fault .conventional (.system Errno.networkUnreachable)), mux)
    else mux.connectClient number factory key shortage

end SocketMux.Multiplexer
