import SocketMux.Cluster.Uri
import SocketMux.Session.Endpoints

/-!
# Running sessions

A step is performed, the background tasks run until they are idle, and then what can be
seen is noted down. A session runs its steps in turn.
-/

namespace SocketMux.Session

/-- The answer of an outcome that is a host. -/
def doneWith (session : Session) (outcome : Except MuxError Nat × Host)
    (keep : Session → Nat → Answer × Session) : Answer × Session :=
  match outcome with
  | (.error err, host) => (.failed err, session.withHost host)
  | (.ok made, host) => keep (session.withHost host) made

/-- The local address that a step asks for in a session with a home. -/
def DirectAddress.resolve (home : Place) : DirectAddress → Except AddressError LocalAddress
  | .path bytes => LocalAddress.ofBytes bytes 0
  | .privateName bytes => LocalAddress.ofAbstractName (home.flatten ++ bytes) 0

/-- Bind an address directly. -/
def bindDirectly (session : Session) (label : Label) (address : DirectAddress) (reuse : Bool) :
    Answer × Session :=
  match address.resolve session.home with
  | .error err => (.failed (.address err), session)
  | .ok address =>
    session.doneWith (Transport.plain.bind session.mux.host address reuse) fun session socket =>
      (.done, session.addServer label (.bound socket))

/-- Connect to an address directly. -/
def connectDirectly (session : Session) (label : Label) (address : DirectAddress) :
    Answer × Session :=
  match address.resolve session.home with
  | .error err => (.failed (.address err), session)
  | .ok address =>
    match Transport.plain.connect session.mux.host address with
    | .error err => (.failed err, session)
    | .ok (connection, host) =>
      (.peer session.mux.own,
        (session.withHost host).name label (.stream (.terminal connection .caller true)))

/-- Connect to a cluster address, which no transport can. -/
def connectCluster (session : Session) (uri : String) : Answer × Session :=
  match ClusterAddress.ofUri uri none with
  | .error err => (.failed (.address err), session)
  | .ok _ => (.failed (.unsupported Transport.clusterSockets), session)

/-- Start an authority that serves a pool. -/
def startAuthority (session : Session) (label : Label) (path : Path) (pool : Label) :
    Answer × Session :=
  session.withThing (session.pool? pool) fun number =>
    match session.mux.startAuthority path number with
    | (.error err, mux) => (.failed err, session.withMux mux)
    | (.ok authority, mux) =>
      let ports := match mux.pools.get? number with
        | some state => state.snapshot
        | none => .error .closed
      (.authority path ports, (session.withMux mux).name label (.authority authority))

/-- Shut an authority down. -/
def shutDownAuthority (session : Session) (authority : Label) : Answer × Session :=
  session.withThing (session.authority? authority) fun number =>
    let (outcome, mux) := session.mux.shutDownAuthority number
    (doneOr outcome, session.withMux mux)

/-- The answer of a conversation. -/
def repliesOr (replies : Except Fault (Option (List UInt8))) : Answer :=
  match replies with
  | .error fault => .faulted fault
  | .ok none => .pending
  | .ok (some bytes) => .replies bytes

/-- Send bytes to whoever listens at a path, let the background tasks run and read the
replies. -/
def converse (session : Session) (path : Path) (bytes : List UInt8) : Answer × Session :=
  match session.mux.beginConversation path bytes with
  | .error fault => (.faulted fault, session)
  | .ok (connection, mux) =>
    let session := (session.withMux mux).settle
    (repliesOr (session.mux.repliesIn connection),
      session.withMux (session.mux.endConversation connection))

/-- The files after a change from outside. -/
def FileChange.apply (change : FileChange) (files : FileTree) : Except Fault Unit × FileTree :=
  match change with
  | .write path => files.orSame (files.writeRegular path)
  | .makeDirectories path => files.makeDirectories path
  | .remove path => files.orSame (files.unlink path)
  | .rename path target => files.orSame (files.rename path target)
  | .link path target => files.orSame (files.makeLink path target)

/-- Change files from outside. -/
def changeFiles (session : Session) (change : FileChange) : Answer × Session :=
  let host := session.mux.host
  match change.apply host.files with
  | (.error fault, files) => (.faulted fault, session.withHost { host with files })
  | (.ok (), files) => (.done, session.withHost { host with files })

/-- Perform a step. -/
def perform (session : Session) : Step → Answer × Session
  | .makePool label => session.makePool label
  | .allocate pool => session.allocate pool
  | .closePool pool => session.closePool pool
  | .makeAssigner label plan => session.makeAssigner label plan
  | .ask assigner request => session.ask assigner request
  | .makeNaming label plan => session.makeNaming label plan
  | .lookUp label naming => session.lookUp label naming
  | .lookUpOf label factory => session.lookUpOf label factory
  | .sameAssigner left right => session.sameAssigner left right
  | .makeTransport label transport => session.makeTransport label transport
  | .makeCoordinator label => session.makeCoordinator label
  | .countLive coordinator => session.countLive coordinator
  | .shutDownAll coordinator => session.shutDownAll coordinator
  | .makeFactory label plan => session.makeFactory label plan
  | .configureFactory label text => session.configureFactory label text
  | .shareFactory label factory => session.shareFactory label factory
  | .copyFactory label factory naming => session.copyFactory label factory naming
  | .record factory => session.recordOf factory
  | .equalFactories left right => session.equalFactories left right
  | .query factory key => session.query factory key
  | .makeServer label factory port => session.makeServer label factory port
  | .makeClient label factory key bare => session.makeClient label factory key bare
  | .accept label server => session.accept label server
  | .beginAccept label server => session.beginAccept label server
  | .finishAccept label task => session.finishAccept label task
  | .read stream limit => session.read stream limit
  | .beginRead stream limit => session.beginRead stream limit
  | .finishRead stream => session.finishRead stream
  | .write stream bytes => session.write stream bytes
  | .writeParts stream parts => session.writeParts stream parts
  | .endWriting stream => session.endWriting stream
  | .isClosed endpoint => session.isClosed endpoint
  | .close thing => session.close thing
  | .drop thing hasTasks => session.drop thing hasTasks
  | .startAuthority label path pool => session.startAuthority label path pool
  | .shutDownAuthority authority => session.shutDownAuthority authority
  | .converse path bytes => session.converse path bytes
  | .bindDirectly label address reuse => session.bindDirectly label address reuse
  | .connectDirectly label address => session.connectDirectly label address
  | .connectCluster _ uri => session.connectCluster uri
  | .changeFiles change => session.changeFiles change

/-- The factories with labels, as they are seen. -/
def factoryViews (session : Session) : List (Label × FactoryView) :=
  session.things.filterMap fun (label, _) =>
    (session.factory? label).map fun (_, state) => (label, ⟨state.serverPorts, state.clientCount⟩)

/-- The pools with labels and the ports in use of each. -/
def poolViews (session : Session) : List (Label × Option (List Port)) :=
  session.things.filterMap fun (label, _) => do
    let state ← session.mux.pools.get? (← session.pool? label)
    return (label, state.snapshot.toOption)

/-- The ports that were given back to a script, in ascending order. -/
def returnedTo (mux : Multiplexer) (assigner : Nat) : List Port :=
  let ports := mux.returned.filterMap fun (receiver, port) =>
    if receiver = assigner then some port else none
  ports.mergeSort fun left right => decide (left ≤ right)

/-- The scripts with labels and the ports that were given back to each. -/
def returnedViews (session : Session) : List (Label × List Port) :=
  session.things.filterMap fun (label, thing) =>
    match thing with
    | .assigner number =>
      match session.mux.assigners.get? number with
      | some (.scripted ..) => some (label, returnedTo session.mux number)
      | _ => none
    | _ => none

/-- Note down what can be seen after an answer. -/
def observe (session : Session) (answer : Answer) : Observation :=
  ⟨answer, session.mux.host.files.listing session.home, session.factoryViews, session.poolViews,
    session.returnedViews⟩

/-- Perform a step, let the background tasks run and note down what can be seen. -/
def step (session : Session) (step : Step) : Observation × Session :=
  let (answer, session) := session.perform step
  let session := session.settle
  (session.observe answer, session)

/-- Run steps in turn. -/
def run (session : Session) : List Step → List Observation × Session
  | [] => ([], session)
  | first :: others =>
    let (observation, session) := session.step first
    let (observations, session) := run session others
    (observation :: observations, session)

end SocketMux.Session
