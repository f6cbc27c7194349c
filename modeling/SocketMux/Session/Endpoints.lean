import SocketMux.Session.Factories

/-!
# Steps on endpoints

Making servers and clients, accepting, reading and writing, and closing. An accept in
the background keeps its server; a read in the background takes its stream.
-/

namespace SocketMux.Session

/-- Add a server. -/
def addServer (session : Session) (label : Label) (server : ServerHandle) : Session :=
  { session with servers := server :: session.servers }.name label (.server server)

/-- What is shown of a server. -/
def serverAnswer (mux : Multiplexer) : Multiplexer.Server → Answer
  | .conventional networkPort => .networkServer networkPort
  | .multiplexed number =>
    match mux.listeners.get? number with
    | none => .absent
    | some listener => .listener listener.port listener.file listener.isClosed

/-- Go on with another state of the host. -/
def withHost (session : Session) (host : Host) : Session :=
  session.withMux { session.mux with host }

/-- Make a server. -/
def makeServer (session : Session) (label factory : Label) (port : Port) : Answer × Session :=
  session.withThing (session.factory? factory) fun (number, _) =>
    match session.mux.createServer number port with
    | (.error err, mux) => (.failed err, session.withMux mux)
    | (.ok server, mux) =>
      (serverAnswer mux server, (session.withMux mux).addServer label (.made server))

/-- What is shown of a client. -/
def clientAnswer (mux : Multiplexer) (number : Nat) : Answer :=
  match mux.clients.get? number with
  | none => .absent
  | some client => .client client.key client.file client.credentials

/-- Make a client. -/
def makeClient (session : Session) (label factory : Label) (key : HostAndPort) (bare : Bool) :
    Answer × Session :=
  session.withThing (session.factory? factory) fun (number, _) =>
    match session.mux.createClient number key with
    | (.error err, mux) => (.failed err, session.withMux mux)
    | (.ok client, mux) =>
      (clientAnswer mux client, (session.withMux mux).name label (.stream (.client client bare)))

/-- Accept on a server, if a connection waits. Nobody reaches a conventional server. -/
def acceptFrom (mux : Multiplexer) : ServerHandle → Except MuxError (Option Nat) × Multiplexer
  | .made (.multiplexed listener) => mux.acceptOn listener
  | .made (.conventional _) => (.ok none, mux)
  | .bound socket =>
    let (connection, host) := mux.host.accept socket
    (.ok connection, { mux with host })

/-- Keep a connection that was accepted. -/
def keepAccepted (session : Session) (label : Label) (server : ServerHandle) (connection : Nat) :
    Answer × Session :=
  (.accepted server.acceptKind, session.name label (.stream (server.accepted connection)))

/-- Accept a connection. -/
def accept (session : Session) (label server : Label) : Answer × Session :=
  session.withThing (session.server? server) fun server =>
    match acceptFrom session.mux server with
    | (.error err, mux) => (.failed err, session.withMux mux)
    | (.ok none, mux) => (.pending, session.withMux mux)
    | (.ok (some connection), mux) =>
      (session.withMux mux).keepAccepted label server connection

/-- Begin to accept on a server in the background. -/
def beginAcceptFrom (mux : Multiplexer) : ServerHandle → Nat × Multiplexer
  | .made (.multiplexed listener) => mux.beginAcceptOn listener
  | .made (.conventional _) =>
    let (pending, host) := mux.host.noteAccept .waiting
    (pending, { mux with host })
  | .bound socket =>
    let (pending, host) := mux.host.beginAccept socket
    (pending, { mux with host })

/-- Begin an accept in the background. -/
def beginAccept (session : Session) (label server : Label) : Answer × Session :=
  session.withThing (session.server? server) fun server =>
    let (pending, mux) := beginAcceptFrom session.mux server
    (.nothing, (session.withMux mux).name label (.accepting pending server))

/-- Take the outcome of an accept in the background. An accept that still waits is given
up. -/
def finishAccept (session : Session) (label task : Label) : Answer × Session :=
  match session.thing? task with
  | some (.accepting pending server) =>
    match session.mux.host.accepts.get? pending with
    | some (.accepted connection) =>
      (session.forget task).keepAccepted label server connection
    | some .waiting =>
      (.pending, (session.withHost (session.mux.host.cancelAccept pending)).forget task)
    | _ => (.failed .closed, session.forget task)
  | _ => (.absent, session)

/-- The answer of a read. -/
def ofReadOutcome : ReadOutcome → Answer
  | .data bytes => .data bytes
  | .ended => .ended
  | .pending => .pending
  | .failed fault => .faulted fault

/-- The terminal of a label. -/
def labelledTerminal? (session : Session) (label : Label) : Option (Nat × Side) :=
  (session.stream? label).bind session.terminal?

/-- Read from a stream. -/
def read (session : Session) (stream : Label) (limit : Nat) : Answer × Session :=
  session.withThing (session.labelledTerminal? stream) fun (connection, side) =>
    let (outcome, host) := session.mux.host.read connection side limit
    (ofReadOutcome outcome, session.withHost host)

/-- Begin a read in the background. -/
def beginRead (session : Session) (stream : Label) (limit : Nat) : Answer × Session :=
  session.withThing (session.stream? stream) fun handle =>
    (.nothing, (session.forget stream).name stream (.reading handle limit none))

/-- Take the outcome of a read in the background, if it has one. -/
def finishRead (session : Session) (stream : Label) : Answer × Session :=
  match session.thing? stream with
  | some (.reading _ _ (some outcome)) => (ofReadOutcome outcome, session.forget stream)
  | some (.reading _ _ none) => (.pending, session)
  | _ => (.absent, session)

/-- Write to a stream. -/
def write (session : Session) (stream : Label) (bytes : List UInt8) : Answer × Session :=
  session.withThing (session.labelledTerminal? stream) fun (connection, side) =>
    match session.mux.host.write connection side bytes with
    | (.ok (), host) => (.done, session.withHost host)
    | (.error fault, host) => (.faulted fault, session.withHost host)

/-- Write parts to a stream in one go. -/
def writeParts (session : Session) (stream : Label) (parts : List (List UInt8)) :
    Answer × Session :=
  session.withThing (session.stream? stream) fun handle =>
    session.withThing (session.terminal? handle) fun (connection, side) =>
      let together := handle.joinsParts
      match session.mux.host.writeParts connection side together parts with
      | (.ok count, host) => (.written count together, session.withHost host)
      | (.error fault, host) => (.faulted fault, session.withHost host)

/-- End the writing of a stream. -/
def endWriting (session : Session) (stream : Label) : Answer × Session :=
  session.withThing (session.labelledTerminal? stream) fun (connection, side) =>
    (.done, session.withHost
      (session.mux.host.modifyConnection connection fun state => state.endWriting side))

/-- Tell whether an endpoint is closed. Nothing is known of conventional ones. -/
def isClosed (session : Session) (endpoint : Label) : Answer × Session :=
  let mux := session.mux
  match session.thing? endpoint with
  | some (.server (.made (.multiplexed number))) =>
    (.flag ((mux.listeners.get? number).any MuxListener.isClosed), session)
  | some (.server (.made (.conventional _))) => (.nothing, session)
  | some (.stream (.client number _)) =>
    (.flag ((mux.clients.get? number).any MuxClient.isClosed), session)
  | _ => (.absent, session)

/-- Close a server, a client or a factory. -/
def close (session : Session) (thing : Label) : Answer × Session :=
  match session.thing? thing with
  | some (.server (.made (.multiplexed number))) =>
    let (outcome, mux) := session.mux.closeListener number
    (doneOr outcome, session.withMux mux)
  | some (.server (.made (.conventional _))) => (.done, session)
  | some (.stream (.client number _)) =>
    (.done, session.withMux (session.mux.closeClient number))
  | some (.factory number) =>
    let (outcome, mux) := session.mux.closeFactory number
    (doneOr outcome, session.withMux mux)
  | _ => (.absent, session)

/-- Let go of a thing. -/
def drop (session : Session) (label : Label) (hasTasks : Bool) : Answer × Session :=
  session.withThing (session.thing? label) fun thing =>
    (.nothing, ((session.forget label).dropThing label thing).dropServers hasTasks)

end SocketMux.Session
