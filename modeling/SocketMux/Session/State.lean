import SocketMux.Keyed
import SocketMux.Session.Step

/-!
# The state of a session

A session knows things by labels. A server lives as long as a label or an accept in the
background holds it. A read in the background takes the stream with it and lets go of it
when it is done. An accept or a read that loses its label goes on, but nobody takes its
outcome any more; everything else is let go of with its label.
-/

namespace SocketMux

/-- A server that can be accepted on. -/
inductive ServerHandle where
  | made (server : Multiplexer.Server)
  /-- A socket that was bound directly. -/
  | bound (socket : Nat)
deriving DecidableEq, Repr

/-- Something that can be read and written. -/
inductive StreamHandle where
  /-- A client, and whether it is its bare stream. -/
  | client (number : Nat) (bare : Bool)
  /-- A terminal, and whether it was reached without an endpoint. -/
  | terminal (connection : Nat) (side : Side) (bare : Bool)
deriving DecidableEq, Repr

/-- What accepts on a server hand out. -/
def ServerHandle.acceptKind : ServerHandle → Session.AcceptKind
  | made _ => .endpoint
  | bound _ => .direct

/-- The stream of a connection that was accepted on a server. -/
def ServerHandle.accepted (server : ServerHandle) (connection : Nat) : StreamHandle :=
  .terminal connection .callee (server.acceptKind == .direct)

/-- Whether a stream writes parts together, as only bare ones do. -/
def StreamHandle.joinsParts : StreamHandle → Bool
  | client _ bare | terminal _ _ bare => bare

/-- A thing with a label. -/
inductive Thing where
  | pool (number : Nat)
  | assigner (number : Nat)
  /-- An assigner that was looked up. -/
  | found (number : Nat)
  | naming (naming : Naming)
  | transport (transport : Transport)
  | coordinator (number : Nat)
  | factory (number : Nat)
  | server (server : ServerHandle)
  | stream (stream : StreamHandle)
  | authority (number : Nat)
  | accepting (pending : Nat) (server : ServerHandle)
  | reading (stream : StreamHandle) (limit : Nat) (outcome : Option ReadOutcome)
deriving Repr

/-- The state of a session. -/
structure Session where
  mux : Multiplexer
  /-- The directory of which the files are shown. -/
  home : Place
  things : List (Session.Label × Thing)
  /-- The background tasks that have lost their labels, each with the one it had. -/
  detached : List (Session.Label × Thing)
  /-- The servers that were not let go of yet. -/
  servers : List ServerHandle

namespace Session

/-- A session in a fresh directory, on a host where `own` is who all processes are. -/
def start (home : Path) (own : PeerCredentials) : Session :=
  let files := (FileTree.bare.makeDirectories home).2
  ⟨.initial { Host.bare with files } own, FileTree.namesOf home, [], [], []⟩

/-- The thing of a label. -/
def thing? (session : Session) (label : Label) : Option Thing := Keyed.get? session.things label

/-- The pool of a label. -/
def pool? (session : Session) (label : Label) : Option Nat :=
  match session.thing? label with
  | some (.pool number) => some number
  | _ => none

/-- The assigner of a label. -/
def assigner? (session : Session) (label : Label) : Option Nat :=
  match session.thing? label with
  | some (.assigner number) | some (.found number) => some number
  | _ => none

/-- The naming of a label. -/
def naming? (session : Session) (label : Label) : Option Naming :=
  match session.thing? label with
  | some (.naming naming) => some naming
  | _ => none

/-- The transport of a label. -/
def transport? (session : Session) (label : Label) : Option Transport :=
  match session.thing? label with
  | some (.transport transport) => some transport
  | _ => none

/-- The coordinator of a label. -/
def coordinator? (session : Session) (label : Label) : Option Nat :=
  match session.thing? label with
  | some (.coordinator number) => some number
  | _ => none

/-- The factory of a label, with its state. -/
def factory? (session : Session) (label : Label) : Option (Nat × Factory) :=
  match session.thing? label with
  | some (.factory number) => (session.mux.factories.get? number).map fun state => (number, state)
  | _ => none

/-- The server of a label. -/
def server? (session : Session) (label : Label) : Option ServerHandle :=
  match session.thing? label with
  | some (.server server) => some server
  | _ => none

/-- The stream of a label. -/
def stream? (session : Session) (label : Label) : Option StreamHandle :=
  match session.thing? label with
  | some (.stream stream) => some stream
  | _ => none

/-- The authority of a label. -/
def authority? (session : Session) (label : Label) : Option Nat :=
  match session.thing? label with
  | some (.authority number) => some number
  | _ => none

/-- The connection of a stream and the side of it. -/
def terminal? (session : Session) : StreamHandle → Option (Nat × Side)
  | .client number _ =>
    (session.mux.clients.get? number).map fun client => (client.connection, .caller)
  | .terminal connection side _ => some (connection, side)

/-- Let go of a stream. -/
def dropStream (session : Session) (stream : StreamHandle) : Session :=
  let mux := session.mux
  match stream with
  | .client number _ => { session with mux := mux.dropClient number }
  | .terminal connection side _ =>
    { session with mux := { mux with host := mux.host.release connection side } }

/-- Whether a thing is a background task that has not ended. -/
def isRunning (session : Session) : Thing → Bool
  | .accepting pending _ => session.mux.host.accepts.get? pending == some .waiting
  | .reading _ _ outcome => outcome.isNone
  | _ => false

/-- Whether a thing holds a server. -/
def holdsServer (session : Session) (server : ServerHandle) : Thing → Bool
  | .server held => held == server
  | .accepting pending held => held == server && session.isRunning (.accepting pending held)
  | _ => false

/-- Let go of a server. -/
def dropServer (mux : Multiplexer) (hasTasks : Bool) : ServerHandle → Multiplexer
  | .made (.multiplexed listener) => mux.dropListener listener hasTasks
  | .made (.conventional port) => { mux with host := mux.host.freeNetworkPort port }
  | .bound socket => { mux with host := mux.host.closeSocket socket }

/-- Let go of all servers that nothing holds. -/
def dropServers (session : Session) (hasTasks : Bool) : Session :=
  let (kept, left) := session.servers.partition fun server =>
    (session.things ++ session.detached).any fun entry => session.holdsServer server entry.2
  { session with
    mux := left.foldl (fun mux server => dropServer mux hasTasks server) session.mux
    servers := kept }

/-- Let go of what a thing stands for. Servers are let go of separately, and a factory
only with its last label. -/
def release (session : Session) : Thing → Session
  | .factory number =>
    let shared := session.things.any fun entry => match entry.2 with
      | .factory other => other == number
      | _ => false
    if shared then session else { session with mux := session.mux.dropFactory number }
  | .stream stream => session.dropStream stream
  | .authority number => { session with mux := session.mux.dropAuthority number }
  | .accepting pending server =>
    match session.mux.host.accepts.get? pending with
    | some (.accepted connection) => session.dropStream (server.accepted connection)
    | _ => session
  | _ => session

/-- Part with a thing that has lost its label. A background task that has not ended goes
on without one. -/
def dropThing (session : Session) (label : Label) (thing : Thing) : Session :=
  if session.isRunning thing then { session with detached := (label, thing) :: session.detached }
  else session.release thing

/-- Forget a label. -/
def forget (session : Session) (label : Label) : Session :=
  { session with things := Keyed.erase session.things label }

/-- Give a label to a thing. What had it before is let go of. -/
def name (session : Session) (label : Label) (thing : Thing) : Session :=
  let earlier := session.thing? label
  let session := { session with things := Keyed.insert session.things label thing }
  match earlier with
  | some earlier => session.dropThing label earlier
  | none => session

/-- Read for a background read that is not done yet. -/
def readFor (session : Session) : Thing → Thing × Session
  | .reading stream limit none =>
    match session.terminal? stream with
    | none => (.reading stream limit (some .ended), session)
    | some (connection, side) =>
      match session.mux.host.read connection side limit with
      | (.pending, _) => (.reading stream limit none, session)
      | (outcome, host) =>
        (.reading stream limit (some outcome),
          { session with mux := { session.mux with host } }.dropStream stream)
  | thing => (thing, session)

/-- Read for all background reads among things in turn. -/
def readAll (session : Session) : List (Label × Thing) → List (Label × Thing) × Session
  | [] => ([], session)
  | (label, thing) :: others =>
    let (thing, session) := session.readFor thing
    let (others, session) := readAll session others
    ((label, thing) :: others, session)

/-- Let go of what detached tasks have ended with. -/
def dropEnded (session : Session) : Session :=
  let (running, ended) := session.detached.partition fun entry => session.isRunning entry.2
  ended.foldl (fun session entry => session.release entry.2) { session with detached := running }

/-- The number of things that may still end by themselves. -/
def unfinished (session : Session) : Nat :=
  let running := (session.things ++ session.detached).filter fun entry =>
    session.isRunning entry.2
  session.servers.length + running.length

/-- Let every background task run once. -/
def settleOnce (session : Session) : Session :=
  let session := { session with mux := session.mux.settle }
  let session := session.dropEnded.dropServers true
  let (things, session) := session.readAll session.things
  let (detached, session) := session.readAll session.detached
  { session with things, detached }

/-- Let the background tasks run until nothing ends any more. -/
def settleWithin (session : Session) : Nat → Session
  | 0 => session
  | rounds + 1 =>
    let next := session.settleOnce
    if next.unfinished = session.unfinished then next else settleWithin next rounds

/-- Let the background tasks run until they are idle. Each round but the last ends
something. -/
def settle (session : Session) : Session := session.settleWithin (session.unfinished + 1)

end Session

end SocketMux
