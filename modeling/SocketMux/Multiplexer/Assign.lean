import SocketMux.Multiplexer.State

/-!
# Assigning ports

Ports are asked of an assigner: a pool at hand, an authority behind a socket or a
script. A request to an authority takes one connection of its own, and its answer comes
from the pool that the authority serves. Whoever else listens at the path may send back
anything, or let the connection fail; a request that is never answered does not return.
-/

namespace SocketMux.Multiplexer

open SocketMux.Authority

/-- The pool behind a socket, if an authority listens there. -/
def poolBehind? (mux : Multiplexer) (socket : Nat) : Option Nat :=
  (mux.authorities.rows.find? fun authority => authority.socket == socket).map
    AuthorityServer.pool

/-- Replace the state of a pool. -/
def setPool (mux : Multiplexer) (pool : Nat) (state : PortPool) : Multiplexer :=
  { mux with pools := mux.pools.modify pool fun _ => state }

/-- Answer the complete requests among bytes from a pool; what is incomplete is left
over. A pool that does not exist answers nothing. -/
def answerFrom (mux : Multiplexer) (pool : Nat) (bytes : List UInt8) :
    List UInt8 × List UInt8 × Multiplexer :=
  match mux.pools.get? pool with
  | none => ([], bytes, mux)
  | some state =>
    let (replies, state, left) := answerAll state bytes
    (replies, left, mux.setPool pool state)

/-- Serve a request from a pool at hand. -/
def serveFrom (mux : Multiplexer) (pool : Nat) (request : Request) :
    Except MuxError Grant × Multiplexer :=
  match mux.pools.get? pool with
  | none => (.error (.unavailable .poolClosed), mux)
  | some state =>
    match request.serve state with
    | .ok (grant, state) => (.ok grant, mux.setPool pool state)
    | .error err => (.error err, mux)

/-- The error of a request whose connection fails. A missing or unserved socket is an
outage. -/
def connectError (path : Path) (fault : Fault) : MuxError :=
  if fault.kind = .notFound ∨ fault.kind = .connectionRefused then
    .unavailable (.unreachable path fault)
  else .fault .authority fault

/-- What comes of a request to somebody who listens at a path and is no authority. -/
def askStranger (mux : Multiplexer) (path : Path) (request : Request) : Except MuxError Grant :=
  match mux.strangers path request with
  | .error fault => .error (.fault .authority fault)
  | .ok reply => (request.readReply reply).map Prod.fst

/-- Make a request to the authority at a path. -/
def exchange (mux : Multiplexer) (path : Path) (request : Request) :
    Except MuxError Grant × Multiplexer :=
  match mux.host.reach path with
  | .error fault => (.error (connectError path fault), mux)
  | .ok socket =>
    match mux.poolBehind? socket with
    | none => (mux.askStranger path request, mux)
    | some pool =>
      let (reply, _, mux) := mux.answerFrom pool request.encode
      ((request.readReply reply).map Prod.fst, mux)

/-- What a script answers, and the ports that it has left. -/
def followScript (ports : List Port) (refusal : Port → Option MuxError) :
    Request → Except MuxError Grant × List Port
  | .newPort =>
    match ports with
    | [] => (.error (.unavailable (.stated "script exhausted")), [])
    | port :: ports => (.ok (.port port), ports)
  | .returnPort port =>
    match refusal port with
    | some err => (.error err, ports)
    | none => (.ok .done, ports)
  | .openPorts => (.error (.unsupported "enumeration"), ports)

/-- Make a request of an assigner. -/
def ask (mux : Multiplexer) (assigner : Nat) (request : Request) :
    Except MuxError Grant × Multiplexer :=
  match mux.assigners.get? assigner with
  | none => (.error .closed, mux)
  | some (.pooled pool) => mux.serveFrom pool request
  | some (.remote path) => mux.exchange path request
  | some (.scripted ports refusal) =>
    let (answer, ports) := followScript ports refusal request
    (answer, { mux with
      assigners := mux.assigners.modify assigner fun _ => .scripted ports refusal })

/-- Ask an assigner for a port. -/
def newPort (mux : Multiplexer) (assigner : Nat) : Except MuxError Port × Multiplexer :=
  match mux.ask assigner .newPort with
  | (.ok (.port port), mux) => (.ok port, mux)
  | (.ok _, mux) => (.error endOfReply, mux)
  | (.error err, mux) => (.error err, mux)

/-- Give a port back to an assigner. -/
def returnPort (mux : Multiplexer) (assigner : Nat) (port : Port) :
    Except MuxError Unit × Multiplexer :=
  let (answer, mux) := mux.ask assigner (.returnPort port)
  (answer.map fun _ => (), { mux with returned := (assigner, port) :: mux.returned })

/-- Ask an assigner for the ports in use. -/
def openPorts (mux : Multiplexer) (assigner : Nat) : Except MuxError OpenPorts × Multiplexer :=
  match mux.ask assigner .openPorts with
  | (.ok (.listing listed), mux) => (.ok listed, mux)
  | (.ok _, mux) => (.error endOfReply, mux)
  | (.error err, mux) => (.error err, mux)

/-- Look up the assigner of a naming. One behind a socket is a new one each time, and
its socket file has to be there. -/
def lookUp (mux : Multiplexer) : Naming → Except MuxError Nat × Multiplexer
  | .direct _ assigner => (.ok assigner, mux)
  | .socket _ authority =>
    match mux.host.files.leadsToFile authority with
    | .error fault => (.error (.unavailable (.unreachable authority fault)), mux)
    | .ok false => (.error (.unavailable (.noAuthority authority)), mux)
    | .ok true =>
      let (assigner, assigners) := mux.assigners.add (.remote authority)
      (.ok assigner, { mux with assigners })

/-- The assigner of a factory, which is looked up once until the factory closes. -/
def assignerOf (mux : Multiplexer) (factory : Nat) : Except MuxError Nat × Multiplexer :=
  match mux.factories.get? factory with
  | none => (.error .closed, mux)
  | some state =>
    match state.authority with
    | some assigner => (.ok assigner, mux)
    | none =>
      match mux.lookUp state.naming with
      | (.error err, mux) => (.error err, mux)
      | (.ok assigner, mux) =>
        (.ok assigner,
          mux.modifyFactory factory fun state => { state with authority := some assigner })

end SocketMux.Multiplexer
