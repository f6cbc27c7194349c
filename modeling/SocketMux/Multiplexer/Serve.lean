import SocketMux.Multiplexer.Close

/-!
# Port authorities

An authority listens at a socket file and serves a pool to whoever connects. It accepts
at once and answers every complete request at once, until the other side ends its
writing. Shutting it down or letting go of it stops it from accepting; connections that
it has accepted go on. Shutting it down also removes whatever file stands at its path.
-/

namespace SocketMux.Multiplexer

/-- Start an authority. A file that is in the way is removed first. -/
def startAuthority (mux : Multiplexer) (path : Path) (pool : Nat) :
    Except MuxError Nat × Multiplexer :=
  match mux.host.removeIfPresent path with
  | .error fault => (.error (.fault .bind fault), mux)
  | .ok host =>
    match host.listen path with
    | .error fault => (.error (.fault .bind fault), { mux with host })
    | .ok (socket, host) =>
      let (authority, authorities) := mux.authorities.add ⟨path, pool, socket, false⟩
      (.ok authority, { mux with host, authorities })

/-- Let go of an authority. -/
def dropAuthority (mux : Multiplexer) (number : Nat) : Multiplexer :=
  match mux.authorities.get? number with
  | none => mux
  | some authority => { mux with host := mux.host.closeSocket authority.socket }

/-- Shut an authority down, which does something once. -/
def shutDownAuthority (mux : Multiplexer) (number : Nat) : Except MuxError Unit × Multiplexer :=
  match mux.authorities.get? number with
  | none => (.ok (), mux)
  | some authority =>
    if authority.isShutDown then (.ok (), mux)
    else
      let host := mux.host.closeSocket authority.socket
      let authorities := mux.authorities.modify number fun state => { state with isShutDown := true }
      match host.removeIfPresent authority.path with
      | .ok host => (.ok (), { mux with host, authorities })
      | .error fault => (.error (.fault .removeFile fault), { mux with host, authorities })

/-- Accept what waits at an authority's socket. -/
def acceptServed (mux : Multiplexer) (authority : AuthorityServer) : Multiplexer :=
  match mux.host.sockets.get? authority.socket with
  | none => mux
  | some socket =>
    { mux with
      host := { mux.host with
        sockets := mux.host.sockets.modify authority.socket fun state =>
          { state with backlog := [] } }
      served := mux.served ++ socket.backlog.map fun connection => ⟨connection, authority.pool, []⟩ }

/-- Answer the requests on a connection. The connection is let go of once the other
side has ended its writing. -/
def serveConnection (mux : Multiplexer) (served : ServedConnection) :
    Option ServedConnection × Multiplexer :=
  match mux.host.connections.get? served.connection with
  | none => (none, mux)
  | some connection =>
    let callee := connection.callee
    let (replies, left, mux) := mux.answerFrom served.pool (served.partialRequest ++ callee.unread)
    let emptied := connection.modify .callee fun callee => { callee with unread := [] }
    let (_, answered) := emptied.write .callee replies
    if callee.reset || callee.readEnded then
      (none, { mux with host := mux.host.modifyConnection served.connection fun _ =>
        answered.release .callee true })
    else
      (some { served with partialRequest := left },
        { mux with host := mux.host.modifyConnection served.connection fun _ => answered })

/-- Answer the requests on connections in turn. The connections that go on are kept. -/
def serveConnections (mux : Multiplexer) : List ServedConnection →
    List ServedConnection × Multiplexer
  | [] => ([], mux)
  | served :: others =>
    let (kept, mux) := mux.serveConnection served
    let (others, mux) := serveConnections mux others
    (kept.toList ++ others, mux)

/-- Let all authorities accept and answer what waits for them. -/
def serveAll (mux : Multiplexer) : Multiplexer :=
  let mux := mux.authorities.rows.foldl acceptServed mux
  let (served, mux) := { mux with served := [] }.serveConnections mux.served
  { mux with served }

/-- Give back the ports that are due. What goes wrong is not reported. -/
def returnDue (mux : Multiplexer) : Multiplexer :=
  mux.due.foldl (fun mux (assigner, port) => (mux.returnPort assigner port).2)
    { mux with due := [] }

/-- Let the background tasks run: ports that are due go back, and authorities serve. -/
def settle (mux : Multiplexer) : Multiplexer := mux.returnDue.serveAll

/-- Connect to whoever listens at a path, send bytes and end the writing. -/
def beginConversation (mux : Multiplexer) (path : Path) (bytes : List UInt8) :
    Except Fault (Nat × Multiplexer) := do
  let socket ← mux.host.reach path
  let (connection, host) := mux.host.connectTo socket
  let (_, host) := host.write connection .caller bytes
  let host := host.modifyConnection connection fun state => state.endWriting .caller
  return (connection, { mux with host })

/-- All replies in a conversation, if they have come to their end. -/
def repliesIn (mux : Multiplexer) (connection : Nat) : Except Fault (Option (List UInt8)) :=
  match mux.host.connections.get? connection with
  | none => .ok (some [])
  | some state =>
    if state.caller.reset then .error (.system Errno.reset)
    else .ok (if state.caller.readEnded then some state.caller.unread else none)

/-- Let go of a conversation. -/
def endConversation (mux : Multiplexer) (connection : Nat) : Multiplexer :=
  { mux with host := mux.host.release connection .caller }

end SocketMux.Multiplexer
