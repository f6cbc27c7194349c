import SocketMux.Multiplexer.Assign

/-!
# Closing endpoints

A listener is closed once, in four steps: its socket stops listening, the socket file
that it made is removed, its registration is dropped and an anonymous port goes back to
its assigner. A file that has taken the place of its own is kept. A listener that is
let go of without being closed takes the same steps, but nobody sees the errors and the
port is left to a background task.

An accept that waits holds the socket of its listener until it is polled again. If the port
of a listener goes back through that very socket, the request is queued there and then reset.

Closing a client ends the traffic on its connection and drops its registration.
-/

namespace SocketMux.Multiplexer

/-- Remove the socket file that a listener made. -/
def removeOwnFile (mux : Multiplexer) (listener : MuxListener) :
    Except Fault Unit × Multiplexer :=
  match listener.fileNumber with
  | none => (.ok (), mux)
  | some number =>
    match mux.host.removeNumbered listener.file number with
    | .ok host => (.ok (), { mux with host })
    | .error fault => (.error fault, mux)

/-- Drop the registration of a listener at its factory. -/
def unregister (mux : Multiplexer) (number : Nat) (listener : MuxListener) : Multiplexer :=
  if listener.registered then
    mux.modifyFactory listener.factory fun factory =>
      factory.unregisterServer listener.port number
  else mux

/-- Mark a listener as closed and close its socket. -/
def shutListener (mux : Multiplexer) (number : Nat) (listener : MuxListener) : Multiplexer :=
  { mux with
    listeners := mux.listeners.modify number fun listener => { listener with isClosed := true }
    host := mux.host.closeSocket listener.socket }

/-- The error of an outcome, as a list. -/
def errorOf {α ε : Type} (outcome : Except ε α) : List ε :=
  match outcome with
  | .ok _ => []
  | .error err => [err]

/-- Give an anonymous port back. -/
def giveBack (mux : Multiplexer) (listener : MuxListener) : Except MuxError Unit × Multiplexer :=
  match listener.assigner with
  | none => (.ok (), mux)
  | some assigner => mux.returnPort assigner listener.port

/-- Whether the port of a listener goes back through the listener's own socket while an accept
still holds it, as there was no file to remove first. -/
def returnsToItself (mux : Multiplexer) (listener : MuxListener) : Bool :=
  listener.fileNumber.isNone &&
    (mux.host.sockets.get? listener.socket).any (fun socket => !socket.waiting.isEmpty) &&
    match listener.assigner.bind mux.assigners.get? with
    | some (.remote path) => (mux.host.reach path).toOption == some listener.socket
    | _ => false

/-- Give the port of a listener back as the listener closes. A request to the listener's own
socket is never answered. -/
def giveBackAtClose (mux : Multiplexer) (toItself : Bool) (listener : MuxListener) :
    Except MuxError Unit × Multiplexer :=
  let (returned, mux) := mux.giveBack listener
  (if toItself then .error (.fault .authority (.system Errno.reset)) else returned, mux)

/-- Close a listener. A listener that is closed already stays as it is. -/
def closeListener (mux : Multiplexer) (number : Nat) : Except MuxError Unit × Multiplexer :=
  match mux.listeners.get? number with
  | none => (.ok (), mux)
  | some listener =>
    if listener.isClosed then (.ok (), mux)
    else
      let toItself := mux.returnsToItself listener
      let (removed, mux) := (mux.shutListener number listener).removeOwnFile listener
      let (returned, mux) := (mux.unregister number listener).giveBackAtClose toItself listener
      (MuxError.aggregate ((errorOf removed).map (.fault .removeFile) ++ errorOf returned), mux)

/-- Let go of a listener. Only with background tasks at hand is its port given back. -/
def dropListener (mux : Multiplexer) (number : Nat) (hasTasks : Bool) : Multiplexer :=
  match mux.listeners.get? number with
  | none => mux
  | some listener =>
    if listener.isClosed then mux
    else
      let (_, mux) := (mux.shutListener number listener).removeOwnFile listener
      let mux := mux.unregister number listener
      match listener.assigner with
      | some assigner =>
        if hasTasks then { mux with due := mux.due ++ [(assigner, listener.port)] } else mux
      | none => mux

/-- Accept a connection on a listener, if one waits. -/
def acceptOn (mux : Multiplexer) (number : Nat) : Except MuxError (Option Nat) × Multiplexer :=
  match mux.listeners.get? number with
  | none => (.error .closed, mux)
  | some listener =>
    if listener.isClosed then (.error .closed, mux)
    else
      let (connection, host) := mux.host.accept listener.socket
      (.ok connection, { mux with host })

/-- Begin to accept on a listener in the background. -/
def beginAcceptOn (mux : Multiplexer) (number : Nat) : Nat × Multiplexer :=
  let begun := match mux.listeners.get? number with
    | none => mux.host.noteAccept .closed
    | some listener =>
      if listener.isClosed then mux.host.noteAccept .closed
      else mux.host.beginAccept listener.socket
  (begun.1, { mux with host := begun.2 })

/-- Close a client. A client that is closed already stays as it is. -/
def closeClient (mux : Multiplexer) (number : Nat) : Multiplexer :=
  match mux.clients.get? number with
  | none => mux
  | some client =>
    if client.isClosed then mux
    else
      let mux := { mux with
        clients := mux.clients.modify number fun client => { client with isClosed := true }
        host := mux.host.modifyConnection client.connection Connection.endAll }
      mux.modifyFactory client.factory fun factory => factory.unregisterClient number client.key

/-- Let go of a client. -/
def dropClient (mux : Multiplexer) (number : Nat) : Multiplexer :=
  let mux := mux.closeClient number
  match mux.clients.get? number with
  | none => mux
  | some client => { mux with host := mux.host.release client.connection .caller }

end SocketMux.Multiplexer
