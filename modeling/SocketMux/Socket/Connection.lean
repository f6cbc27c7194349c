import SocketMux.Fault

/-!
# Connections

A connection joins two terminals. What one of them writes waits at the other until it
is read. A terminal may end its writing or all of its traffic; the other one then reads
what is left and finds the end. A terminal that is let go of with unread bytes resets
the other one, which notices that once.
-/

namespace SocketMux

/-- One terminal of a connection. -/
structure Terminal where
  unread : List UInt8
  readEnded : Bool
  writeEnded : Bool
  /-- Whether a reset has not been noticed yet. -/
  reset : Bool
deriving DecidableEq, Repr

namespace Terminal

/-- A terminal of a fresh connection. -/
def fresh : Terminal := ⟨[], false, false, false⟩

/-- End all traffic. -/
def ended (terminal : Terminal) : Terminal :=
  { terminal with readEnded := true, writeEnded := true }

end Terminal

/-- The two terminals: the one that connected and the one that was accepted. -/
inductive Side where
  | caller
  | callee
deriving DecidableEq, Repr

/-- The other terminal. -/
def Side.other : Side → Side
  | caller => callee
  | callee => caller

/-- What a read finds. -/
inductive ReadOutcome where
  | data (bytes : List UInt8)
  | ended
  /-- Nothing yet. -/
  | pending
  | failed (fault : Fault)
deriving DecidableEq, Repr

/-- A pair of terminals. -/
structure Connection where
  caller : Terminal
  callee : Terminal
deriving DecidableEq, Repr

namespace Connection

/-- A connection that was just made. -/
def fresh : Connection := ⟨.fresh, .fresh⟩

/-- The terminal of a side. -/
def terminal (connection : Connection) : Side → Terminal
  | .caller => connection.caller
  | .callee => connection.callee

/-- Change the terminal of a side. -/
def modify (connection : Connection) (side : Side) (change : Terminal → Terminal) : Connection :=
  match side with
  | .caller => { connection with caller := change connection.caller }
  | .callee => { connection with callee := change connection.callee }

@[simp]
theorem terminal_modify_self (connection : Connection) (side : Side) (change : Terminal → Terminal) :
    (connection.modify side change).terminal side = change (connection.terminal side) := by
  cases side <;> rfl

@[simp]
theorem terminal_modify_other (connection : Connection) (side : Side)
    (change : Terminal → Terminal) :
    (connection.modify side change).terminal side.other = connection.terminal side.other := by
  cases side <;> rfl

/-- Read at most `limit` bytes: first what is waiting, then a reset, then the end. A read
of no bytes leaves all of it for later. -/
def read (connection : Connection) (side : Side) (limit : Nat) : ReadOutcome × Connection :=
  let own := connection.terminal side
  if own.unread ≠ [] then
    (.data (own.unread.take limit),
      connection.modify side fun own => { own with unread := own.unread.drop limit })
  else if own.reset ∧ limit ≠ 0 then
    (.failed (.system Errno.reset), connection.modify side fun own => { own with reset := false })
  else if own.readEnded then (.ended, connection)
  else (.pending, connection)

/-- Send bytes in one go. Once the writing has ended this fails even for no bytes. -/
def send (connection : Connection) (side : Side) (bytes : List UInt8) :
    Except Fault Unit × Connection :=
  if (connection.terminal side).writeEnded then
    (.error (.system Errno.brokenPipe), connection)
  else
    (.ok (), connection.modify side.other fun peer => { peer with unread := peer.unread ++ bytes })

/-- Write bytes. Writing nothing always succeeds, as nothing is sent. -/
def write (connection : Connection) (side : Side) (bytes : List UInt8) :
    Except Fault Unit × Connection :=
  if bytes = [] then (.ok (), connection) else connection.send side bytes

/-- End the writing of a side. -/
def endWriting (connection : Connection) (side : Side) : Connection :=
  (connection.modify side fun own => { own with writeEnded := true }).modify side.other
    fun peer => { peer with readEnded := true }

/-- End all traffic of both sides. What is waiting can still be read. -/
def endAll (connection : Connection) : Connection :=
  ⟨connection.caller.ended, connection.callee.ended⟩

@[simp]
theorem terminal_endAll (connection : Connection) (side : Side) :
    connection.endAll.terminal side = (connection.terminal side).ended := by
  cases side <;> rfl

/-- Let go of a terminal. The other one is reset if bytes were left unread, or if the
terminal was never accepted. -/
def release (connection : Connection) (side : Side) (accepted : Bool) : Connection :=
  let left := (connection.terminal side).unread ≠ [] ∨ accepted = false
  let ended := connection.endAll.modify side fun own => { own with unread := [] }
  if left then ended.modify side.other fun peer => { peer with reset := true } else ended

end Connection

end SocketMux
