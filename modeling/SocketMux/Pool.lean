import SocketMux.Error

/-!
# Port pools

A pool hands out ports in ascending order, starting over after the greatest one. A port
that was just returned is not handed out again before the others had their turn. A
closed pool serves nothing any more.
-/

namespace SocketMux

/-- A pool of ports. -/
structure PortPool where
  /-- The ports in use, in descending order. -/
  held : List Port
  /-- Where the search for a free port starts. -/
  next : Port
  closed : Bool
deriving DecidableEq, Repr

namespace PortPool

/-- The pool of which no port is in use. -/
def initial : PortPool := ⟨[], Port.anonymousBase, false⟩

/-- The greatest port. -/
def last : Port := 2147483647

/-- The number of ports that a pool can hand out. -/
def capacity : Nat := 0x80000000 - 110000

/-- The port after a port, starting over after the greatest one. -/
def successor (port : Port) : Port :=
  if port = last then Port.anonymousBase else port + 1

/-- Whether a port is in a descending list. -/
def holds (port : Port) : List Port → Bool
  | [] => false
  | first :: rest => if port < first then holds port rest else port == first

/-- Put a port into a descending list that does not hold it. -/
def insertHeld (port : Port) : List Port → List Port
  | [] => [port]
  | first :: rest =>
    if port < first then first :: insertHeld port rest else port :: first :: rest

/-- The first port from a start on that is not in use; `bound` limits the search. -/
def search (held : List Port) (bound : Nat) (start : Port) : Port :=
  match bound with
  | 0 => start
  | bound + 1 => if holds start held then search held bound (successor start) else start

/-- Hand out a port. At most as many ports as are in use can be passed over. -/
def allocate (pool : PortPool) : Except MuxError (Port × PortPool) :=
  if pool.closed then .error (.unavailable .poolClosed)
  else if capacity ≤ pool.held.length then .error (.unavailable .poolExhausted)
  else
    let port := search pool.held pool.held.length pool.next
    .ok (port, { pool with held := insertHeld port pool.held, next := successor port })

/-- Hand out a number of ports in turn; a failure changes nothing and the next one is
tried all the same. -/
def allocateMany (pool : PortPool) : Nat → List (Except MuxError Port) × PortPool
  | 0 => ([], pool)
  | count + 1 =>
    match pool.allocate with
    | .ok (port, pool) =>
      let (outcomes, pool) := allocateMany pool count
      (.ok port :: outcomes, pool)
    | .error err =>
      let (outcomes, pool) := allocateMany pool count
      (.error err :: outcomes, pool)

/-- Take a port back, and tell whether it was in use. -/
def release (pool : PortPool) (port : Port) : Except MuxError (Bool × PortPool) :=
  if pool.closed then .error (.unavailable .poolClosed)
  else .ok (holds port pool.held, { pool with held := pool.held.erase port })

/-- The ports in use, in ascending order. -/
def snapshot (pool : PortPool) : Except MuxError (List Port) :=
  if pool.closed then .error (.unavailable .poolClosed) else .ok pool.held.reverse

/-- Close the pool. -/
def close (pool : PortPool) : PortPool := { pool with held := [], closed := true }

end PortPool

end SocketMux
