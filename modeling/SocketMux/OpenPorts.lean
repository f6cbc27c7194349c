import SocketMux.Port

/-!
# Port listings

A listing of ports in use is ascending and does not change after it was made. The
search in it ends at the first port that is too great.
-/

namespace SocketMux

/-- An ascending listing of ports. -/
structure OpenPorts where
  ports : List Port
deriving DecidableEq, Repr

namespace OpenPorts

/-- The listing of ports given in any order. -/
def ofList (ports : List Port) : OpenPorts :=
  ⟨ports.mergeSort fun left right => decide (left ≤ right)⟩

/-- Search an ascending list. -/
def occurs (port : Port) : List Port → Bool
  | [] => false
  | first :: rest => if first < port then occurs port rest else first == port

/-- Whether a port is listed. -/
def contains (listing : OpenPorts) (port : Port) : Bool := occurs port listing.ports

/-- The number of ports listed. -/
def size (listing : OpenPorts) : Nat := listing.ports.length

end OpenPorts

end SocketMux
