import SocketMux.Address.Family

/-!
# Wrapped addresses

An address travels through interfaces that know only hosts and ports as the host
`<descriptor in hexadecimal>.<family>.junixsocket`.
-/

namespace SocketMux

/-- A host and port that may hold a wrapped address. -/
structure WrappedAddress where
  host : String
  port : Port
deriving DecidableEq, Repr

namespace WrappedAddress

open SocketMux.Text

/-- The ending of every wrapped host. -/
def hostEnding : List Char := ".junixsocket".toList

/-- Whether a host has the ending of a wrapped host. -/
def isWrappedHost (host : String) : Bool := hostEnding.isSuffixOf host.toList

/-- The host and port of an address. -/
def wrap (address : SocketAddress) : WrappedAddress :=
  ⟨String.ofList (Hex.encode address.descriptor ++ ['.'] ++ address.family.name.toList ++
    hostEnding), address.port⟩

/-- The hexadecimal descriptor and the family label of a host. -/
def splitHost (wrapped : WrappedAddress) : Except AddressError (List Char × String) :=
  let refused := AddressError.unsupportedAddress "wrapped socket address" wrapped.host
  match Cut.dropEnding? hostEnding wrapped.host.toList with
  | none => .error refused
  | some stem =>
    match Cut.last? '.' stem with
    | none => .error refused
    | some (digits, label) => .ok (digits, String.ofList label)

/-- The wrapped address, which has to be of the given family. -/
def unwrapAs (wrapped : WrappedAddress) (family : Family) : Except AddressError SocketAddress := do
  let (digits, label) ← wrapped.splitHost
  if label = family.name then
    match Hex.decode (Utf8.encode digits) with
    | .error fault => .error (.malformedUri family.name wrapped.host (.hex fault))
    | .ok bytes => family.ofDescriptor bytes wrapped.port
  else .error (.unsupportedAddress family.name label)

/-- The wrapped address, of any registered family. -/
def unwrapWith (wrapped : WrappedAddress) (registry : FamilyRegistry) :
    Except AddressError SocketAddress := do
  let (_, label) ← wrapped.splitHost
  match registry.byName? label with
  | none => .error (.unsupportedAddress "registered address family" label)
  | some family => wrapped.unwrapAs family

/-- The wrapped local address. -/
def unwrapLocal (wrapped : WrappedAddress) : Except AddressError LocalAddress := do
  match ← wrapped.unwrapAs .local with
  | .local address => .ok address
  | other => .error (.unsupportedAddress Family.local.name other.family.name)

/-- The wrapped cluster address. -/
def unwrapCluster (wrapped : WrappedAddress) : Except AddressError ClusterAddress := do
  match ← wrapped.unwrapAs .cluster with
  | .cluster address => .ok address
  | other => .error (.unsupportedAddress Family.cluster.name other.family.name)

/-- A host and port as text. -/
def display (wrapped : WrappedAddress) : String := s!"{wrapped.host}:{wrapped.port}"

end WrappedAddress

end SocketMux
