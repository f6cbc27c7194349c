import SocketMux.Cluster.Uri
import SocketMux.Local.Address

/-!
# Address families

The two families are gathered in one address type. A registry is a list of families
without repetition; it chooses the reader of a URI by the scheme and the reader of a
descriptor by the family's name.
-/

namespace SocketMux

/-- The address families. -/
inductive Family where
  | local
  | cluster
deriving DecidableEq, Repr

/-- An address of any family. -/
inductive SocketAddress where
  | local (address : LocalAddress)
  | cluster (address : ClusterAddress)
deriving DecidableEq, Repr, Hashable

namespace SocketAddress

/-- The family of an address. -/
def family : SocketAddress → Family
  | .local _ => .local
  | .cluster _ => .cluster

/-- The port of an address. -/
def port : SocketAddress → Port
  | .local address => address.port
  | .cluster address => address.port

/-- The descriptor of an address. -/
def descriptor : SocketAddress → List UInt8
  | .local address => address.bytes
  | .cluster address => address.descriptor

/-- The same address with another port. -/
def withPort (address : SocketAddress) (port : Port) : Except AddressError SocketAddress :=
  match address with
  | .local address => (address.withPort port).map .local
  | .cluster address => (address.withPort port).map .cluster

/-- Whether the address is a path in the file system. -/
def hasFile : SocketAddress → Bool
  | .local address => address.hasFile
  | .cluster _ => false

/-- The path of the address. -/
def file : SocketAddress → Except AddressError (List UInt8)
  | .local address => address.file
  | .cluster _ => .error (.noFilename .clusterAddress)

/-- The URI of an address under a scheme of its family. -/
def uri (address : SocketAddress) (scheme : String) : Except AddressError String :=
  match address with
  | .local address => address.uri scheme
  | .cluster address => address.uri scheme

/-- An address as text. -/
def display : SocketAddress → String
  | .local address => address.display
  | .cluster address => address.display

end SocketAddress

namespace Family

/-- The name of a family, which is also its label in a wrapped host. -/
def name : Family → String
  | .local => LocalAddress.family
  | .cluster => Cluster.family

/-- The schemes of a family. -/
def schemes : Family → List String
  | .local => LocalAddress.schemes
  | .cluster => Cluster.schemes

/-- The address of a descriptor of the family. -/
def ofDescriptor (family : Family) (bytes : List UInt8) (port : Port) :
    Except AddressError SocketAddress :=
  match family with
  | .local => (LocalAddress.ofBytes bytes port).map .local
  | .cluster => (ClusterAddress.ofDescriptor bytes port).map .cluster

/-- The address that a URI of the family denotes; a given port replaces its own. -/
def ofUri (family : Family) (text : String) (replacement : Option Port) :
    Except AddressError SocketAddress :=
  match family with
  | .local => (LocalAddress.ofUri text replacement).map .local
  | .cluster => (ClusterAddress.ofUri text replacement).map .cluster

end Family

/-- Families in the order of their registration. -/
structure FamilyRegistry where
  families : List Family
deriving DecidableEq, Repr

namespace FamilyRegistry

/-- The registry of no family. -/
def empty : FamilyRegistry := ⟨[]⟩

/-- Register a family; a family that is there already stays where it is. -/
def register (registry : FamilyRegistry) (family : Family) : FamilyRegistry :=
  if family ∈ registry.families then registry else ⟨registry.families ++ [family]⟩

/-- The registry of both families. -/
def standard : FamilyRegistry := (empty.register .local).register .cluster

/-- The registered family of a name. -/
def byName? (registry : FamilyRegistry) (name : String) : Option Family :=
  registry.families.find? fun family => family.name == name

/-- The registered family of a scheme. -/
def byScheme? (registry : FamilyRegistry) (scheme : String) : Option Family :=
  registry.families.find? fun family => family.schemes.contains scheme

/-- The address that a URI denotes in the family of its scheme; a given port replaces
the one in the URI. -/
def ofUri (registry : FamilyRegistry) (text : String) (replacement : Option Port) :
    Except AddressError SocketAddress :=
  match Uri.schemeOf? text.toList with
  | none => .error (.malformedUri "socket" text .missingScheme)
  | some scheme =>
    match registry.byScheme? (String.ofList scheme) with
    | none => .error (.unsupportedScheme (String.ofList scheme))
    | some family => family.ofUri text replacement

end FamilyRegistry

end SocketMux
