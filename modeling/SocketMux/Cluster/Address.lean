import SocketMux.Cluster.Descriptor

/-!
# Cluster addresses

An address keeps its descriptor together with the values it was made from, and a
port that the descriptor does not hold.
-/

namespace SocketMux

/-- An address of the cluster family. -/
structure ClusterAddress where
  descriptor : List UInt8
  fields : Cluster.Fields
  port : Port
deriving DecidableEq, Repr, Hashable

namespace ClusterAddress

open Cluster

/-- The service type of the topology service. -/
def topologyService : UInt32 := 1

/-- The address of five values. -/
def ofFields (fields : Fields) (port : Port) : ClusterAddress :=
  ⟨fields.encode, fields, port⟩

/-- A service, named by type and instance within a domain. -/
def ofService (scope : Scope) (serviceType serviceInstance domain : UInt32) : ClusterAddress :=
  ofFields ⟨.service, scope, serviceType, serviceInstance, domain⟩ 0

/-- A range of service instances. -/
def ofServiceRange (scope : Scope) (serviceType least most : UInt32) : ClusterAddress :=
  ofFields ⟨.serviceRange, scope, serviceType, least, most⟩ 0

/-- One socket, named by reference and node. -/
def ofSocket (reference node : UInt32) : ClusterAddress :=
  ofFields ⟨.socket, .notSpecified, reference, node, 0⟩ 0

/-- The topology service of the own node. -/
def ofTopologyService : ClusterAddress :=
  ofFields ⟨.service, .notSpecified, topologyService, topologyService, 0⟩ 0

/-- The address of a descriptor. The descriptor is checked before the port. -/
def ofDescriptor (descriptor : List UInt8) (port : Port) : Except AddressError ClusterAddress := do
  let fields ← Fields.decode descriptor
  let port ← port.checked
  return ⟨descriptor, fields, port⟩

/-- The same address with another port. -/
def withPort (address : ClusterAddress) (port : Port) : Except AddressError ClusterAddress := do
  let port ← port.checked
  return { address with port }

/-- The type of a service or service range. -/
def serviceType (address : ClusterAddress) : UInt32 := address.fields.a

/-- The instance of a service. -/
def serviceInstance (address : ClusterAddress) : UInt32 := address.fields.b

/-- The domain of a service. -/
def domain (address : ClusterAddress) : UInt32 := address.fields.c

/-- The least instance of a service range. -/
def least (address : ClusterAddress) : UInt32 := address.fields.b

/-- The greatest instance of a service range. -/
def most (address : ClusterAddress) : UInt32 := address.fields.c

/-- The reference of a socket. -/
def reference (address : ClusterAddress) : UInt32 := address.fields.a

/-- The node of a socket. -/
def node (address : ClusterAddress) : UInt32 := address.fields.b

/-- An address as text; a port of zero is left out. -/
def display (address : ClusterAddress) : String :=
  let shown := address.fields.describe
  if address.port = 0 then s!"TipcSocketAddress[{shown}]"
  else s!"TipcSocketAddress[port={address.port};{shown}]"

end ClusterAddress

end SocketMux
