import SocketMux.Config
import SocketMux.Conventional
import SocketMux.Naming
import SocketMux.Record

/-!
# Factory profiles

What a factory is before it makes any endpoint: its layout, its registry port and the
hosts of conventional sockets. Factories of one directory count as equal. A profile
can be written to a record and restored from it.
-/

namespace SocketMux

/-- The fixed properties of a factory. -/
structure FactoryProfile where
  layout : SocketLayout
  registryPort : Port
  clientHost : Option String
  serverHost : Option String
deriving DecidableEq, Repr

namespace FactoryProfile

/-- The profile of a directory and the registry port of its naming. -/
def make (registryPort : Port) (directory : Path) (namePrefix nameSuffix : String)
    (clientHost serverHost : Option String) : Except MuxError FactoryProfile :=
  (SocketLayout.make directory namePrefix nameSuffix registryPort).map fun layout =>
    ⟨layout, registryPort, clientHost, serverHost⟩

/-- The naming and the profile of a configuration. The authority is found at the
registry port's file, and one host serves low ports on both sides. -/
def ofConfig (config : MuxConfig) : Except MuxError (Naming × FactoryProfile) := do
  let layout ← config.layout
  let profile ← make config.registryPort config.directory config.namePrefix config.nameSuffix
    config.conventionalHost config.conventionalHost
  return (Naming.ofLayout layout config.registryPort, profile)

/-- The socket file of a port. -/
def fileFor (profile : FactoryProfile) (port : Port) : Path := profile.layout.fileFor port

/-- The record of a profile, which holds the absolute directory. -/
def record (profile : FactoryProfile) (working : Path) : FactoryRecord :=
  ⟨Path.absolute working profile.layout.directory, profile.registryPort, profile.clientHost,
    profile.serverHost, profile.layout.namePrefix, profile.layout.nameSuffix⟩

/-- The bytes of a profile's record. -/
def encode (profile : FactoryProfile) (working : Path) : Except MuxError (List UInt8) :=
  (profile.record working).encode

/-- The naming and the profile that a record restores. The record is read first, the
naming is looked up next and the layout is checked last. -/
def restore {α : Type} (bytes : List UInt8) (resolve : Path → Port → Except MuxError α)
    (registryPort : α → Port) : Except MuxError (α × FactoryProfile) := do
  let record ← FactoryRecord.decode bytes
  let naming ← resolve record.directory record.registryPort
  let profile ← make (registryPort naming) record.directory record.namePrefix record.nameSuffix
    record.clientHost record.serverHost
  return (naming, profile)

/-- Whether two profiles count as equal: their directories have the same components. -/
def sameDirectory (left right : FactoryProfile) : Bool :=
  left.layout.directory.components == right.layout.directory.components

/-- What a hash of a profile covers: the names on its directory's path. -/
def hashed (profile : FactoryProfile) : List Path.Component := profile.layout.directory.names

/-- A profile as text. -/
def display (profile : FactoryProfile) : String :=
  s!"MuxSocketFactory[{profile.layout.display}]"

/-- The label of a factory in shutdown reports. -/
def label (profile : FactoryProfile) : String := s!"afmux:{profile.layout.directory.display}"

end FactoryProfile

end SocketMux
