import SocketMux.Error

/-!
# Socket layouts

A layout maps every port to a socket file. Normally the file of port `p` stands in the
socket directory under a name made of a fixed beginning, the decimal port and a fixed
ending. In plain-file mode the directory's own path is the only socket file.
-/

namespace SocketMux

/-- A mapping from ports to socket files. -/
structure SocketLayout where
  directory : Path
  namePrefix : String
  nameSuffix : String
  plainFile : Bool
deriving DecidableEq, Repr

namespace SocketLayout

/-- The beginning of file names that a configuration uses when it gives none. -/
def defaultPrefix : String := ""

/-- The ending of file names that a configuration uses when it gives none. -/
def defaultSuffix : String := ".rmi"

/-- Whether a text can be part of a file name: it holds neither a separator nor a zero
byte. -/
def isNamePart (text : String) : Bool :=
  text.toList.all fun c => c != '/' && c != Char.ofNat 0

/-- Build a layout. An empty directory is reported first, then the beginning and then
the ending of file names. -/
def make (directory : Path) (namePrefix nameSuffix : String) (registryPort : Port) :
    Except MuxError SocketLayout :=
  if directory = [] then .error (.invalidConfig .emptyDirectory)
  else if isNamePart namePrefix = false then
    .error (.invalidConfig (.notNamePart "prefix" namePrefix))
  else if isNamePart nameSuffix = false then
    .error (.invalidConfig (.notNamePart "suffix" nameSuffix))
  else .ok ⟨directory, namePrefix, nameSuffix, registryPort == Port.plainFile⟩

/-- The file name of a port. -/
def fileName (layout : SocketLayout) (port : Port) : List UInt8 :=
  Text.Utf8.bytesOf layout.namePrefix ++ Text.Utf8.encode (Text.Numeral.signed port) ++
    Text.Utf8.bytesOf layout.nameSuffix

/-- The socket file of a port. -/
def fileFor (layout : SocketLayout) (port : Port) : Path :=
  if layout.plainFile then layout.directory else layout.directory.join (layout.fileName port)

/-- A layout as text. -/
def display (layout : SocketLayout) : String :=
  if layout.plainFile then s!"path={layout.directory.display}"
  else s!"path={layout.directory.display};prefix={layout.namePrefix};suffix={layout.nameSuffix}"

end SocketLayout

end SocketMux
