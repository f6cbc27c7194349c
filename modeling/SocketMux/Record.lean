import SocketMux.Error
import SocketMux.Wire.Word

/-!
# Factory records

A record tells another process how to reach the sockets of a directory. Its form is a
version byte, the directory, the registry port, the two hosts of conventional sockets
and the two parts of file names. Texts carry a length of two bytes in front.
-/

namespace SocketMux

/-- What a record holds. -/
structure FactoryRecord where
  directory : Path
  registryPort : Port
  clientHost : Option String
  serverHost : Option String
  namePrefix : String
  nameSuffix : String
deriving DecidableEq, Repr

namespace FactoryRecord

open SocketMux.Text

/-- The version of the form. -/
def version : UInt8 := 1

/-- The greatest length of a text in bytes. -/
def maxTextLength : Nat := 65535

/-- The form of a text given by its bytes. -/
def putText (bytes : List UInt8) : Except RecordFlaw (List UInt8) :=
  if bytes.length ≤ maxTextLength then .ok (Wire.word16 bytes.length ++ bytes)
  else .error (.textTooLong bytes.length)

/-- The form of a host that may be missing: a tag, then the host if there is one. -/
def putHost : Option String → Except RecordFlaw (List UInt8)
  | none => .ok [0]
  | some host => (putText (Utf8.bytesOf host)).map ([1] ++ ·)

/-- The bytes of a record, or the first flaw in the order of the form. -/
def encodeBytes (record : FactoryRecord) : Except RecordFlaw (List UInt8) :=
  match Utf8.decode record.directory with
  | .error _ => .error (.directoryNotText record.directory)
  | .ok _ => do
    let directory ← putText record.directory
    let client ← putHost record.clientHost
    let server ← putHost record.serverHost
    let namePrefix ← putText (Utf8.bytesOf record.namePrefix)
    let nameSuffix ← putText (Utf8.bytesOf record.nameSuffix)
    return [version] ++ directory ++ Wire.int32 record.registryPort ++ client ++ server ++
      namePrefix ++ nameSuffix

/-- The bytes of a record. -/
def encode (record : FactoryRecord) : Except MuxError (List UInt8) :=
  record.encodeBytes.mapError .invalidRecord

/-- Take one byte from the front. -/
def takeByte : List UInt8 → Except RecordFlaw (UInt8 × List UInt8)
  | [] => .error .truncated
  | byte :: rest => .ok (byte, rest)

/-- Take a text from the front. -/
def takeText (bytes : List UInt8) : Except RecordFlaw (String × List UInt8) :=
  match Wire.takeWord16? bytes with
  | none => .error .truncated
  | some (length, rest) =>
    if rest.length < length then .error .truncated
    else match Utf8.text? (rest.take length) with
      | .error fault => .error (.notText fault)
      | .ok text => .ok (text, rest.drop length)

/-- Take a signed number from the front. -/
def takePort (bytes : List UInt8) : Except RecordFlaw (Port × List UInt8) :=
  match Wire.takeInt32? bytes with
  | none => .error .truncated
  | some taken => .ok taken

/-- Take a host that may be missing from the front. -/
def takeHost (bytes : List UInt8) : Except RecordFlaw (Option String × List UInt8) := do
  let (tag, bytes) ← takeByte bytes
  if tag = 0 then return (none, bytes)
  else if tag = 1 then
    let (host, bytes) ← takeText bytes
    return (some host, bytes)
  else .error (.unknownTag tag)

/-- Read a record from all of a byte string. -/
def decodeBytes (bytes : List UInt8) : Except RecordFlaw FactoryRecord := do
  let (given, bytes) ← takeByte bytes
  if given ≠ version then .error (.unsupportedVersion given)
  else
    let (directory, bytes) ← takeText bytes
    let (registryPort, bytes) ← takePort bytes
    let (clientHost, bytes) ← takeHost bytes
    let (serverHost, bytes) ← takeHost bytes
    let (namePrefix, bytes) ← takeText bytes
    let (nameSuffix, bytes) ← takeText bytes
    if bytes ≠ [] then .error (.trailingBytes bytes.length)
    else
      return ⟨Path.ofText directory, registryPort, clientHost, serverHost, namePrefix, nameSuffix⟩

/-- Read a record. -/
def decode (bytes : List UInt8) : Except MuxError FactoryRecord :=
  (decodeBytes bytes).mapError .invalidRecord

end FactoryRecord

end SocketMux
