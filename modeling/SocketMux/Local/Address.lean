import SocketMux.Address.Uri
import SocketMux.Text.Percent

/-!
# Local addresses

A local address is a non-empty byte string: a path in the file system, or a name in
the abstract namespace if the first byte is zero. Three URI schemes denote such
addresses. The plain scheme covers absolute paths and carries no port; the other two
put all bytes into the host.
-/

namespace SocketMux

/-- An address of the local family. -/
structure LocalAddress where
  bytes : List UInt8
  port : Port
deriving DecidableEq, Repr, Hashable

namespace LocalAddress

open SocketMux.Text

/-- The name of the address family. -/
def family : String := "un"

/-- The schemes of the family. -/
def schemes : List String := ["unix", "http+unix", "https+unix"]

/-- The address of a byte string. Emptiness is reported before the port. -/
def ofBytes (bytes : List UInt8) (port : Port) : Except AddressError LocalAddress :=
  if bytes = [] then .error .emptyAddress
  else do
    let port ← port.checked
    return ⟨bytes, port⟩

/-- The address of a name in the abstract namespace. -/
def ofAbstractName (name : List UInt8) (port : Port) : Except AddressError LocalAddress :=
  ofBytes (0 :: name) port

/-- The same address with another port. -/
def withPort (address : LocalAddress) (port : Port) : Except AddressError LocalAddress := do
  let port ← port.checked
  return { address with port }

/-- Whether the address is a name in the abstract namespace. -/
def isAbstract (address : LocalAddress) : Bool := address.bytes.head? == some 0

/-- Whether the address is a path in the file system. -/
def hasFile (address : LocalAddress) : Bool := !address.isAbstract

/-- The path of the address. -/
def file (address : LocalAddress) : Except AddressError (List UInt8) :=
  if address.isAbstract then .error (.noFilename .abstractName) else .ok address.bytes

/-- How a byte is shown in the readable path: zero as `@`, other bytes that are not
printable as a full stop. Bytes beyond ASCII are kept in paths only. -/
def readableByte (isAbstract : Bool) (byte : UInt8) : UInt8 :=
  let code := byte.toNat
  if code = 0 then 64
  else if 32 ≤ code ∧ code ≤ 126 then byte
  else if 128 ≤ code ∧ isAbstract = false then byte
  else 46

/-- The readable path. -/
def path (address : LocalAddress) : String :=
  Utf8.textLossy (address.bytes.map (readableByte address.isAbstract))

/-- How a byte is shown in an address's text: printable ASCII as itself, others by two
hexadecimal digits. -/
def displayByte (byte : UInt8) : List Char :=
  if 32 ≤ byte.toNat ∧ byte.toNat < 127 then [Char.ofNat byte.toNat]
  else ['\\', 'x'] ++ Hex.digitsOf byte

/-- An address as text. -/
def display (address : LocalAddress) : String :=
  let shown := String.ofList (address.bytes.flatMap displayByte)
  s!"UnixSocketAddress[port={address.port};path={shown}]"

/-- The byte of a slash. -/
def slash : UInt8 := 47

/-- The URI of an address. The plain scheme needs an absolute path and keeps its
slashes; the others escape every byte that is not unreserved and write a positive
port. -/
def uri (address : LocalAddress) (scheme : String) : Except AddressError String :=
  if scheme = "unix" then
    match address.file with
    | .error err => .error err
    | .ok path =>
      if path.head? = some slash then
        .ok (String.ofList ("unix://".toList ++ Percent.encode [slash] path))
      else .error (.noFilename .relativePath)
  else if scheme ∈ schemes then
    let port := if 0 < address.port then ':' :: Numeral.signed address.port else []
    .ok (String.ofList
      (scheme.toList ++ "://".toList ++ Percent.encode [] address.bytes ++ port ++ ['/']))
  else .error (.unsupportedScheme scheme)

/-- The escaped text of a URI that holds the address, with the URI's own port. -/
def locate (parts : Uri.Parts) : Except UriFlaw (List Char × Option Port) :=
  if String.ofList parts.scheme = "unix" then
    if parts.host = [] then .ok (parts.path, none) else .error .strayAuthority
  else .ok (parts.host, parts.port)

/-- Read a URI's bytes, which are not empty, and its own port, which is zero if it has
none. -/
def readUri (text : String) : Except AddressError (List UInt8 × Port) :=
  let malformed := AddressError.malformedUri family text
  match Uri.split text.toList with
  | .error flaw => .error (malformed flaw)
  | .ok parts =>
    if String.ofList parts.scheme ∈ schemes then
      match locate parts with
      | .error flaw => .error (malformed flaw)
      | .ok (escaped, port) =>
        match Percent.decode escaped with
        | none => .error (malformed .invalidEscape)
        | some [] => .error (malformed .missingPath)
        | some bytes => .ok (bytes, port.getD 0)
    else .error (.unsupportedScheme (String.ofList parts.scheme))

/-- The address that a URI denotes; a given port replaces the one in the URI. -/
def ofUri (text : String) (replacement : Option Port) : Except AddressError LocalAddress := do
  let (bytes, own) ← readUri text
  ofBytes bytes (replacement.getD own)

end LocalAddress

end SocketMux
