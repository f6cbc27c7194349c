import SocketMux.Port
import SocketMux.Text.Hex
import SocketMux.Text.Quoted

/-!
# Address errors

An address is either built completely or refused with one of these causes. All of
them but two mean that the given form is malformed; the other two mean that a
well-formed address is not of the wanted sort.
-/

namespace SocketMux

/-- What is wrong with the text of a URI. -/
inductive UriFlaw where
  | missingSeparator
  | missingScheme
  | invalidScheme
  | invalidPort
  | strayAuthority
  | invalidEscape
  | missingPath
  | missingHost
  | invalidKind
  | invalidScope
  | invalidHead
  | fieldCount
  | invalidField
  | hex (fault : Text.Hex.Fault)
  | stated (reason : String)
deriving DecidableEq, Repr

namespace UriFlaw

/-- The wording of a flaw. -/
def message : UriFlaw → String
  | missingSeparator => "missing \"://\""
  | missingScheme => "missing scheme"
  | invalidScheme => "invalid scheme"
  | invalidPort => "invalid port"
  | strayAuthority => "unix URI must not carry an authority"
  | invalidEscape => "invalid percent-encoding"
  | missingPath => "missing path"
  | missingHost => "missing host"
  | invalidKind => "invalid address type"
  | invalidScope => "invalid scope"
  | invalidHead => "invalid scope or address type"
  | fieldCount => "expected 2 or 3 numeric fields"
  | invalidField => "invalid numeric field"
  | hex .oddLength => "Odd number of digits"
  | hex (.invalidCharacter byte index) =>
    s!"Invalid character {Text.Quoted.char (Char.ofNat byte.toNat)} at position {index}"
  | stated reason => reason

end UriFlaw

/-- Why an address has no file in the file system. -/
inductive MissingFile where
  | abstractName
  | relativePath
  | clusterAddress
  | stated (reason : String)
deriving DecidableEq, Repr

/-- The wording of the reason. -/
def MissingFile.message : MissingFile → String
  | abstractName => "socket is in abstract namespace"
  | relativePath => "unix URI requires an absolute path"
  | clusterAddress => "no file"
  | stated reason => reason

/-- Why an address is refused. -/
inductive AddressError where
  | emptyAddress
  | invalidLength (family : String) (expected actual : Nat)
  | portOutOfRange (port : Port)
  | unsupportedScheme (scheme : String)
  | malformedUri (family uri : String) (flaw : UriFlaw)
  | unsupportedAddress (expected actual : String)
  | noFilename (cause : MissingFile)
deriving DecidableEq, Repr

namespace AddressError

/-- The stable code of an error. -/
def code : AddressError → String
  | emptyAddress => "spark.afaddr.empty_address"
  | invalidLength .. => "spark.afaddr.invalid_length"
  | portOutOfRange _ => "spark.afaddr.port_out_of_range"
  | unsupportedScheme _ => "spark.afaddr.unsupported_scheme"
  | malformedUri .. => "spark.afaddr.malformed_uri"
  | unsupportedAddress .. => "spark.afaddr.unsupported_address"
  | noFilename _ => "spark.afaddr.no_filename"

/-- The wording of an error. -/
def message : AddressError → String
  | emptyAddress => "illegal address length: 0"
  | invalidLength family expected actual =>
    s!"illegal {family} address length: expected {expected}, got {actual}"
  | portOutOfRange port => s!"port out of range: {port}"
  | unsupportedScheme scheme => s!"unsupported URI scheme: {scheme}"
  | malformedUri family uri flaw =>
    s!"invalid {family} URI {Text.Quoted.text uri}: {flaw.message}"
  | unsupportedAddress expected actual =>
    s!"unsupported address: expected {expected}, got {actual}"
  | noFilename cause => s!"no file: {cause.message}"

/-- Whether the error means that the given form is malformed, rather than that a
well-formed address is not of the wanted sort. -/
def isMalformed : AddressError → Bool
  | unsupportedAddress .. | noFilename _ => false
  | _ => true

end AddressError

/-- Addresses carry ports from -1 on: -1 and 0 mean that none is given. -/
def Port.checked (port : Port) : Except AddressError Port :=
  if port < -1 then .error (.portOutOfRange port) else .ok port

end SocketMux
