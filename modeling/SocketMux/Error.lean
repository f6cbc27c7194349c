import SocketMux.Address.Error
import SocketMux.Fault
import SocketMux.Path

/-!
# Multiplexer errors

Every failure of the multiplexer is one of these causes. Addresses and system faults
keep their own causes inside; a failed close of several parts keeps all of theirs.
-/

namespace SocketMux

/-- The operations whose system faults are reported. -/
inductive Operation where
  | connect
  | bind
  | accept
  | peerCredentials
  | shutdown
  | removeFile
  | authority
  | conventional
  | readConfiguration
deriving DecidableEq, Repr

namespace Operation

/-- The stable code of a fault in an operation. -/
def code : Operation → String
  | connect => "spark.afmux.connect_failed"
  | bind => "spark.afmux.bind_failed"
  | accept => "spark.afmux.accept_failed"
  | peerCredentials => "spark.afmux.peer_credentials_failed"
  | shutdown => "spark.afmux.shutdown_failed"
  | removeFile => "spark.afmux.remove_file_failed"
  | authority => "spark.afmux.authority_failed"
  | conventional => "spark.afmux.conventional_failed"
  | readConfiguration => "spark.afmux.config_read_failed"

/-- The wording of an operation in front of its fault. -/
def message : Operation → String
  | connect => "local socket connect"
  | bind => "local socket bind"
  | accept => "local socket accept"
  | peerCredentials => "peer credentials"
  | shutdown => "local socket shutdown"
  | removeFile => "socket file removal"
  | authority => "port authority exchange"
  | conventional => "conventional socket"
  | readConfiguration => "configuration read"

end Operation

/-- Why a port authority cannot serve. -/
inductive Outage where
  | poolClosed
  | poolExhausted
  | noAuthority (path : Path)
  | unreachable (path : Path) (fault : Fault)
  | stated (reason : String)
deriving DecidableEq, Repr

/-- The wording of an outage. -/
def Outage.message : Outage → String
  | poolClosed => "port pool closed"
  | poolExhausted => "port pool exhausted"
  | noAuthority path => s!"no port authority at {path.display}"
  | unreachable path fault => s!"{path.display}: {fault.message}"
  | stated reason => reason

/-- What is wrong with a record or a wire frame. -/
inductive RecordFlaw where
  | truncated
  | unsupportedVersion (version : UInt8)
  | unknownTag (tag : UInt8)
  | trailingBytes (count : Nat)
  | textTooLong (length : Nat)
  | directoryNotText (directory : Path)
  | notText (fault : Text.Utf8.Fault)
  | unknownOperation (code : UInt8)
  | unknownStatus (code : UInt8)
  | tooManyPorts (count : UInt32)
  | stated (reason : String)
deriving DecidableEq, Repr

/-- The wording of a record's flaw. -/
def RecordFlaw.message : RecordFlaw → String
  | truncated => "truncated record"
  | unsupportedVersion version => s!"unsupported record version {version}"
  | unknownTag tag => s!"unknown factory tag {tag}"
  | trailingBytes count => s!"{count} trailing bytes"
  | textTooLong length => s!"string of {length} bytes too long"
  | directoryNotText directory => s!"socket directory {directory.quoted} is not UTF-8"
  | notText fault => fault.message
  | unknownOperation code => s!"unknown authority op {code}"
  | unknownStatus code => s!"unknown authority status {code}"
  | tooManyPorts count => s!"open port count {count} too large"
  | stated reason => reason

/-- What is wrong with a configuration. -/
inductive ConfigFlaw where
  | emptyDirectory
  /-- A part of a file name that holds a separator or a zero byte. -/
  | notNamePart (part value : String)
  /-- The text is no configuration table. -/
  | malformedText
  | stated (reason : String)
deriving DecidableEq, Repr

/-- The wording of a configuration's flaw. -/
def ConfigFlaw.message : ConfigFlaw → String
  | emptyDirectory => "socket directory must not be empty"
  | notNamePart part value => s!"{part} {Text.Quoted.text value} must be a plain file name part"
  | malformedText => "TOML parse error"
  | stated reason => reason

/-- A failure of the multiplexer. -/
inductive MuxError where
  | address (cause : AddressError)
  | fault (operation : Operation) (cause : Fault)
  | unsupported (feature : String)
  | unavailable (outage : Outage)
  | closed
  | closeFailed (first : MuxError) (suppressed : List MuxError)
  | invalidRecord (flaw : RecordFlaw)
  | invalidConfig (flaw : ConfigFlaw)
  | portOutOfRange (port : Port)
deriving Repr

namespace MuxError

/-- The stable code of an error. -/
def code : MuxError → String
  | address cause => cause.code
  | fault operation _ => operation.code
  | unsupported _ => "spark.afmux.unsupported"
  | unavailable _ => "spark.afmux.unavailable"
  | closed => "spark.afmux.closed"
  | closeFailed .. => "spark.afmux.close_failed"
  | invalidRecord _ => "spark.afmux.invalid_record"
  | invalidConfig _ => "spark.afmux.invalid_config"
  | portOutOfRange _ => "spark.afmux.port_out_of_range"

/-- The wording of an error. -/
def message : MuxError → String
  | address cause => cause.message
  | fault operation cause => s!"{operation.message}: {cause.message}"
  | unsupported feature => s!"operation not supported: {feature}"
  | unavailable outage => s!"port authority unavailable: {outage.message}"
  | closed => "socket closed"
  | closeFailed first suppressed =>
    s!"close failed: {first.message} ({suppressed.length} suppressed)"
  | invalidRecord flaw => s!"invalid external record: {flaw.message}"
  | invalidConfig flaw => s!"invalid configuration: {flaw.message}"
  | portOutOfRange port => s!"port out of range: {port}"

/-- The kind of the system fault inside, if it is one. -/
def faultKind? : MuxError → Option FaultKind
  | fault _ cause => some cause.kind
  | _ => none

/-- Whether a port authority cannot serve. -/
def isUnavailable : MuxError → Bool
  | unavailable _ => true
  | _ => false

/-- Whether the endpoint is closed. -/
def isClosed : MuxError → Bool
  | closed => true
  | _ => false

/-- The kinds of faults that pass by themselves. -/
def transientKinds : List FaultKind :=
  [.wouldBlock, .interrupted, .connectionRefused, .connectionReset, .connectionAborted,
    .addressInUse, .timedOut]

/-- Whether the same call may succeed later. -/
def isRetryable : MuxError → Bool
  | fault _ cause => transientKinds.contains cause.kind
  | unavailable _ => true
  | _ => false

/-- The result of a close of several parts with the errors of those that failed: one
error stands for itself, and the first of several carries the others. -/
def aggregate : List MuxError → Except MuxError Unit
  | [] => .ok ()
  | [only] => .error only
  | first :: suppressed => .error (.closeFailed first suppressed)

end MuxError

end SocketMux
