import SocketMux.OpenPorts
import SocketMux.Pool
import SocketMux.Wire.Word

/-!
# Frames of a port authority

A request is an operation code and a signed argument, five bytes in all. A reply is a
status and what the status and the request call for: a port, a counted list of ports,
nothing, or a message with its length in front. One connection carries any number of
requests in turn.
-/

namespace SocketMux.Authority

open SocketMux.Text

/-- What a client asks of an authority. -/
inductive Request where
  | newPort
  | returnPort (port : Port)
  | openPorts
deriving DecidableEq, Repr

/-- What an authority grants. -/
inductive Grant where
  | port (port : Port)
  | done
  | listing (ports : OpenPorts)
deriving DecidableEq, Repr

namespace Request

/-- The operation code of a request. -/
def code : Request → UInt8
  | newPort => 1
  | returnPort _ => 2
  | openPorts => 3

/-- The argument of a request; only a returned port has one that counts. -/
def argument : Request → Port
  | returnPort port => port
  | _ => 0

/-- The frame of a request. -/
def encode (request : Request) : List UInt8 := [request.code] ++ Wire.int32 request.argument

/-- The request of an operation code and argument. -/
def ofCode? (code : UInt8) (argument : Port) : Option Request :=
  if code = 1 then some newPort
  else if code = 2 then some (returnPort argument)
  else if code = 3 then some openPorts
  else none

/-- Serve a request from a pool. -/
def serve (request : Request) (pool : PortPool) : Except MuxError (Grant × PortPool) :=
  match request with
  | newPort => pool.allocate.map fun (port, pool) => (.port port, pool)
  | returnPort port => (pool.release port).map fun (_, pool) => (.done, pool)
  | openPorts => pool.snapshot.map fun ports => (.listing ⟨ports⟩, pool)

end Request

/-- The frame of a grant. -/
def Grant.encode : Grant → List UInt8
  | .port granted => [0] ++ Wire.int32 granted
  | .done => [0]
  | .listing listed =>
    [0] ++ Wire.word32 (UInt32.ofNat listed.size) ++ listed.ports.flatMap Wire.int32

/-- The frame of a failure: status 1 for an outage and 2 for all else, then the
message, cut to the greatest length that fits. -/
def encodeFailure (err : MuxError) : List UInt8 :=
  let message := (Utf8.bytesOf err.message).take 65535
  [if err.isUnavailable then 1 else 2] ++ Wire.word16 message.length ++ message

/-- Answer one request frame given by its code and argument. -/
def answer (pool : PortPool) (code : UInt8) (argument : Port) : List UInt8 × PortPool :=
  match Request.ofCode? code argument with
  | none => (encodeFailure (.invalidRecord (.unknownOperation code)), pool)
  | some request =>
    match request.serve pool with
    | .ok (grant, pool) => (grant.encode, pool)
    | .error err => (encodeFailure err, pool)

/-- Answer all complete request frames in turn. An incomplete frame at the end is left
over and has no effect. -/
def answerAll (pool : PortPool) : List UInt8 → List UInt8 × PortPool × List UInt8
  | code :: first :: second :: third :: fourth :: rest =>
    let argument := (Wire.ofBytes32 first second third fourth).toInt32
    let (reply, pool) := answer pool code argument
    let (replies, pool, left) := answerAll pool rest
    (reply ++ replies, pool, left)
  | incomplete => ([], pool, incomplete)

/-- The greatest number of ports that a client accepts in a listing. -/
def maxListed : Nat := 0x100000

/-- The end of the replies in a number of fixed size. -/
def endOfReply : MuxError := .fault .authority (.plain .unexpectedEnd)

/-- The end of the replies in a message. -/
def endOfMessage : MuxError := .fault .authority (.described .unexpectedEnd "early eof")

/-- Take a value from the front of a reply, or report the end of it. -/
def orEnd {α : Type} (taken : Option α) : Except MuxError α :=
  match taken with
  | some value => .ok value
  | none => .error endOfReply

/-- Read the message of a failed request. -/
def readMessage (reply : List UInt8) : Except MuxError (String × List UInt8) := do
  let (length, reply) ← orEnd (Wire.takeWord16? reply)
  if reply.length < length then .error endOfMessage
  else return (Utf8.textLossy (reply.take length), reply.drop length)

/-- Read the status of a reply, and its message if the request failed. -/
def readStatus (reply : List UInt8) : Except MuxError (List UInt8) :=
  match reply with
  | [] => .error endOfReply
  | status :: reply =>
    if status = 0 then .ok reply
    else if status = 1 then do
      let (message, _) ← readMessage reply
      .error (.unavailable (.stated message))
    else if status = 2 then do
      let (message, _) ← readMessage reply
      .error (.invalidRecord (.stated message))
    else .error (.invalidRecord (.unknownStatus status))

/-- Read a number of ports. -/
def readPorts (reply : List UInt8) : Nat → Except MuxError (List Port × List UInt8)
  | 0 => .ok ([], reply)
  | count + 1 => do
    let (port, reply) ← orEnd (Wire.takeInt32? reply)
    let (ports, reply) ← readPorts reply count
    return (port :: ports, reply)

/-- Read the reply to a request. What follows the reply is handed back. -/
def Request.readReply (request : Request) (reply : List UInt8) :
    Except MuxError (Grant × List UInt8) := do
  let reply ← readStatus reply
  match request with
  | newPort =>
    let (port, reply) ← orEnd (Wire.takeInt32? reply)
    return (.port port, reply)
  | returnPort _ => return (.done, reply)
  | openPorts =>
    let (count, reply) ← orEnd (Wire.takeWord32? reply)
    if maxListed < count.toNat then .error (.invalidRecord (.tooManyPorts count))
    else
      let (ports, reply) ← readPorts reply count.toNat
      return (.listing (.ofList ports), reply)

end SocketMux.Authority
