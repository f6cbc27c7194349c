import SocketMux.Address.Uri
import SocketMux.Cluster.Address

/-!
# URIs of cluster addresses

The host of a URI is `[[scope-]kind.]a.b[.c]`. Writing leaves out what the reader
would supply: the implied scope, then the kind of a service, and a third field of
zero unless the kind is a range. Reading accepts all spellings of the same address.
-/

namespace SocketMux

namespace Cluster

open SocketMux.Text

/-- The schemes of the family. -/
def schemes : List String := ["tipc", "http+tipc", "https+tipc"]

namespace Fields

/-- Whether the host may leave the scope out. Unnamed kinds always show theirs. -/
def scopeImplied (fields : Fields) : Bool :=
  fields.kind.token?.isSome && fields.scope == Scope.impliedFor fields.kind

/-- One numeric field of a host: sockets use padded hexadecimal. -/
def hostWord (kind : Kind) (value : UInt32) : List Char :=
  if kind = .socket then Numeral.paddedWord value else Numeral.compactWord value

/-- The scope and kind at the head of a host, with their separators. -/
def hostHead (fields : Fields) : List Char :=
  if fields.scopeImplied ∧ fields.kind = .service then []
  else
    (if fields.scopeImplied then [] else fields.scope.token ++ ['-']) ++
      (fields.kind.token?.getD (Numeral.compactWord fields.kind.value)) ++ ['.']

/-- The host that denotes five values. -/
def host (fields : Fields) : List Char :=
  let word := hostWord fields.kind
  let last := if fields.c ≠ 0 ∨ fields.kind = .serviceRange then ['.'] ++ word fields.c else []
  fields.hostHead ++ word fields.a ++ ['.'] ++ word fields.b ++ last

end Fields

/-- What the first segment of a host is. -/
inductive Head where
  /-- A kind, with the scope before it if one is given. -/
  | typed (scope : Option (List Char)) (kind : List Char)
  /-- The first numeric field. -/
  | number
deriving DecidableEq, Repr

/-- The scope before a kind's word and a hyphen at the end of a segment. -/
def scopeBefore? (segment word : List Char) : Option (List Char) :=
  match Cut.dropEnding? ('-' :: word) segment with
  | some scope => if scope = [] then none else some scope
  | none => none

/-- Classify the first segment: a kind's word alone, a scope before such a word, a
scope before a numeric kind, or a number. -/
def readHead (segment : List Char) : Option Head :=
  let words := Kind.named.filterMap Kind.token?
  if segment ∈ words then some (.typed none segment)
  else
    match words.findSome? fun word => (scopeBefore? segment word).map fun scope => (scope, word) with
    | some (scope, word) => some (.typed (some scope) word)
    | none =>
      match Cut.first? ['-'] segment with
      | some (scope, kind) =>
        if scope ≠ [] ∧ (Numeral.word? kind).isSome then some (.typed (some scope) kind) else none
      | none => (Numeral.word? segment).map fun _ => .number

/-- The kind and scope that a typed head denotes. The kind is read first. -/
def readTyped (scope : Option (List Char)) (kind : List Char) : Except UriFlaw (Kind × Scope) :=
  match Kind.ofToken? kind with
  | none => .error .invalidKind
  | some kind =>
    match scope with
    | none => .ok (kind, Scope.impliedFor kind)
    | some token =>
      match Scope.ofToken? token with
      | none => .error .invalidScope
      | some scope => .ok (kind, scope)

/-- The values of two or three numeric segments. A missing third value is zero, or the
lower bound of a range. -/
def readValues (kind : Kind) (scope : Scope) (segments : List (List Char)) :
    Except UriFlaw Fields :=
  match segments.mapM Numeral.word? with
  | some [a, b] => .ok ⟨kind, scope, a, b, if kind = .serviceRange then b else 0⟩
  | some [a, b, c] => .ok ⟨kind, scope, a, b, c⟩
  | _ => .error .invalidField

/-- Read the segments of a host. -/
def readSegments (segments : List (List Char)) : Except UriFlaw Fields :=
  match segments with
  | [_, _] => readValues .service .cluster segments
  | head :: rest =>
    if rest.length = 2 ∨ rest.length = 3 then
      match readHead head with
      | some (.typed scope kind) =>
        match readTyped scope kind with
        | .ok (kind, scope) => readValues kind scope rest
        | .error flaw => .error flaw
      | some .number =>
        if rest.length = 2 then readValues .service .cluster segments else .error .invalidHead
      | none => .error .invalidHead
    else .error .fieldCount
  | [] => .error .fieldCount

/-- Read a host. -/
def readHost (host : List Char) : Except UriFlaw Fields := readSegments (Cut.fields '.' host)

end Cluster

namespace ClusterAddress

open Cluster

/-- The URI of an address. A port is written if it is positive. -/
def uri (address : ClusterAddress) (scheme : String) : Except AddressError String :=
  if scheme ∈ schemes then
    let port := if 0 < address.port then ':' :: Text.Numeral.signed address.port else []
    .ok (String.ofList (scheme.toList ++ "://".toList ++ address.fields.host ++ port))
  else .error (.unsupportedScheme scheme)

/-- Read a URI's values and its own port, which is zero if it has none. -/
def readUri (text : String) : Except AddressError (Fields × Port) :=
  let malformed := AddressError.malformedUri family text
  match Uri.split text.toList with
  | .error flaw => .error (malformed flaw)
  | .ok parts =>
    if String.ofList parts.scheme ∈ schemes then
      if parts.host = [] then .error (malformed .missingHost)
      else match readHost parts.host with
        | .error flaw => .error (malformed flaw)
        | .ok fields => .ok (fields, parts.port.getD 0)
    else .error (.unsupportedScheme (String.ofList parts.scheme))

/-- The address that a URI denotes; a given port replaces the one in the URI. -/
def ofUri (text : String) (replacement : Option Port) : Except AddressError ClusterAddress := do
  let (fields, own) ← readUri text
  let port ← (replacement.getD own).checked
  return ofFields fields port

end ClusterAddress

end SocketMux
