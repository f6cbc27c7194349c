import SocketMux.Address.Error
import SocketMux.Text.Cut
import SocketMux.Text.Numeral

/-!
# Splitting URIs

The accepted shape is `scheme://[user@]host[:port][/path]`. A query or fragment ends
the text that is looked at, the user part is dropped, and the port is a plain decimal
number.
-/

namespace SocketMux.Uri

open SocketMux.Text

/-- The parts of a split URI. -/
structure Parts where
  scheme : List Char
  host : List Char
  port : Option Port
  path : List Char
deriving DecidableEq, Repr

/-- The characters of a scheme: lower-case ASCII letters, digits, plus, minus and
full stop. -/
def isSchemeChar (c : Char) : Bool :=
  ('a' ≤ c && c ≤ 'z') || ('0' ≤ c && c ≤ '9') || c == '+' || c == '-' || c == '.'

/-- The text before the first `://`, whatever it is. -/
def schemeOf? (uri : List Char) : Option (List Char) :=
  (Cut.first? [':', '/', '/'] uri).map (·.1)

/-- The host and port of an authority: the user part reaches to the last `@`, and a
port stands behind the last colon after it. -/
def splitAuthority (authority : List Char) : Except UriFlaw (List Char × Option Port) :=
  let hostAndPort := match Cut.last? '@' authority with
    | some (_, tail) => tail
    | none => authority
  match Cut.last? ':' hostAndPort with
  | none => .ok (hostAndPort, none)
  | some (host, digits) =>
    match Numeral.nonNegative? digits with
    | some port => .ok (host, some port)
    | none => .error .invalidPort

/-- Whether a character ends the part of a URI that is looked at. -/
def endsText (c : Char) : Bool := c == '?' || c == '#'

/-- Split a URI. -/
def split (uri : List Char) : Except UriFlaw Parts :=
  match Cut.first? [':', '/', '/'] uri with
  | none => .error .missingSeparator
  | some (scheme, rest) =>
    if scheme = [] ∨ scheme.all isSchemeChar = false then .error .invalidScheme
    else
      let looked := rest.takeWhile fun c => !endsText c
      match splitAuthority (looked.takeWhile (· != '/')) with
      | .error flaw => .error flaw
      | .ok (host, port) => .ok ⟨scheme, host, port, looked.dropWhile (· != '/')⟩

end SocketMux.Uri
