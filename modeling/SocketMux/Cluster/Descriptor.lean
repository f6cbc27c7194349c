import SocketMux.Address.Error
import SocketMux.Cluster.Kind
import SocketMux.Wire.Word

/-!
# Cluster descriptors

A descriptor is five words: the kind, the scope and three fields whose meaning the
kind decides. Every list of twenty bytes is a descriptor, and each has one reading.
-/

namespace SocketMux.Cluster

open SocketMux.Text

/-- The five values of a descriptor. -/
structure Fields where
  kind : Kind
  scope : Scope
  a : UInt32
  b : UInt32
  c : UInt32
deriving DecidableEq, Repr, Hashable

/-- The name of the address family. -/
def family : String := "tipc"

/-- The number of bytes of a descriptor. -/
def descriptorLength : Nat := 20

namespace Fields

/-- The descriptor of five values. -/
def encode (fields : Fields) : List UInt8 :=
  Wire.word32 fields.kind.value ++ Wire.word32 fields.scope.value ++ Wire.word32 fields.a ++
    Wire.word32 fields.b ++ Wire.word32 fields.c

/-- Five words from the front of a byte string. -/
def takeWords? (bytes : List UInt8) : Option Fields := do
  let (kind, bytes) ← Wire.takeWord32? bytes
  let (scope, bytes) ← Wire.takeWord32? bytes
  let (a, bytes) ← Wire.takeWord32? bytes
  let (b, bytes) ← Wire.takeWord32? bytes
  let (c, _) ← Wire.takeWord32? bytes
  return ⟨.ofValue kind, .ofValue scope, a, b, c⟩

/-- Read a descriptor; only the length of a byte string can be wrong. -/
def decode (bytes : List UInt8) : Except AddressError Fields :=
  if bytes = [] then .error .emptyAddress
  else
    let wrongLength := AddressError.invalidLength family descriptorLength bytes.length
    if bytes.length ≠ descriptorLength then .error wrongLength
    else match takeWords? bytes with
      | some fields => .ok fields
      | none => .error wrongLength

/-- The three fields as text: ranges join the bounds by a hyphen, a third field of the
other named kinds is shown unless it is zero, and unnamed kinds show decimals. -/
def values (fields : Fields) : List Char :=
  match fields.kind with
  | .serviceRange =>
    Numeral.paddedWord fields.a ++ ['@'] ++ Numeral.paddedWord fields.b ++ ['-'] ++
      Numeral.paddedWord fields.c
  | .service | .socket =>
    Numeral.paddedWord fields.a ++ ['@'] ++ Numeral.paddedWord fields.b ++
      (if fields.c = 0 then [] else [':'] ++ Numeral.paddedWord fields.c)
  | .other _ =>
    [':'] ++ Numeral.decimal fields.a.toNat ++ [':'] ++ Numeral.decimal fields.b.toNat ++
      [':'] ++ Numeral.decimal fields.c.toNat

/-- All five values as text. A socket address leaves out a scope that is not
specified. -/
def describe (fields : Fields) : String :=
  let shown := String.ofList fields.values
  if fields.kind = .socket ∧ fields.scope = .notSpecified then
    s!"{fields.kind.display};{shown}"
  else s!"{fields.kind.display};{fields.scope.display}:{shown}"

end Fields

end SocketMux.Cluster
