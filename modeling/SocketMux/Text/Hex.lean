import SocketMux.Text.Digit

/-!
# Byte strings in hexadecimal

Two digits for each byte, the high half first. Writing uses lower case; reading
accepts both cases and reports the first character that is no digit.
-/

namespace SocketMux.Text.Hex

/-- Why a text is not the hexadecimal form of a byte string. -/
inductive Fault where
  | oddLength
  /-- A byte of the text that is no digit, with its position. -/
  | invalidCharacter (byte : UInt8) (index : Nat)
deriving DecidableEq, Repr

/-- The two digits of a byte. -/
def digitsOf (byte : UInt8) : List Char :=
  [Digit.lower (byte.toNat / 16), Digit.lower (byte.toNat % 16)]

/-- The hexadecimal form of a byte string. -/
def encode (bytes : List UInt8) : List Char := bytes.flatMap digitsOf

/-- The hexadecimal form as text. -/
def render (bytes : List UInt8) : String := String.ofList (encode bytes)

/-- Read digit pairs, counting positions from `index`. -/
def pairsFrom (index : Nat) : List UInt8 → Except Fault (List UInt8)
  | high :: low :: rest =>
    match Digit.value? high.toNat, Digit.value? low.toNat with
    | none, _ => .error (.invalidCharacter high index)
    | some _, none => .error (.invalidCharacter low (index + 1))
    | some upper, some lower =>
      (pairsFrom (index + 2) rest).map (UInt8.ofNat (16 * upper + lower) :: ·)
  | _ => .ok []

/-- Read the hexadecimal form given as the bytes of a text; an odd length is reported
before any character. -/
def decode (text : List UInt8) : Except Fault (List UInt8) :=
  if text.length % 2 = 1 then .error .oddLength else pairsFrom 0 text

end SocketMux.Text.Hex
