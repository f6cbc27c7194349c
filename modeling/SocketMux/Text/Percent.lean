import SocketMux.Text.Digit
import SocketMux.Text.Utf8

/-!
# Percent encoding

Every byte outside the unreserved set is written as `%` and two upper-case digits,
except for the bytes that the context keeps. Reading accepts both letter cases and
passes every other byte of the text through unchanged.
-/

namespace SocketMux.Text.Percent

/-- The bytes that are never escaped: ASCII letters, digits and `-`, `.`, `_`, `~`. -/
def isUnreserved (byte : UInt8) : Bool :=
  let code := byte.toNat
  (48 ≤ code && code ≤ 57) || (65 ≤ code && code ≤ 90) || (97 ≤ code && code ≤ 122) ||
    code == 45 || code == 46 || code == 95 || code == 126

/-- The written form of one byte, given the bytes to keep. -/
def encodeByte (keep : List UInt8) (byte : UInt8) : List Char :=
  if isUnreserved byte || keep.contains byte then [Char.ofNat byte.toNat]
  else ['%', Digit.upper (byte.toNat / 16), Digit.upper (byte.toNat % 16)]

/-- The written form of a byte string, given the bytes to keep. -/
def encode (keep : List UInt8) (bytes : List UInt8) : List Char :=
  bytes.flatMap (encodeByte keep)

/-- Read escapes in the bytes of a text; a `%` without two digits behind it is
refused. -/
def decodeBytes : List UInt8 → Option (List UInt8)
  | [] => some []
  | byte :: rest =>
    if byte = 37 then
      match rest with
      | high :: low :: others =>
        match Digit.value? high.toNat, Digit.value? low.toNat with
        | some upper, some lower =>
          (decodeBytes others).map (UInt8.ofNat (16 * upper + lower) :: ·)
        | _, _ => none
      | _ => none
    else (decodeBytes rest).map (byte :: ·)

/-- Read escapes in a text. -/
def decode (text : List Char) : Option (List UInt8) := decodeBytes (Utf8.encode text)

end SocketMux.Text.Percent
