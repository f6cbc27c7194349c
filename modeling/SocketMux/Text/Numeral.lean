import SocketMux.Text.Digit

/-!
# Numerals

Unsigned numerals are read strictly: a token is a non-empty run of digits and
nothing else, so signs, separators and blanks are refused. A word token may also
be written in hexadecimal after a leading zero and `x`.
-/

namespace SocketMux.Text.Numeral

/-- Extend a value by further digits of a base, or fail at the first character
that is no digit of it. -/
def extend? (base : Nat) (value : Nat) : List Char → Option Nat
  | [] => some value
  | c :: rest =>
    match Digit.valueIn? base c.toNat with
    | some digit => extend? base (value * base + digit) rest
    | none => none

/-- Read a non-empty run of digits of a base. -/
def natural? (base : Nat) : List Char → Option Nat
  | [] => none
  | digits => extend? base 0 digits

/-- Read a token that denotes a 32-bit word, in decimal or in hexadecimal. -/
def word? (token : List Char) : Option UInt32 :=
  let value := match token with
    | '0' :: 'x' :: digits => natural? 16 digits
    | digits => natural? 10 digits
  (value.filter (· < 0x100000000)).map UInt32.ofNat

/-- Read a decimal token that denotes a signed 32-bit number that is not negative. -/
def nonNegative? (token : List Char) : Option Int32 :=
  ((natural? 10 token).filter (· < 0x80000000)).map Int32.ofNat

/-- The decimal digits of a natural number, without leading zeros. -/
def decimal (value : Nat) : List Char := Nat.toDigits 10 value

/-- The lower-case hexadecimal digits of a natural number, without leading zeros. -/
def hexadecimal (value : Nat) : List Char := Nat.toDigits 16 value

/-- The decimal form of a signed number, with a minus sign if it is negative. -/
def signed (value : Int32) : List Char :=
  if value.toInt < 0 then '-' :: decimal value.toInt.natAbs else decimal value.toInt.natAbs

/-- A word in hexadecimal, filled with zeros to eight digits. -/
def paddedWord (value : UInt32) : List Char :=
  let digits := hexadecimal value.toNat
  '0' :: 'x' :: (List.replicate (8 - digits.length) '0' ++ digits)

/-- A word in its shorter customary form: decimal while the top bit is clear, and
hexadecimal without padding once it is set. -/
def compactWord (value : UInt32) : List Char :=
  if value.toNat < 0x80000000 then decimal value.toNat
  else '0' :: 'x' :: hexadecimal value.toNat

end SocketMux.Text.Numeral
