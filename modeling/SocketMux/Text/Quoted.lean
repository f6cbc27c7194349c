import SocketMux.Text.Numeral
import SocketMux.Text.Printable
import SocketMux.Text.Utf8

/-!
# Quoted text

Text inside messages stands between quotes. The quote itself, the backslash, the
common controls and every character that is not shown as itself are escaped, so a
quoted text is one line. In a byte string both sorts of quotes are escaped.
-/

namespace SocketMux.Text.Quoted

/-- The escape of a character that is not shown as itself: its code point in lower-case
hexadecimal between braces. -/
def codePoint (char : Char) : List Char :=
  ['\\', 'u', '{'] ++ Numeral.hexadecimal char.toNat ++ ['}']

/-- The written form of one character where the given quotes are escaped. -/
def escape (quotes : List Char) (char : Char) : List Char :=
  if char = Char.ofNat 0 then ['\\', '0']
  else if char = '\t' then ['\\', 't']
  else if char = '\r' then ['\\', 'r']
  else if char = '\n' then ['\\', 'n']
  else if char = '\\' then ['\\', '\\']
  else if quotes.contains char then ['\\', char]
  else if Printable.isShown char then [char]
  else codePoint char

/-- A text between double quotes. -/
def text (plain : String) : String :=
  String.ofList (['"'] ++ plain.toList.flatMap (escape ['"']) ++ ['"'])

/-- A character between single quotes. -/
def char (plain : Char) : String :=
  String.ofList (['\''] ++ escape ['\''] plain ++ ['\''])

/-- The escape of a byte that is no text: two upper-case digits. -/
def byte (plain : UInt8) : List Char :=
  ['\\', 'x', Digit.upper (plain.toNat / 16), Digit.upper (plain.toNat % 16)]

/-- A byte string between double quotes, read as UTF-8 as far as it is. -/
def bytes (plain : List UInt8) : String :=
  let shown : Utf8.Piece → List Char
    | .scalar one => escape ['"', '\''] one
    | .illFormed broken | .cutOff broken => broken.flatMap byte
  String.ofList (['"'] ++ (Utf8.pieces plain).flatMap shown ++ ['"'])

end SocketMux.Text.Quoted
