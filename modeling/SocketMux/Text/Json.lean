import SocketMux.Text.Digit

/-!
# Strings in JSON

A string stands between double quotes. The quote, the backslash and the controls below
the blank are escaped, the common ones by a letter, and everything else is itself.
-/

namespace SocketMux.Text.Json

/-- The letter that stands for a common control. -/
def letter? (char : Char) : Option Char :=
  if char = '\x08' then some 'b'
  else if char = '\t' then some 't'
  else if char = '\n' then some 'n'
  else if char = '\x0c' then some 'f'
  else if char = '\r' then some 'r'
  else none

/-- The written form of one character. -/
def escape (char : Char) : List Char :=
  if char = '"' ∨ char = '\\' then ['\\', char]
  else if char.toNat < 32 then
    match letter? char with
    | some letter => ['\\', letter]
    | none =>
      ['\\', 'u', '0', '0', Digit.lower (char.toNat / 16), Digit.lower (char.toNat % 16)]
  else [char]

/-- A text as a string. -/
def quote (plain : String) : String :=
  String.ofList (['"'] ++ plain.toList.flatMap escape ++ ['"'])

end SocketMux.Text.Json
