import SocketMux.Text.Digit
import SocketMux.Text.Numeral

/-!
# Configuration tables

The text of a configuration is a flat TOML table: one assignment of a string or an
integer to a key on each line, with comments and blank lines between. Nested tables,
arrays and all other values are refused, because no setting has one.

Every reader takes its part from the front of the text and hands back the rest.
-/

namespace SocketMux.Config.Table

open SocketMux.Text

/-- A value of a setting. -/
inductive Value where
  | text (value : List Char)
  | integer (value : Int)
deriving DecidableEq, Repr

/-- A blank within a line. -/
def isBlank (c : Char) : Bool := c == ' ' || c == '\t'

/-- Drop the blanks at the front. -/
def skipBlanks (text : List Char) : List Char := text.dropWhile isBlank

/-- A character that text and comments may hold as itself: no control other than the tab. -/
def isPlain (c : Char) : Bool := c == '\t' || (32 ≤ c.toNat && c.toNat != 127)

/-- A character of a key without quotes. -/
def isKeyChar (c : Char) : Bool :=
  ('a' ≤ c && c ≤ 'z') || ('A' ≤ c && c ≤ 'Z') || ('0' ≤ c && c ≤ '9') || c == '_' || c == '-'

/-- Take the end of a line. -/
def takeLineEnd? : List Char → Option (List Char)
  | '\n' :: rest => some rest
  | '\r' :: '\n' :: rest => some rest
  | _ => none

/-- The character of a numbered escape. -/
def escapedChar? (digits : List Char) : Option Char :=
  match Numeral.natural? 16 digits with
  | some code => if Nat.isValidChar code then some (Char.ofNat code) else none
  | none => none

/-- Take the rest of an escape behind its backslash. -/
def takeEscape? : List Char → Option (Char × List Char)
  | 'b' :: rest => some (Char.ofNat 8, rest)
  | 't' :: rest => some ('\t', rest)
  | 'n' :: rest => some ('\n', rest)
  | 'f' :: rest => some (Char.ofNat 12, rest)
  | 'r' :: rest => some ('\r', rest)
  | '"' :: rest => some ('"', rest)
  | '\\' :: rest => some ('\\', rest)
  | 'u' :: rest =>
    if rest.length < 4 then none
    else (escapedChar? (rest.take 4)).map fun c => (c, rest.drop 4)
  | 'U' :: rest =>
    if rest.length < 8 then none
    else (escapedChar? (rest.take 8)).map fun c => (c, rest.drop 8)
  | _ => none

/-- Take the rest of a quoted string on one line. Escapes count only if `escapes` is
set. -/
def takeQuoted? (quote : Char) (escapes : Bool) (fuel : Nat) (text : List Char) :
    Option (List Char × List Char) :=
  match fuel, text with
  | fuel + 1, c :: rest =>
    if c = quote then some ([], rest)
    else if c = '\\' ∧ escapes then do
      let (escaped, rest) ← takeEscape? rest
      let (more, rest) ← takeQuoted? quote escapes fuel rest
      return (escaped :: more, rest)
    else if isPlain c then do
      let (more, rest) ← takeQuoted? quote escapes fuel rest
      return (c :: more, rest)
    else none
  | _, _ => none

/-- Drop blanks and line ends at the front. -/
def skipSpace (text : List Char) : List Char :=
  match text with
  | [] => []
  | '\r' :: '\n' :: rest => skipSpace rest
  | c :: rest => if isBlank c || c == '\n' then skipSpace rest else c :: rest

/-- One step through a string over several lines: characters of it, or its end with the
quotes that still belong to it. -/
inductive MultilineStep where
  | piece (kept rest : List Char)
  | finish (kept rest : List Char)
deriving DecidableEq, Repr

/-- Take one step through a string over several lines, which three quotes end. One or
two quotes in front of those belong to the string. A backslash at the end of a line
drops the line end and the space after it. -/
def multilineStep? (quote : Char) (escapes : Bool) (text : List Char) : Option MultilineStep :=
  match takeLineEnd? text with
  | some rest => some (.piece ['\n'] rest)
  | none =>
    match text with
    | [] => none
    | c :: rest =>
      if c = quote then
        let quotes := (text.takeWhile (· == quote)).length
        if quotes < 3 then some (.piece [c] rest)
        else if quotes ≤ 5 then
          some (.finish (List.replicate (quotes - 3) quote) (text.drop quotes))
        else none
      else if c = '\\' ∧ escapes then
        match takeLineEnd? (skipBlanks rest) with
        | some rest => some (.piece [] (skipSpace rest))
        | none => (takeEscape? rest).map fun (escaped, rest) => .piece [escaped] rest
      else if isPlain c then some (.piece [c] rest)
      else none

/-- Take the rest of a string over several lines. -/
def takeMultiline? (quote : Char) (escapes : Bool) (fuel : Nat) (text : List Char) :
    Option (List Char × List Char) :=
  match fuel with
  | 0 => none
  | fuel + 1 =>
    match multilineStep? quote escapes text with
    | some (.piece kept rest) => do
      let (others, rest) ← takeMultiline? quote escapes fuel rest
      return (kept ++ others, rest)
    | some (.finish kept rest) => some (kept, rest)
    | none => none

/-- Take a string over several lines behind its three quotes. A line end right after
them does not count. -/
def takeMultilineValue? (quote : Char) (escapes : Bool) (text : List Char) :
    Option (List Char × List Char) :=
  takeMultiline? quote escapes (text.length + 1) ((takeLineEnd? text).getD text)

/-- Take a string value. -/
def takeText? (text : List Char) : Option (List Char × List Char) :=
  match text with
  | '"' :: '"' :: '"' :: rest => takeMultilineValue? '"' true rest
  | '\'' :: '\'' :: '\'' :: rest => takeMultilineValue? '\'' false rest
  | '"' :: rest => takeQuoted? '"' true (rest.length + 1) rest
  | '\'' :: rest => takeQuoted? '\'' false (rest.length + 1) rest
  | _ => none

/-- Whether underscores stand only between digits. -/
def separatorsInside (digits : List Char) : Bool :=
  digits.head? != some '_' && digits.getLast? != some '_' &&
    (digits.zip digits.tail).all fun (left, right) => !(left == '_' && right == '_')

/-- The value of digits with underscores between them. -/
def separated? (base : Nat) (digits : List Char) : Option Nat :=
  if separatorsInside digits then Numeral.natural? base (digits.filter (· != '_')) else none

/-- The value of an unsigned decimal, which has no zero in front of other digits. -/
def decimal? (digits : List Char) : Option Nat :=
  match digits with
  | '0' :: _ :: _ => none
  | _ => separated? 10 digits

/-- The value of an integer token. -/
def integer? (token : List Char) : Option Int :=
  match token with
  | '+' :: digits => (decimal? digits).map Int.ofNat
  | '-' :: digits => (decimal? digits).map fun value => -Int.ofNat value
  | '0' :: 'x' :: digits => (separated? 16 digits).map Int.ofNat
  | '0' :: 'o' :: digits => (separated? 8 digits).map Int.ofNat
  | '0' :: 'b' :: digits => (separated? 2 digits).map Int.ofNat
  | digits => (decimal? digits).map Int.ofNat

/-- Take a value. -/
def takeValue? (text : List Char) : Option (Value × List Char) :=
  match text.head? with
  | some '"' | some '\'' => (takeText? text).map fun (value, rest) => (.text value, rest)
  | _ =>
    let isTokenChar (c : Char) : Bool := isKeyChar c || c == '+' || c == '.' || c == ':'
    (integer? (text.takeWhile isTokenChar)).map fun value =>
      (.integer value, text.dropWhile isTokenChar)

/-- Take a key of one part. -/
def takeKey? (text : List Char) : Option (List Char × List Char) :=
  match text with
  | '"' :: rest => takeQuoted? '"' true (rest.length + 1) rest
  | '\'' :: rest => takeQuoted? '\'' false (rest.length + 1) rest
  | _ =>
    let key := text.takeWhile isKeyChar
    if key = [] then none else some (key, text.dropWhile isKeyChar)

/-- Take the end of a line with the blanks and the comment in front of it. The end of
the text ends a line too. -/
def finishLine? (text : List Char) : Option (List Char) :=
  let rest := skipBlanks text
  let rest := if rest.head? = some '#' then rest.dropWhile isPlain else rest
  if rest = [] then some [] else takeLineEnd? rest

/-- Take one line: an assignment, or nothing. -/
def takeLine? (text : List Char) : Option (Option (List Char × Value) × List Char) :=
  match finishLine? text with
  | some rest => some (none, rest)
  | none => do
    let (key, rest) ← takeKey? (skipBlanks text)
    match skipBlanks rest with
    | '=' :: rest =>
      let (value, rest) ← takeValue? (skipBlanks rest)
      let rest ← finishLine? rest
      return (some (key, value), rest)
    | _ => none

/-- Read the lines of a text; each takes at least one character. -/
def readLines? (fuel : Nat) (text : List Char) : Option (List (List Char × Value)) :=
  match fuel, text with
  | _, [] => some []
  | 0, _ => none
  | fuel + 1, text => do
    let (assignment, rest) ← takeLine? text
    let others ← readLines? fuel rest
    return assignment.toList ++ others

/-- Whether no key is assigned twice. -/
def keysDistinct (assignments : List (List Char × Value)) : Bool :=
  match assignments with
  | [] => true
  | (key, _) :: rest => (rest.all fun entry => entry.1 != key) && keysDistinct rest

/-- Read a table. A byte order mark at the front does not count. -/
def read? (text : List Char) : Option (List (List Char × Value)) :=
  let text := if text.head? = some (Char.ofNat 0xFEFF) then text.tail else text
  (readLines? (text.length + 1) text).filter keysDistinct

end SocketMux.Config.Table
