/-!
# UTF-8 over byte lists

`pieces` splits any byte list into well-formed scalars and ill-formed pieces, each
as long as the standard's maximal subpart. The strict reading refuses the first
ill-formed piece and says where it is; the lossy reading puts one replacement
character for each.
-/

namespace SocketMux.Text.Utf8

/-- One piece of a byte list read as UTF-8. -/
inductive Piece where
  /-- A scalar value in its only well-formed spelling. -/
  | scalar (char : Char)
  /-- A maximal ill-formed piece. -/
  | illFormed (bytes : List UInt8)
  /-- A well-formed beginning that the end of the input cuts off. -/
  | cutOff (bytes : List UInt8)
deriving DecidableEq, Repr

/-- A sequence that has begun: its bytes so far in reverse order, the bits collected,
the number of bytes still missing and the range allowed for the next one. -/
structure Begun where
  seen : List UInt8
  value : Nat
  missing : Nat
  least : Nat
  most : Nat
deriving DecidableEq, Repr

/-- What a byte means at the start of a sequence: a complete piece or the beginning of
a longer sequence. The ranges of the second byte exclude overlong spellings,
surrogates and values beyond the last code point. -/
def start (byte : UInt8) : Piece ⊕ Begun :=
  let code := byte.toNat
  if code < 0x80 then .inl (.scalar (Char.ofNat code))
  else if code < 0xC2 then .inl (.illFormed [byte])
  else if code < 0xE0 then .inr ⟨[byte], code - 0xC0, 1, 0x80, 0xBF⟩
  else if code < 0xF0 then
    .inr ⟨[byte], code - 0xE0, 2,
      if code = 0xE0 then 0xA0 else 0x80, if code = 0xED then 0x9F else 0xBF⟩
  else if code < 0xF5 then
    .inr ⟨[byte], code - 0xF0, 3,
      if code = 0xF0 then 0x90 else 0x80, if code = 0xF4 then 0x8F else 0xBF⟩
  else .inl (.illFormed [byte])

/-- The pieces of the rest of the input, given the sequence begun before it. A byte
outside the allowed range ends the begun sequence and starts the next one. -/
def piecesAfter : Option Begun → List UInt8 → List Piece
  | none, [] => []
  | some begun, [] => [.cutOff begun.seen.reverse]
  | none, byte :: rest =>
    match start byte with
    | .inl piece => piece :: piecesAfter none rest
    | .inr begun => piecesAfter (some begun) rest
  | some begun, byte :: rest =>
    if begun.least ≤ byte.toNat ∧ byte.toNat ≤ begun.most then
      let value := begun.value * 64 + (byte.toNat - 0x80)
      if begun.missing ≤ 1 then .scalar (Char.ofNat value) :: piecesAfter none rest
      else piecesAfter (some ⟨byte :: begun.seen, value, begun.missing - 1, 0x80, 0xBF⟩) rest
    else
      .illFormed begun.seen.reverse ::
        match start byte with
        | .inl piece => piece :: piecesAfter none rest
        | .inr next => piecesAfter (some next) rest

/-- The pieces of a byte list, in order. -/
def pieces (bytes : List UInt8) : List Piece := piecesAfter none bytes

/-- The first place where a byte list is not UTF-8. -/
structure Fault where
  /-- The number of well-formed bytes before it. -/
  validUpTo : Nat
  /-- The length of the ill-formed piece, or nothing when the input ends too early. -/
  illFormedLength : Option Nat
deriving DecidableEq, Repr

/-- The customary wording of a fault. -/
def Fault.message (fault : Fault) : String :=
  match fault.illFormedLength with
  | some length =>
    s!"invalid utf-8 sequence of {length} bytes from index {fault.validUpTo}"
  | none => s!"incomplete utf-8 byte sequence from index {fault.validUpTo}"

/-- The scalars of a list of pieces that starts at the given byte offset, or the first
fault. -/
def scalarsFrom (offset : Nat) : List Piece → Except Fault (List Char)
  | [] => .ok []
  | .scalar char :: rest =>
    (scalarsFrom (offset + char.utf8Size) rest).map (char :: ·)
  | .illFormed bytes :: _ => .error ⟨offset, some bytes.length⟩
  | .cutOff _ :: _ => .error ⟨offset, none⟩

/-- Read a byte list as UTF-8, refusing anything ill-formed. -/
def decode (bytes : List UInt8) : Except Fault (List Char) :=
  scalarsFrom 0 (pieces bytes)

/-- Read a byte list as UTF-8, with U+FFFD in the place of each ill-formed piece. -/
def decodeLossy (bytes : List UInt8) : List Char :=
  (pieces bytes).map fun
    | .scalar char => char
    | .illFormed _ | .cutOff _ => Char.ofNat 0xFFFD

/-- The UTF-8 spelling of a list of scalars. -/
def encode (chars : List Char) : List UInt8 := chars.flatMap String.utf8EncodeChar

/-- The bytes of a text. -/
def bytesOf (text : String) : List UInt8 := encode text.toList

/-- The text of a byte list, if it is UTF-8. -/
def text? (bytes : List UInt8) : Except Fault String := (decode bytes).map String.ofList

/-- The text of a byte list, with ill-formed pieces replaced. -/
def textLossy (bytes : List UInt8) : String := String.ofList (decodeLossy bytes)

end SocketMux.Text.Utf8
