/-!
# Words on the wire

Words are written with the most significant byte first. Every reader takes its bytes
from the front and hands back the rest.
-/

namespace SocketMux.Wire

/-- The four bytes of a 32-bit word. -/
def word32 (value : UInt32) : List UInt8 :=
  let code := value.toNat
  [UInt8.ofNat (code / 0x1000000), UInt8.ofNat (code / 0x10000 % 256),
    UInt8.ofNat (code / 0x100 % 256), UInt8.ofNat (code % 256)]

/-- The word of four bytes. -/
def ofBytes32 (first second third fourth : UInt8) : UInt32 :=
  UInt32.ofNat (first.toNat * 0x1000000 + second.toNat * 0x10000 + third.toNat * 0x100 +
    fourth.toNat)

/-- Take a 32-bit word from the front. -/
def takeWord32? : List UInt8 → Option (UInt32 × List UInt8)
  | first :: second :: third :: fourth :: rest =>
    some (ofBytes32 first second third fourth, rest)
  | _ => none

/-- The four bytes of a signed 32-bit number in two's complement. -/
def int32 (value : Int32) : List UInt8 := word32 value.toUInt32

/-- Take a signed 32-bit number from the front. -/
def takeInt32? (bytes : List UInt8) : Option (Int32 × List UInt8) :=
  (takeWord32? bytes).map fun (word, rest) => (word.toInt32, rest)

/-- The two bytes of a number below 2^16. -/
def word16 (value : Nat) : List UInt8 :=
  [UInt8.ofNat (value / 256), UInt8.ofNat (value % 256)]

/-- Take a two-byte number from the front. -/
def takeWord16? : List UInt8 → Option (Nat × List UInt8)
  | high :: low :: rest => some (high.toNat * 256 + low.toNat, rest)
  | _ => none

/-- Joining the bytes of a word gives the word back. -/
theorem takeWord32?_word32 (value : UInt32) (rest : List UInt8) :
    takeWord32? (word32 value ++ rest) = some (value, rest) := by
  have bound := value.toNat_lt
  simp only [word32, List.cons_append, List.nil_append, takeWord32?, Option.some.injEq,
    Prod.mk.injEq, and_true]
  apply UInt32.toNat_inj.mp
  simp only [ofBytes32, UInt8.toNat_ofNat', UInt32.toNat_ofNat']
  omega

/-- Splitting the word of four bytes gives the bytes back. -/
theorem word32_ofBytes32 (first second third fourth : UInt8) :
    word32 (ofBytes32 first second third fourth) = [first, second, third, fourth] := by
  have h₁ := first.toNat_lt
  have h₂ := second.toNat_lt
  have h₃ := third.toNat_lt
  have h₄ := fourth.toNat_lt
  simp only [word32, ofBytes32, UInt32.toNat_ofNat', List.cons.injEq, and_true]
  refine ⟨?_, ?_, ?_, ?_⟩ <;> apply UInt8.toNat_inj.mp <;>
    simp only [UInt8.toNat_ofNat'] <;> omega

/-- Joining the bytes of a signed number gives the number back. -/
theorem takeInt32?_int32 (value : Int32) (rest : List UInt8) :
    takeInt32? (int32 value ++ rest) = some (value, rest) := by
  simp [takeInt32?, int32, takeWord32?_word32]

end SocketMux.Wire
