import Mathlib.Data.Nat.Digits.Defs
import SocketMux.Wire.Word

/-!
# Words that are read back

A word is taken from the front of a byte string exactly if its bytes stand there, and what
stands behind them is left. The bytes of a word are the digits of its number to base 256
(`Wire.number_word32`).
-/

namespace SocketMux.Wire

variable {bytes rest : List UInt8}

theorem takeWord16?_word16 {value : Nat} (bounded : value < 65536) (rest : List UInt8) :
    takeWord16? (word16 value ++ rest) = some (value, rest) := by
  simp only [word16, List.cons_append, List.nil_append, takeWord16?,
    UInt8.toNat_ofNat', Option.some.injEq, Prod.mk.injEq, and_true]
  omega

theorem takeWord16?_eq_some_iff {value : Nat} :
    takeWord16? bytes = some (value, rest) ↔ value < 65536 ∧ bytes = word16 value ++ rest := by
  constructor
  · intro taken
    match bytes, taken with
    | high :: low :: later, taken =>
      obtain ⟨rfl, rfl⟩ := Prod.mk.inj (Option.some.inj taken)
      have high_lt := high.toNat_lt
      have low_lt := low.toNat_lt
      refine ⟨by omega, ?_⟩
      simp only [word16, List.cons_append, List.nil_append, List.cons.injEq, and_true]
      constructor <;> apply UInt8.toNat_inj.mp <;> rw [UInt8.toNat_ofNat'] <;> omega
  · rintro ⟨bounded, rfl⟩
    exact takeWord16?_word16 bounded rest

theorem takeWord32?_eq_some_iff {value : UInt32} :
    takeWord32? bytes = some (value, rest) ↔ bytes = word32 value ++ rest := by
  constructor
  · intro taken
    match bytes, taken with
    | first :: second :: third :: fourth :: later, taken =>
      obtain ⟨rfl, rfl⟩ := Prod.mk.inj (Option.some.inj taken)
      rw [word32_ofBytes32]
      rfl
  · rintro rfl
    exact takeWord32?_word32 value rest

theorem takeInt32?_eq_some_iff {value : Int32} :
    takeInt32? bytes = some (value, rest) ↔ bytes = int32 value ++ rest := by
  constructor
  · intro taken
    obtain ⟨⟨word, later⟩, found, same⟩ := Option.map_eq_some_iff.mp taken
    obtain ⟨rfl, rfl⟩ := Prod.mk.inj same
    exact takeWord32?_eq_some_iff.mp found
  · rintro rfl
    exact takeInt32?_int32 value rest

/-- The number that bytes are the digits of, the most significant one first. -/
def number (bytes : List UInt8) : Nat := Nat.ofDigits 256 (bytes.reverse.map UInt8.toNat)

/-- The number of the four bytes behind some others. -/
def numberAt (place : Nat) (bytes : List UInt8) : Nat := number ((bytes.drop place).take 4)

theorem number_word32 (value : UInt32) : number (word32 value) = value.toNat := by
  have bound := value.toNat_lt
  simp only [number, word32, List.reverse_cons, List.reverse_nil, List.nil_append,
    List.cons_append, List.map_cons, List.map_nil, UInt8.toNat_ofNat', Nat.ofDigits_cons,
    Nat.ofDigits_nil]
  omega

end SocketMux.Wire
