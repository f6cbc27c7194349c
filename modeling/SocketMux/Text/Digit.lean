/-!
# Digits

One digit table serves every numeral of the library: decimal and hexadecimal
tokens, escapes in URIs and the hexadecimal form of byte strings. Reading accepts
both letter cases; writing chooses one.
-/

namespace SocketMux.Text.Digit

/-- The value of a hexadecimal digit given by its code point, in either case. -/
def value? (code : Nat) : Option Nat :=
  if 48 ≤ code ∧ code ≤ 57 then some (code - 48)
  else if 97 ≤ code ∧ code ≤ 102 then some (code - 87)
  else if 65 ≤ code ∧ code ≤ 70 then some (code - 55)
  else none

/-- The value of a digit of the given base, which is at most sixteen. -/
def valueIn? (base code : Nat) : Option Nat :=
  (value? code).filter (· < base)

/-- The lower-case digit of a value below sixteen. -/
def lower (value : Nat) : Char :=
  Char.ofNat (if value < 10 then 48 + value else 87 + value)

/-- The upper-case digit of a value below sixteen. -/
def upper (value : Nat) : Char :=
  Char.ofNat (if value < 10 then 48 + value else 55 + value)

/-- Reading undoes writing in lower case. -/
theorem value?_lower {value : Nat} (small : value < 16) :
    value? (lower value).toNat = some value := by
  have table : ∀ n : Fin 16, value? (lower n.val).toNat = some n.val := by decide
  exact table ⟨value, small⟩

/-- Reading undoes writing in upper case. -/
theorem value?_upper {value : Nat} (small : value < 16) :
    value? (upper value).toNat = some value := by
  have table : ∀ n : Fin 16, value? (upper n.val).toNat = some n.val := by decide
  exact table ⟨value, small⟩

/-- A digit's value is below sixteen. -/
theorem value?_lt {code value : Nat} (read : value? code = some value) : value < 16 := by
  unfold value? at read
  split at read
  · cases read; omega
  · split at read
    · cases read; omega
    · split at read
      · cases read; omega
      · cases read

end SocketMux.Text.Digit
