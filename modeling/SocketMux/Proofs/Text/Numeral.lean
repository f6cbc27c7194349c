import SocketMux.Text.Numeral

/-!
# Numerals that are read back

Reading undoes writing: the digits of a number are read as the number in every base up to
sixteen (`Numeral.natural?_toDigits`), and so are words in both of their forms and signed
numbers that are not negative. A written word starts with a digit and consists of few
characters (`Numeral.isWordChar`), none of which is a separator.
-/

namespace SocketMux.Text

namespace Digit

/-- Reading undoes writing for the customary digits. -/
theorem value?_digitChar {value : Nat} (small : value < 16) :
    value? (Nat.digitChar value).toNat = some value := by
  have table : ∀ n : Fin 16, value? (Nat.digitChar n.val).toNat = some n.val := by decide
  exact table ⟨value, small⟩

theorem valueIn?_digitChar {base value : Nat} (digit : value < base) (bounded : base ≤ 16) :
    valueIn? base (Nat.digitChar value).toNat = some value := by
  have read := value?_digitChar (Nat.lt_of_lt_of_le digit bounded)
  simp [valueIn?, read, digit]

end Digit

namespace Numeral

/-- Different numbers have different decimal forms. -/
theorem decimal_injective : Function.Injective decimal := by
  intro first second same
  have read := congrArg (fun digits => Nat.ofDigitChars 10 digits 0) same
  simpa [decimal] using read

theorem isDigit_of_mem_decimal {value : Nat} {char : Char} (member : char ∈ decimal value) :
    char.isDigit = true :=
  Nat.isDigit_of_mem_toDigits (by decide) (by decide) member

theorem decimal_ne_nil (value : Nat) : decimal value ≠ [] := Nat.toDigits_ne_nil

/-- Different signed numbers have different decimal forms. -/
theorem signed_injective : Function.Injective signed := by
  intro first second same
  have unsigned : ∀ value : Nat, ∀ rest, decimal value ≠ '-' :: rest := by
    intro value rest spelled
    have digit : Char.isDigit '-' = true :=
      isDigit_of_mem_decimal (by rw [spelled]; exact List.mem_cons_self)
    cases digit
  unfold signed at same
  have equal : first.toInt = second.toInt := by
    split at same <;> split at same
    · injection same with _ same
      have := decimal_injective same
      omega
    · exact absurd same.symm (unsigned _ _)
    · exact absurd same (unsigned _ _)
    · have := decimal_injective same
      omega
  exact Int32.toInt_inj.mp equal

/-- A decimal form consists of digits after an optional minus sign. -/
theorem mem_signed {value : Int32} {char : Char} (member : char ∈ signed value) :
    char = '-' ∨ char.isDigit = true := by
  unfold signed at member
  split at member
  · rcases List.mem_cons.mp member with minus | digit
    · exact .inl minus
    · exact .inr (isDigit_of_mem_decimal digit)
  · exact .inr (isDigit_of_mem_decimal member)

/-- The decimal form is the customary one. -/
theorem ofList_signed (value : Int32) : String.ofList (signed value) = toString value.toInt := by
  unfold signed
  cases value.toInt with
  | ofNat magnitude => rfl
  | negSucc magnitude =>
    rw [if_pos (Int.negSucc_lt_zero magnitude), String.ofList_cons]
    rfl

/-- A decimal form holds a digit. -/
theorem exists_digit (value : Int32) : ∃ char ∈ signed value, char.isDigit = true := by
  obtain ⟨char, member⟩ := List.exists_mem_of_ne_nil _ (decimal_ne_nil value.toInt.natAbs)
  refine ⟨char, ?_, isDigit_of_mem_decimal member⟩
  unfold signed
  split
  · exact List.mem_cons_of_mem _ member
  · exact member

section Reading

/-- Digits that follow extend what was read before them. -/
theorem extend?_append (base value : Nat) (first second : List Char) :
    extend? base value (first ++ second) =
      (extend? base value first).bind fun value => extend? base value second := by
  induction first generalizing value with
  | nil => rfl
  | cons char rest inductionHypothesis =>
    rw [List.cons_append, extend?, extend?]
    cases Digit.valueIn? base char.toNat with
    | none => rfl
    | some digit => exact inductionHypothesis _

variable {base : Nat} (radix : 1 < base) (bounded : base ≤ 16)

include radix bounded in
theorem extend?_toDigits (value : Nat) : extend? base 0 (Nat.toDigits base value) = some value := by
  induction value using Nat.strongRecOn with
  | ind value inductionHypothesis =>
    have last (digit : Nat) (small : digit < base) (before : Nat) :
        extend? base before [digit.digitChar] = some (before * base + digit) := by
      rw [extend?, Digit.valueIn?_digitChar small bounded]
      rfl
    by_cases single : value < base
    · rw [Nat.toDigits_of_lt_base single, last value single, Nat.zero_mul, Nat.zero_add]
    · have several : base ≤ value := Nat.le_of_not_lt single
      have fewer : value / base < value := Nat.div_lt_self (by omega) radix
      have ends : value % base < base := Nat.mod_lt _ (by omega)
      rw [Nat.toDigits_of_base_le radix several, extend?_append, inductionHypothesis _ fewer,
        Option.bind_some, last _ ends, Nat.div_add_mod']

include radix bounded in
/-- The digits of a number are read as the number. -/
theorem natural?_toDigits (value : Nat) : natural? base (Nat.toDigits base value) = some value := by
  have nonempty : Nat.toDigits base value ≠ [] := Nat.toDigits_ne_nil
  unfold natural?
  split
  · next empty => exact absurd empty nonempty
  · exact extend?_toDigits radix bounded value

include radix in
/-- A number consists of digits of its base. -/
theorem exists_digitChar_of_mem {value : Nat} {char : Char}
    (member : char ∈ Nat.toDigits base value) : ∃ digit < base, char = Nat.digitChar digit := by
  induction value using Nat.strongRecOn with
  | ind value inductionHypothesis =>
    by_cases single : value < base
    · rw [Nat.toDigits_of_lt_base single] at member
      exact ⟨value, single, List.mem_singleton.mp member⟩
    · have several : base ≤ value := Nat.le_of_not_lt single
      have fewer : value / base < value := Nat.div_lt_self (by omega) radix
      rw [Nat.toDigits_of_base_le radix several] at member
      rcases List.mem_append.mp member with earlier | last
      · exact inductionHypothesis _ fewer earlier
      · exact ⟨_, Nat.mod_lt _ (by omega), List.mem_singleton.mp last⟩

end Reading

section Words

/-- The characters of written words. -/
def isWordChar (char : Char) : Bool := char.isDigit || "abcdefx".toList.contains char

theorem isWordChar_of_mem_hexadecimal {value : Nat} {char : Char}
    (member : char ∈ hexadecimal value) : isWordChar char = true := by
  obtain ⟨digit, small, rfl⟩ := exists_digitChar_of_mem (by decide) member
  have table : ∀ n : Fin 16, isWordChar (Nat.digitChar n.val) = true := by decide
  exact table ⟨digit, small⟩

theorem isWordChar_of_mem_decimal {value : Nat} {char : Char} (member : char ∈ decimal value) :
    isWordChar char = true := by
  simp [isWordChar, isDigit_of_mem_decimal member]

/-- A word in hexadecimal consists of such characters. -/
theorem isWordChar_of_mem_paddedWord {value : UInt32} {char : Char}
    (member : char ∈ paddedWord value) : isWordChar char = true := by
  simp only [paddedWord, List.mem_cons, List.mem_append] at member
  rcases member with rfl | rfl | zero | digit
  · decide
  · decide
  · rw [(List.mem_replicate.mp zero).2]
    decide
  · exact isWordChar_of_mem_hexadecimal digit

theorem isWordChar_of_mem_compactWord {value : UInt32} {char : Char}
    (member : char ∈ compactWord value) : isWordChar char = true := by
  unfold compactWord at member
  split at member
  · exact isWordChar_of_mem_decimal member
  · simp only [List.mem_cons] at member
    rcases member with rfl | rfl | digit
    · decide
    · decide
    · exact isWordChar_of_mem_hexadecimal digit

/-- The number of a word is in range. -/
theorem ofWord_toNat (value : UInt32) :
    ((some value.toNat).filter (· < 0x100000000)).map UInt32.ofNat = some value := by
  rw [Option.filter_some, if_pos (decide_eq_true value.toNat_lt), Option.map_some,
    UInt32.ofNat_toNat]

/-- A decimal form is no hexadecimal one. -/
theorem word?_decimal (value : UInt32) : word? (decimal value.toNat) = some value := by
  have read : natural? 10 (decimal value.toNat) = some value.toNat :=
    natural?_toDigits (by decide) (by decide) _
  unfold word?
  split
  · next digits spelled =>
    have digit : Char.isDigit 'x' = true :=
      isDigit_of_mem_decimal (by rw [spelled]; exact List.mem_cons_of_mem _ List.mem_cons_self)
    cases digit
  · rw [read, ofWord_toNat]

theorem word?_hexadecimal {value : UInt32} {digits : List Char}
    (read : natural? 16 digits = some value.toNat) : word? ('0' :: 'x' :: digits) = some value := by
  rw [word?, read, ofWord_toNat]

/-- A word is read back from its shorter form. -/
theorem word?_compactWord (value : UInt32) : word? (compactWord value) = some value := by
  unfold compactWord
  split
  · exact word?_decimal value
  · exact word?_hexadecimal (natural?_toDigits (by decide) (by decide) _)

/-- A word is read back from its padded form, as leading zeros add nothing. -/
theorem word?_paddedWord (value : UInt32) : word? (paddedWord value) = some value := by
  refine word?_hexadecimal ?_
  have zeros : ∀ count, extend? 16 0 (List.replicate count '0') = some 0 := by
    intro count
    induction count with
    | zero => rfl
    | succ count inductionHypothesis => exact inductionHypothesis
  have nonempty : hexadecimal value.toNat ≠ [] := Nat.toDigits_ne_nil
  unfold natural?
  split
  · next empty => exact absurd (List.append_eq_nil_iff.mp empty).2 nonempty
  · rw [extend?_append, zeros, Option.bind_some]
    exact extend?_toDigits (by decide) (by decide) _

end Words

/-- A signed number that is not negative is read back from its decimal form. -/
theorem nonNegative?_signed {value : Int32} (least : 0 ≤ value.toInt) :
    nonNegative? (signed value) = some value := by
  have bounded : value.toInt.natAbs < 0x80000000 := by
    have most := value.toInt_lt
    omega
  have read : natural? 10 (decimal value.toInt.natAbs) = some value.toInt.natAbs :=
    natural?_toDigits (by decide) (by decide) _
  have same : Int32.ofNat value.toInt.natAbs = value := by
    apply Int32.toInt_inj.mp
    rw [Int32.toInt_ofNat_of_lt bounded]
    omega
  unfold nonNegative? signed
  rw [if_neg (by omega), read, Option.filter_some, if_pos (decide_eq_true bounded),
    Option.map_some, same]

end Numeral

end SocketMux.Text
