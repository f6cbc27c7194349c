import Mathlib.Data.List.Induction
import SocketMux.Text.Hex
import SocketMux.Proofs.Text.Numeral
import SocketMux.Proofs.Text.Utf8

/-!
# What digits denote

A digit denotes its value in either case (`Digit.Denotes`). A numeral is a non-empty run of
digits of a base, the last of which counts once (`Numeral.Denotes`), a word is such a numeral
in range or a hexadecimal one behind its mark (`Numeral.Word`), and two digits denote a byte
(`Hex.Denotes`). Each reader succeeds exactly on the texts that denote something, with what
they denote: `Numeral.natural?_eq_some_iff`, `Numeral.word?_eq_some_iff`,
`Numeral.nonNegative?_eq_some_iff` and `Hex.decode_eq_ok_iff`.
-/

namespace SocketMux.Text

namespace Digit

variable {char : Char} {value : Nat}

/-- A digit denotes a value below sixteen, in either case. -/
def Denotes (char : Char) (value : Nat) : Prop :=
  value < 16 ∧ (char = lower value ∨ char = upper value)

theorem denotes_lower (small : value < 16) : Denotes (lower value) value := ⟨small, .inl rfl⟩

theorem denotes_upper (small : value < 16) : Denotes (upper value) value := ⟨small, .inr rfl⟩

theorem value?_eq_some_iff : value? char.toNat = some value ↔ Denotes char value := by
  constructor
  · intro read
    have ofCode : ∀ code, char.toNat = code → char = Char.ofNat code := by
      rintro code rfl
      exact (Char.ofNat_toNat char).symm
    refine ⟨value?_lt read, ?_⟩
    unfold value? at read
    unfold lower upper
    split at read
    · cases read
      left
      rw [if_pos (by omega)]
      exact ofCode _ (by omega)
    · split at read
      · cases read
        left
        rw [if_neg (by omega)]
        exact ofCode _ (by omega)
      · split at read
        · cases read
          right
          rw [if_neg (by omega)]
          exact ofCode _ (by omega)
        · cases read
  · rintro ⟨small, rfl | rfl⟩
    · exact value?_lower small
    · exact value?_upper small

/-- A character without a value is no digit. -/
theorem Denotes.ne (denotes : Denotes char value) {other : Char}
    (noDigit : value? other.toNat = none) : char ≠ other := by
  rintro rfl
  rw [value?_eq_some_iff.mpr denotes] at noDigit
  cases noDigit

theorem valueIn?_eq_some_iff {base : Nat} :
    valueIn? base char.toNat = some value ↔ Denotes char value ∧ value < base := by
  rw [valueIn?, Option.filter_eq_some_iff, value?_eq_some_iff, decide_eq_true_eq]

/-- The lower case of a digit is the digit that is written for its value. -/
theorem Denotes.toLower (denotes : Denotes char value) : char.toLower = lower value := by
  have table : ∀ n : Fin 16, (lower n.val).toLower = lower n.val ∧
      (upper n.val).toLower = lower n.val := by
    decide
  obtain ⟨small, rfl | rfl⟩ := denotes
  · exact (table ⟨value, small⟩).1
  · exact (table ⟨value, small⟩).2

/-- Digits are characters of ASCII. -/
theorem ascii_of_value? {code : Nat} (read : value? code = some value) : code < 0x80 := by
  unfold value? at read
  repeat' split at read
  all_goals first | omega | cases read

/-- A digit is spelled as one byte, which has the digit's value. -/
theorem Denotes.spelled (denotes : Denotes char value) :
    ∃ byte, String.utf8EncodeChar char = [byte] ∧ value? byte.toNat = some value := by
  have read := value?_eq_some_iff.mpr denotes
  obtain ⟨byte, spelled, code⟩ := Utf8.utf8EncodeChar_one (ascii_of_value? read)
  refine ⟨byte, spelled, ?_⟩
  rw [code]
  exact read

/-- A byte that has the value of a digit spells the digit. -/
theorem exists_char {byte : UInt8} (read : value? byte.toNat = some value) :
    ∃ char, String.utf8EncodeChar char = [byte] ∧ Denotes char value := by
  have ascii := ascii_of_value? read
  have code : (Char.ofNat byte.toNat).toNat = byte.toNat := Utf8.toNat_ofNat (.inl (by omega))
  refine ⟨Char.ofNat byte.toNat, Utf8.utf8EncodeChar_of_start (Utf8.start_one ascii), ?_⟩
  rw [← value?_eq_some_iff, code]
  exact read

end Digit

namespace Numeral

variable {base number : Nat} {digits token : List Char}

/-- A non-empty run of digits of a base denotes a number. -/
inductive Denotes (base : Nat) : List Char → Nat → Prop where
  | single {char value} (digit : Digit.Denotes char value) (small : value < base) :
      Denotes base [char] value
  | snoc {digits number char value} (front : Denotes base digits number)
      (digit : Digit.Denotes char value) (small : value < base) :
      Denotes base (digits ++ [char]) (number * base + value)

theorem extend?_singleton {char : Char} {before : Nat} : extend? base before [char] = some number ↔
    ∃ value, Digit.Denotes char value ∧ value < base ∧ number = before * base + value := by
  rw [extend?]
  constructor
  · intro read
    split at read
    · next value found =>
      obtain ⟨digit, small⟩ := Digit.valueIn?_eq_some_iff.mp found
      exact ⟨value, digit, small, (Option.some.inj read).symm⟩
    · cases read
  · rintro ⟨value, digit, small, rfl⟩
    rw [Digit.valueIn?_eq_some_iff.mpr ⟨digit, small⟩]
    rfl

theorem natural?_of_ne_nil (nonempty : digits ≠ []) :
    natural? base digits = extend? base 0 digits := by
  cases digits with
  | nil => exact absurd rfl nonempty
  | cons char rest => rfl

theorem Denotes.ne_nil (denotes : Denotes base digits number) : digits ≠ [] := by
  cases denotes <;> simp

/-- The digits that are read are those of the number. -/
theorem natural?_eq_some_iff : natural? base digits = some number ↔ Denotes base digits number := by
  constructor
  · intro read
    induction digits using List.reverseRecOn generalizing number with
    | nil => cases read
    | append_singleton front char inductionHypothesis =>
      rw [natural?_of_ne_nil (by simp), extend?_append] at read
      obtain ⟨before, found, last⟩ := Option.bind_eq_some_iff.mp read
      obtain ⟨value, digit, small, rfl⟩ := extend?_singleton.mp last
      by_cases empty : front = []
      · subst empty
        cases found
        rw [Nat.zero_mul, Nat.zero_add]
        exact .single digit small
      · rw [← natural?_of_ne_nil empty] at found
        exact .snoc (inductionHypothesis found) digit small
  · intro denotes
    induction denotes with
    | single digit small =>
      rw [natural?_of_ne_nil (List.cons_ne_nil _ _), extend?_singleton]
      exact ⟨_, digit, small, by omega⟩
    | snoc front digit small inductionHypothesis =>
      rw [natural?_of_ne_nil front.ne_nil] at inductionHypothesis
      rw [natural?_of_ne_nil (by simp), extend?_append, inductionHypothesis, Option.bind_some,
        extend?_singleton]
      exact ⟨_, digit, small, rfl⟩

/-- A numeral consists of digits of its base. -/
theorem Denotes.exists_value (denotes : Denotes base digits number) {char : Char}
    (member : char ∈ digits) : ∃ value < base, Digit.Denotes char value := by
  induction denotes with
  | single digit small =>
    rw [List.mem_singleton.mp member]
    exact ⟨_, small, digit⟩
  | snoc front digit small inductionHypothesis =>
    rcases List.mem_append.mp member with earlier | last
    · exact inductionHypothesis earlier
    · rw [List.mem_singleton.mp last]
      exact ⟨_, small, digit⟩

/-- A word is denoted by a decimal numeral, or by a hexadecimal one behind a zero and `x`. -/
inductive Word : List Char → UInt32 → Prop where
  | decimal {digits : List Char} {value : UInt32} (denotes : Denotes 10 digits value.toNat) :
      Word digits value
  | hexadecimal {digits : List Char} {value : UInt32}
      (denotes : Denotes 16 digits value.toNat) : Word ('0' :: 'x' :: digits) value

/-- A word holds nothing but digits and the mark of hexadecimal ones. -/
theorem Word.not_mem {value : UInt32} (isWord : Word token value) {char : Char}
    (noDigit : Digit.value? char.toNat = none) (noMark : char ≠ 'x') : char ∉ token := by
  have unlike : ∀ {base number digits}, Denotes base digits number → char ∉ digits := by
    intro base number digits denotes member
    obtain ⟨value, _, digit⟩ := denotes.exists_value member
    exact digit.ne noDigit rfl
  cases isWord with
  | decimal denotes => exact unlike denotes
  | hexadecimal denotes =>
    have noZero : char ≠ '0' := by
      rintro rfl
      cases noDigit
    simp [unlike denotes, noZero, noMark]

/-- A number in range is the word of that number. -/
theorem ofNat_eq_some_iff {read : Option Nat} {value : UInt32} :
    (read.filter (· < 0x100000000)).map UInt32.ofNat = some value ↔ read = some value.toNat := by
  constructor
  · intro found
    obtain ⟨number, kept, rfl⟩ := Option.map_eq_some_iff.mp found
    obtain ⟨rfl, bounded⟩ := Option.filter_eq_some_iff.mp kept
    rw [UInt32.toNat_ofNat_of_lt' (of_decide_eq_true bounded)]
  · rintro rfl
    exact ofWord_toNat value

theorem word?_eq_some_iff {value : UInt32} : word? token = some value ↔ Word token value := by
  unfold word?
  extract_lets read
  rw [ofNat_eq_some_iff]
  constructor
  · intro found
    unfold read at found
    split at found
    · exact .hexadecimal (natural?_eq_some_iff.mp found)
    · exact .decimal (natural?_eq_some_iff.mp found)
  · intro denotes
    unfold read
    cases denotes with
    | decimal denotes =>
      split
      · -- The mark of a hexadecimal numeral is no digit of a decimal one.
        obtain ⟨value, _, digit⟩ := denotes.exists_value (show 'x' ∈ _ by simp)
        exact absurd rfl (digit.ne rfl)
      · exact natural?_eq_some_iff.mpr denotes
    | hexadecimal denotes => exact natural?_eq_some_iff.mpr denotes

/-- What is not read as a word is none. -/
theorem Word.ne {value : UInt32} (isWord : Word token value) {other : List Char}
    (noWord : word? other = none) : token ≠ other := by
  rintro rfl
  rw [word?_eq_some_iff.mpr isWord] at noWord
  cases noWord

theorem nonNegative?_eq_some_iff {value : Int32} : nonNegative? token = some value ↔
    ∃ number : Nat, Denotes 10 token number ∧ value.toInt = number := by
  unfold nonNegative?
  constructor
  · intro found
    obtain ⟨number, kept, rfl⟩ := Option.map_eq_some_iff.mp found
    obtain ⟨read, bounded⟩ := Option.filter_eq_some_iff.mp kept
    refine ⟨number, natural?_eq_some_iff.mp read, ?_⟩
    exact Int32.toInt_ofNat_of_lt (of_decide_eq_true bounded)
  · rintro ⟨number, denotes, same⟩
    have bounded : number < 0x80000000 := by
      have most := value.toInt_lt
      omega
    rw [natural?_eq_some_iff.mpr denotes, Option.filter_some, if_pos (decide_eq_true bounded),
      Option.map_some, Option.some.injEq, ← Int32.toInt_inj, Int32.toInt_ofNat_of_lt bounded, same]

end Numeral

namespace Hex

variable {digits : List Char} {bytes text : List UInt8}

/-- Two digits in either case denote each byte, the high half first. -/
inductive Denotes : List Char → List UInt8 → Prop where
  | nil : Denotes [] []
  | cons {high low digits bytes} {byte : UInt8} (upper : Digit.Denotes high (byte.toNat / 16))
      (lower : Digit.Denotes low (byte.toNat % 16)) (rest : Denotes digits bytes) :
      Denotes (high :: low :: digits) (byte :: bytes)

/-- The halves of a byte put together. -/
theorem ofNat_halves (byte : UInt8) :
    UInt8.ofNat (16 * (byte.toNat / 16) + byte.toNat % 16) = byte := by
  rw [Nat.div_add_mod, UInt8.ofNat_toNat]

/-- Two values below sixteen are the halves of a byte. -/
theorem halves_ofNat {upper lower : Nat} (high : upper < 16) (low : lower < 16) :
    (UInt8.ofNat (16 * upper + lower)).toNat / 16 = upper ∧
      (UInt8.ofNat (16 * upper + lower)).toNat % 16 = lower := by
  rw [UInt8.toNat_ofNat']
  omega

theorem exists_denotes {index : Nat} (read : pairsFrom index text = .ok bytes)
    (even : text.length % 2 = 0) : ∃ digits, text = Utf8.encode digits ∧ Denotes digits bytes := by
  induction index, text using pairsFrom.induct generalizing bytes with
  | case1 index high low rest noHigh =>
    rw [pairsFrom, noHigh] at read
    cases read
  | case2 index high low rest upper noLow foundHigh =>
    rw [pairsFrom, foundHigh, noLow] at read
    cases read
  | case3 index high low rest upper lower foundLow foundHigh inductionHypothesis =>
    rw [pairsFrom, foundHigh, foundLow] at read
    obtain ⟨later, readRest, rfl⟩ := Outcome.map_eq_ok_iff.mp read
    have shorter : rest.length % 2 = 0 := by
      rw [List.length_cons, List.length_cons] at even
      omega
    obtain ⟨digits, rfl, denotes⟩ := inductionHypothesis readRest shorter
    obtain ⟨highDigit, highSpelled, highDenotes⟩ := Digit.exists_char foundHigh
    obtain ⟨lowDigit, lowSpelled, lowDenotes⟩ := Digit.exists_char foundLow
    obtain ⟨upperHalf, lowerHalf⟩ := halves_ofNat highDenotes.1 lowDenotes.1
    refine ⟨highDigit :: lowDigit :: digits, ?_, .cons ?_ ?_ denotes⟩
    · simp [Utf8.encode, highSpelled, lowSpelled]
    · rw [upperHalf]
      exact highDenotes
    · rw [lowerHalf]
      exact lowDenotes
  | case4 text index short =>
    match text, short, even with
    | [], _, even =>
      cases read
      exact ⟨[], rfl, .nil⟩
    | high :: low :: rest, short, _ => exact absurd rfl (short high low rest)

/-- Two digits at a time are read as the bytes that they denote. -/
theorem Denotes.pairsFrom (denotes : Denotes digits bytes) (index : Nat) :
    (Utf8.encode digits).length % 2 = 0 ∧
      pairsFrom index (Utf8.encode digits) = .ok bytes := by
  induction denotes generalizing index with
  | nil => exact ⟨rfl, rfl⟩
  | cons upper lower rest inductionHypothesis =>
    obtain ⟨highByte, highSpelled, highRead⟩ := upper.spelled
    obtain ⟨lowByte, lowSpelled, lowRead⟩ := lower.spelled
    obtain ⟨even, read⟩ := inductionHypothesis (index + 2)
    unfold Utf8.encode at *
    rw [List.flatMap_cons, List.flatMap_cons, highSpelled, lowSpelled, List.singleton_append,
      List.singleton_append]
    constructor
    · rw [List.length_cons, List.length_cons]
      omega
    · rw [Hex.pairsFrom, highRead, lowRead]
      dsimp only
      rw [read, ofNat_halves]
      rfl

/-- A text is read if it spells digits that denote bytes. -/
theorem decode_eq_ok_iff :
    decode text = .ok bytes ↔ ∃ digits, text = Utf8.encode digits ∧ Denotes digits bytes := by
  unfold decode
  constructor
  · intro read
    split at read
    · cases read
    · exact exists_denotes read (by omega)
  · rintro ⟨digits, rfl, denotes⟩
    obtain ⟨even, read⟩ := denotes.pairsFrom 0
    rw [if_neg (by omega)]
    exact read

theorem decode_encode_eq_ok_iff :
    decode (Utf8.encode digits) = .ok bytes ↔ Denotes digits bytes := by
  rw [decode_eq_ok_iff]
  constructor
  · rintro ⟨others, same, denotes⟩
    rw [Utf8.encode_injective same]
    exact denotes
  · exact fun denotes => ⟨digits, rfl, denotes⟩

/-- What is written denotes the bytes that it was written from. -/
theorem denotes_encode (bytes : List UInt8) : Denotes (encode bytes) bytes := by
  induction bytes with
  | nil => exact .nil
  | cons byte bytes inductionHypothesis =>
    have bounded := byte.toNat_lt
    exact .cons (Digit.denotes_lower (by omega)) (Digit.denotes_lower (by omega))
      inductionHypothesis

/-- Bytes are written in the lower case of all texts that denote them. -/
theorem Denotes.encode_eq (denotes : Denotes digits bytes) :
    encode bytes = digits.map Char.toLower := by
  induction denotes with
  | nil => rfl
  | cons upper lower rest inductionHypothesis =>
    rw [List.map_cons, List.map_cons, ← inductionHypothesis, upper.toLower, lower.toLower]
    rfl

end Hex

end SocketMux.Text
