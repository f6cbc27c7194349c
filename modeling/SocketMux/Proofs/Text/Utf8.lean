import SocketMux.Text.Utf8
import SocketMux.Proofs.Outcome

/-!
# Spellings that are read back

The strict reading of UTF-8 inverts the spelling of characters: a byte list is read as the
characters that it spells and as no others (`decode_eq_ok_iff`). A sequence of several bytes
is begun by its first byte and completed by the rest (`Completes`); each character beyond
ASCII has one such sequence (`exists_begun`), and a completed sequence spells what its bits
say (`utf8EncodeChar_of_completes`).
-/

namespace SocketMux.Text.Utf8

/-- The sequence that one more byte of a longer sequence leaves. -/
def Begun.next (begun : Begun) (byte : UInt8) : Begun :=
  ⟨byte :: begun.seen, begun.value * 64 + (byte.toNat - 0x80), begun.missing - 1, 0x80, 0xBF⟩

/-- Bytes that complete a sequence, and the number that it spells with them. -/
inductive Completes : Begun → List UInt8 → Nat → Prop where
  | last {begun byte} (missing : begun.missing ≤ 1)
      (allowed : begun.least ≤ byte.toNat ∧ byte.toNat ≤ begun.most) :
      Completes begun [byte] (begun.value * 64 + (byte.toNat - 0x80))
  | more {begun byte tail number} (missing : ¬begun.missing ≤ 1)
      (allowed : begun.least ≤ byte.toNat ∧ byte.toNat ≤ begun.most)
      (later : Completes (begun.next byte) tail number) :
      Completes begun (byte :: tail) number

variable {byte : UInt8} {begun : Begun} {tail rest bytes : List UInt8} {number : Nat}
  {chars : List Char}

/-- A completed sequence is one character, and what follows is read from the start. -/
theorem Completes.piecesAfter (completes : Completes begun tail number) (rest : List UInt8) :
    piecesAfter (some begun) (tail ++ rest) =
      .scalar (Char.ofNat number) :: piecesAfter none rest := by
  induction completes with
  | last missing allowed =>
    rw [List.singleton_append, Utf8.piecesAfter, if_pos allowed]
    exact if_pos missing
  | more missing allowed later inductionHypothesis =>
    rw [List.cons_append, Utf8.piecesAfter, if_pos allowed]
    exact (if_neg missing).trans inductionHypothesis

/-- Only a completed sequence is followed by nothing but characters. -/
theorem exists_completes (read : piecesAfter (some begun) bytes = chars.map .scalar) :
    ∃ tail rest number later, bytes = tail ++ rest ∧ Completes begun tail number ∧
      chars = Char.ofNat number :: later ∧ piecesAfter none rest = later.map .scalar := by
  induction bytes generalizing begun with
  | nil =>
    rw [piecesAfter] at read
    cases chars <;> cases read
  | cons byte bytes inductionHypothesis =>
    rw [piecesAfter] at read
    split at read
    · next allowed =>
      dsimp only at read
      split at read
      · next missing =>
        cases chars with
        | nil => cases read
        | cons char later =>
          obtain ⟨same, others⟩ := List.cons.inj read
          have spelled := Piece.scalar.inj same
          exact ⟨[byte], bytes, _, later, rfl, .last missing allowed, spelled ▸ rfl, others⟩
      · next missing =>
        obtain ⟨tail, rest, number, later, rfl, completes, spelled, others⟩ :=
          inductionHypothesis read
        exact ⟨byte :: tail, rest, number, later, rfl, .more missing allowed completes, spelled,
          others⟩
    · cases chars <;> cases read

/-- The code point of a character is the number that it was made from. -/
theorem toNat_ofNat (valid : number.isValidChar) : (Char.ofNat number).val.toNat = number := by
  unfold Char.ofNat
  rw [dif_pos valid]
  rfl

section Sequences

variable {first second third fourth : UInt8}

theorem ofNat_eq_of_mod (byte : UInt8) (same : number % 256 = byte.toNat) :
    UInt8.ofNat number = byte :=
  UInt8.toNat_inj.mp (by rw [UInt8.toNat_ofNat', same])

/-- The spelling in two bytes. -/
theorem utf8EncodeChar_two (least : 0xC2 ≤ first.toNat) (most : first.toNat < 0xE0)
    (allowed : 0x80 ≤ second.toNat ∧ second.toNat ≤ 0xBF) :
    String.utf8EncodeChar (Char.ofNat ((first.toNat - 0xC0) * 64 + (second.toNat - 0x80))) =
      [first, second] := by
  unfold String.utf8EncodeChar
  rw [toNat_ofNat (.inl (by omega))]
  dsimp only
  rw [if_neg (by omega), if_pos (by omega), ofNat_eq_of_mod first (by omega),
    ofNat_eq_of_mod second (by omega)]

/-- The spelling in three bytes; overlong spellings and surrogates are excluded by the range of
the second. -/
theorem utf8EncodeChar_three (least : 0xE0 ≤ first.toNat) (most : first.toNat < 0xF0)
    (allowed : (if first.toNat = 0xE0 then 0xA0 else 0x80) ≤ second.toNat ∧
      second.toNat ≤ if first.toNat = 0xED then 0x9F else 0xBF)
    (next : 0x80 ≤ third.toNat ∧ third.toNat ≤ 0xBF) :
    String.utf8EncodeChar (Char.ofNat (((first.toNat - 0xE0) * 64 + (second.toNat - 0x80)) * 64 +
      (third.toNat - 0x80))) = [first, second, third] := by
  have range : 0x80 ≤ second.toNat ∧ second.toNat ≤ 0xBF ∧
      (first.toNat = 0xE0 → 0xA0 ≤ second.toNat) ∧ (first.toNat = 0xED → second.toNat ≤ 0x9F) := by
    split at allowed <;> split at allowed <;> omega
  have valid : Nat.isValidChar (((first.toNat - 0xE0) * 64 + (second.toNat - 0x80)) * 64 +
      (third.toNat - 0x80)) := by
    unfold Nat.isValidChar
    omega
  clear allowed
  unfold String.utf8EncodeChar
  rw [toNat_ofNat valid]
  dsimp only
  rw [if_neg (by omega), if_neg (by omega), if_pos (by omega),
    ofNat_eq_of_mod first (by omega), ofNat_eq_of_mod second (by omega),
    ofNat_eq_of_mod third (by omega)]

/-- The spelling in four bytes; overlong spellings and what is beyond the last code point are
excluded by the range of the second. -/
theorem utf8EncodeChar_four (least : 0xF0 ≤ first.toNat) (most : first.toNat < 0xF5)
    (allowed : (if first.toNat = 0xF0 then 0x90 else 0x80) ≤ second.toNat ∧
      second.toNat ≤ if first.toNat = 0xF4 then 0x8F else 0xBF)
    (next : 0x80 ≤ third.toNat ∧ third.toNat ≤ 0xBF)
    (last : 0x80 ≤ fourth.toNat ∧ fourth.toNat ≤ 0xBF) :
    String.utf8EncodeChar (Char.ofNat ((((first.toNat - 0xF0) * 64 + (second.toNat - 0x80)) * 64 +
      (third.toNat - 0x80)) * 64 + (fourth.toNat - 0x80))) = [first, second, third, fourth] := by
  have range : 0x80 ≤ second.toNat ∧ second.toNat ≤ 0xBF ∧
      (first.toNat = 0xF0 → 0x90 ≤ second.toNat) ∧ (first.toNat = 0xF4 → second.toNat ≤ 0x8F) := by
    split at allowed <;> split at allowed <;> omega
  clear allowed
  unfold String.utf8EncodeChar
  rw [toNat_ofNat (.inr (by omega))]
  dsimp only
  rw [if_neg (by omega), if_neg (by omega), if_neg (by omega),
    ofNat_eq_of_mod first (by omega), ofNat_eq_of_mod second (by omega),
    ofNat_eq_of_mod third (by omega), ofNat_eq_of_mod fourth (by omega)]

end Sequences

/-- A completed sequence is the spelling of its number. -/
theorem utf8EncodeChar_of_completes (begins : start byte = .inr begun)
    (completes : Completes begun tail number) :
    String.utf8EncodeChar (Char.ofNat number) = byte :: tail := by
  unfold start at begins
  dsimp only at begins
  split at begins
  · cases begins
  · split at begins
    · cases begins
    · next least =>
      split at begins
      · next most =>
        cases begins
        cases completes with
        | more missing => exact absurd (Nat.le_refl 1) missing
        | last missing allowed => exact utf8EncodeChar_two (by omega) most allowed
      · next least =>
        split at begins
        · next most =>
          cases begins
          cases completes with
          | last missing => exact absurd missing (show ¬2 ≤ 1 by decide)
          | more missing allowed later =>
            cases later with
            | more missing => exact absurd (Nat.le_refl 1) missing
            | last missing next => exact utf8EncodeChar_three (by omega) most allowed next
        · next least =>
          split at begins
          · next most =>
            cases begins
            cases completes with
            | last missing => exact absurd missing (show ¬3 ≤ 1 by decide)
            | more missing allowed later =>
              cases later with
              | last missing => exact absurd missing (show ¬2 ≤ 1 by decide)
              | more missing next later =>
                cases later with
                | more missing => exact absurd (Nat.le_refl 1) missing
                | last missing last => exact utf8EncodeChar_four (by omega) most allowed next last
          · cases begins

theorem start_two (least : 0xC2 ≤ byte.toNat) (most : byte.toNat < 0xE0) :
    start byte = .inr ⟨[byte], byte.toNat - 0xC0, 1, 0x80, 0xBF⟩ := by
  unfold start
  dsimp only
  rw [if_neg (by omega), if_neg (by omega), if_pos most]

theorem start_three (least : 0xE0 ≤ byte.toNat) (most : byte.toNat < 0xF0) :
    start byte = .inr ⟨[byte], byte.toNat - 0xE0, 2,
      if byte.toNat = 0xE0 then 0xA0 else 0x80, if byte.toNat = 0xED then 0x9F else 0xBF⟩ := by
  unfold start
  dsimp only
  rw [if_neg (by omega), if_neg (by omega), if_neg (by omega), if_pos most]

theorem start_four (least : 0xF0 ≤ byte.toNat) (most : byte.toNat < 0xF5) :
    start byte = .inr ⟨[byte], byte.toNat - 0xF0, 3,
      if byte.toNat = 0xF0 then 0x90 else 0x80, if byte.toNat = 0xF4 then 0x8F else 0xBF⟩ := by
  unfold start
  dsimp only
  rw [if_neg (by omega), if_neg (by omega), if_neg (by omega), if_neg (by omega), if_pos most]

/-- A number below 256 as a byte. -/
theorem exists_byte (number : Nat) (small : number < 256) :
    ∃ byte : UInt8, UInt8.ofNat number = byte ∧ byte.toNat = number :=
  ⟨_, rfl, by rw [UInt8.toNat_ofNat', Nat.mod_eq_of_lt small]⟩

/-- A character beyond ASCII is spelled as one completed sequence. -/
theorem exists_begun {char : Char} (long : 0x80 ≤ char.val.toNat) :
    ∃ byte begun tail, String.utf8EncodeChar char = byte :: tail ∧ start byte = .inr begun ∧
      Completes begun tail char.val.toNat := by
  have valid : Nat.isValidChar char.val.toNat := char.valid
  unfold Nat.isValidChar at valid
  unfold String.utf8EncodeChar
  generalize char.val.toNat = number at *
  dsimp only
  rw [if_neg (by omega)]
  split
  · obtain ⟨first, same₁, code₁⟩ := exists_byte (number / 64 % 32 + 192) (by omega)
    obtain ⟨second, same₂, code₂⟩ := exists_byte (number % 64 + 128) (by omega)
    have spelled : number = (first.toNat - 0xC0) * 64 + (second.toNat - 0x80) := by omega
    rw [same₁, same₂]
    refine ⟨first, _, [second], rfl, start_two (by omega) (by omega), ?_⟩
    rw [spelled]
    refine .last (Nat.le_refl 1) ⟨?_, ?_⟩
    · show 0x80 ≤ second.toNat
      omega
    · show second.toNat ≤ 0xBF
      omega
  · split
    · obtain ⟨first, same₁, code₁⟩ := exists_byte (number / 4096 % 16 + 224) (by omega)
      obtain ⟨second, same₂, code₂⟩ := exists_byte (number / 64 % 64 + 128) (by omega)
      obtain ⟨third, same₃, code₃⟩ := exists_byte (number % 64 + 128) (by omega)
      have spelled : number = ((first.toNat - 0xE0) * 64 + (second.toNat - 0x80)) * 64 +
          (third.toNat - 0x80) := by
        omega
      rw [same₁, same₂, same₃]
      refine ⟨first, _, [second, third], rfl, start_three (by omega) (by omega), ?_⟩
      rw [spelled]
      refine .more (show ¬2 ≤ 1 by decide) ⟨?_, ?_⟩ (.last (Nat.le_refl 1) ⟨?_, ?_⟩)
      · dsimp only
        split <;> omega
      · dsimp only
        split <;> omega
      · show 0x80 ≤ third.toNat
        omega
      · show third.toNat ≤ 0xBF
        omega
    · obtain ⟨first, same₁, code₁⟩ := exists_byte (number / 262144 % 8 + 240) (by omega)
      obtain ⟨second, same₂, code₂⟩ := exists_byte (number / 4096 % 64 + 128) (by omega)
      obtain ⟨third, same₃, code₃⟩ := exists_byte (number / 64 % 64 + 128) (by omega)
      obtain ⟨fourth, same₄, code₄⟩ := exists_byte (number % 64 + 128) (by omega)
      have spelled : number = (((first.toNat - 0xF0) * 64 + (second.toNat - 0x80)) * 64 +
          (third.toNat - 0x80)) * 64 + (fourth.toNat - 0x80) := by
        omega
      rw [same₁, same₂, same₃, same₄]
      refine ⟨first, _, [second, third, fourth], rfl, start_four (by omega) (by omega), ?_⟩
      rw [spelled]
      refine .more (show ¬3 ≤ 1 by decide) ⟨?_, ?_⟩ (.more (show ¬2 ≤ 1 by decide) ⟨?_, ?_⟩
        (.last (Nat.le_refl 1) ⟨?_, ?_⟩))
      · dsimp only
        split <;> omega
      · dsimp only
        split <;> omega
      · show 0x80 ≤ third.toNat
        omega
      · show third.toNat ≤ 0xBF
        omega
      · show 0x80 ≤ fourth.toNat
        omega
      · show fourth.toNat ≤ 0xBF
        omega

/-- A byte of ASCII is a character of its own. -/
theorem start_one (ascii : byte.toNat < 0x80) :
    start byte = .inl (.scalar (Char.ofNat byte.toNat)) := if_pos ascii

/-- A character of ASCII is spelled as one byte, which has its number. -/
theorem utf8EncodeChar_one {char : Char} (ascii : char.val.toNat < 0x80) :
    ∃ byte : UInt8, String.utf8EncodeChar char = [byte] ∧ byte.toNat = char.val.toNat := by
  obtain ⟨byte, same, code⟩ := exists_byte (char.val.toNat) (by omega)
  refine ⟨byte, ?_, code⟩
  unfold String.utf8EncodeChar
  dsimp only
  rw [if_pos (by omega), same]

theorem piecesAfter_begun_ne_nil (begun : Begun) (bytes : List UInt8) :
    piecesAfter (some begun) bytes ≠ [] := by
  induction bytes generalizing begun with
  | nil => exact List.cons_ne_nil _ _
  | cons byte bytes inductionHypothesis =>
    rw [piecesAfter]
    split
    · dsimp only
      split
      · exact List.cons_ne_nil _ _
      · exact inductionHypothesis _
    · exact List.cons_ne_nil _ _

/-- The spelling of characters consists of these characters. -/
theorem pieces_encode (chars : List Char) : pieces (encode chars) = chars.map .scalar := by
  induction chars with
  | nil => rfl
  | cons char chars inductionHypothesis =>
    unfold pieces encode at *
    rw [List.flatMap_cons, List.map_cons]
    rcases Nat.lt_or_ge char.val.toNat 0x80 with ascii | long
    · obtain ⟨byte, spelled, code⟩ := utf8EncodeChar_one ascii
      have same : Char.ofNat byte.toNat = char := by rw [code]; exact Char.ofNat_toNat char
      rw [spelled, List.singleton_append, piecesAfter, start_one (by omega), same]
      exact congrArg _ inductionHypothesis
    · obtain ⟨byte, begun, tail, spelled, begins, completes⟩ := exists_begun long
      rw [spelled, List.cons_append, piecesAfter, begins]
      dsimp only
      rw [completes.piecesAfter, inductionHypothesis]
      exact congrArg (Piece.scalar · :: _) (Char.ofNat_toNat char)

/-- Only a byte of ASCII is a character of its own. -/
theorem utf8EncodeChar_of_start {char : Char} (begins : start byte = .inl (.scalar char)) :
    String.utf8EncodeChar char = [byte] := by
  unfold start at begins
  dsimp only at begins
  split at begins
  · next ascii =>
    have same := Piece.scalar.inj (Sum.inl.inj begins)
    unfold String.utf8EncodeChar
    rw [← same, toNat_ofNat (.inl (by omega))]
    dsimp only
    rw [if_pos (by omega), UInt8.ofNat_toNat]
  · repeat' split at begins
    all_goals cases begins

/-- Bytes that consist of characters are their spelling. -/
theorem encode_of_pieces (read : pieces bytes = chars.map .scalar) : encode chars = bytes := by
  unfold pieces at read
  induction chars generalizing bytes with
  | nil =>
    cases bytes with
    | nil => rfl
    | cons byte rest =>
      rw [piecesAfter] at read
      split at read
      · cases read
      · exact absurd read (piecesAfter_begun_ne_nil _ _)
  | cons char chars inductionHypothesis =>
    cases bytes with
    | nil => cases read
    | cons byte rest =>
      rw [piecesAfter] at read
      unfold encode at *
      rw [List.flatMap_cons]
      split at read
      · next piece begins =>
        obtain ⟨same, others⟩ := List.cons.inj read
        rw [same] at begins
        rw [utf8EncodeChar_of_start begins, inductionHypothesis others]
        rfl
      · next begun begins =>
        obtain ⟨tail, later, number, others, rfl, completes, same, follows⟩ :=
          exists_completes read
        obtain ⟨rfl, rfl⟩ := List.cons.inj same
        rw [utf8EncodeChar_of_completes begins completes, inductionHypothesis follows]
        rfl

/-- Characters are read one after the other up to the first fault. -/
theorem scalarsFrom_eq_ok_iff {offset : Nat} {pieces : List Piece} :
    scalarsFrom offset pieces = .ok chars ↔ pieces = chars.map .scalar := by
  induction pieces generalizing offset chars with
  | nil => cases chars <;> simp [scalarsFrom]
  | cons piece pieces inductionHypothesis =>
    cases piece with
    | scalar char =>
      rw [scalarsFrom, Outcome.map_eq_ok_iff]
      constructor
      · rintro ⟨others, read, rfl⟩
        rw [inductionHypothesis.mp read, List.map_cons]
      · intro spelled
        cases chars with
        | nil => cases spelled
        | cons first others =>
          obtain ⟨same, rest⟩ := List.cons.inj spelled
          cases same
          exact ⟨others, inductionHypothesis.mpr rest, rfl⟩
    | illFormed bytes => cases chars <;> simp [scalarsFrom]
    | cutOff bytes => cases chars <;> simp [scalarsFrom]

/-- A byte list is read as the characters that it spells. -/
theorem decode_eq_ok_iff : decode bytes = .ok chars ↔ bytes = encode chars := by
  unfold decode
  rw [scalarsFrom_eq_ok_iff]
  constructor
  · intro read
    exact (encode_of_pieces read).symm
  · rintro rfl
    exact pieces_encode chars

/-- Different texts have different spellings. -/
theorem encode_injective : Function.Injective encode := by
  intro first second same
  have read := decode_eq_ok_iff.mpr same
  rw [decode_eq_ok_iff.mpr rfl] at read
  exact Except.ok.inj read

/-- Texts that follow each other are spelled one after the other. -/
theorem bytesOf_append (first second : String) :
    bytesOf (first ++ second) = bytesOf first ++ bytesOf second := by
  unfold bytesOf encode
  rw [String.toList_append, List.flatMap_append]

/-- A byte list is read as the text that it spells. -/
theorem text?_eq_ok_iff {text : String} : text? bytes = .ok text ↔ bytes = bytesOf text := by
  unfold text? bytesOf
  rw [Outcome.map_eq_ok_iff, ← decode_eq_ok_iff]
  constructor
  · rintro ⟨chars, read, rfl⟩
    rw [String.toList_ofList]
    exact read
  · intro read
    exact ⟨text.toList, read, String.ofList_toList⟩

section Ascii

/-- A byte below 128 only comes from the character of its own number. -/
theorem mem_utf8EncodeChar {byte : UInt8} (ascii : byte.toNat < 128) {char : Char}
    (member : byte ∈ String.utf8EncodeChar char) : char.toNat = byte.toNat := by
  have code : char.toNat = char.val.toNat := rfl
  -- All bytes of a longer spelling have their top bit set.
  have spelled : ∃ number, byte = UInt8.ofNat number ∧
      (number = char.val.toNat ∧ number < 128 ∨ 128 ≤ number % 256) := by
    unfold String.utf8EncodeChar at member
    simp only at member
    split at member
    · rw [List.mem_singleton] at member
      exact ⟨_, member, by omega⟩
    · split at member
      · simp only [List.mem_cons, List.not_mem_nil, or_false] at member
        rcases member with member | member <;> exact ⟨_, member, by omega⟩
      · split at member
        · simp only [List.mem_cons, List.not_mem_nil, or_false] at member
          rcases member with member | member | member <;> exact ⟨_, member, by omega⟩
        · simp only [List.mem_cons, List.not_mem_nil, or_false] at member
          rcases member with member | member | member | member <;> exact ⟨_, member, by omega⟩
  obtain ⟨number, rfl, small | large⟩ := spelled
  · rw [UInt8.toNat_ofNat']
    omega
  · rw [UInt8.toNat_ofNat'] at ascii
    omega

/-- A byte of ASCII at the start of a spelling is a character of its own. -/
theorem exists_cons_of_encode (spelled : encode chars = byte :: rest) (ascii : byte.toNat < 128) :
    ∃ char others, chars = char :: others ∧ char.toNat = byte.toNat ∧ encode others = rest := by
  cases chars with
  | nil => cases spelled
  | cons char others =>
    unfold encode at spelled
    rw [List.flatMap_cons] at spelled
    have first : byte ∈ String.utf8EncodeChar char := by
      cases shape : String.utf8EncodeChar char with
      | nil => exact absurd shape String.utf8EncodeChar_ne_nil
      | cons first tail =>
        rw [shape] at spelled
        rw [(List.cons.inj spelled).1]
        exact List.mem_cons_self
    have code : char.toNat = byte.toNat := mem_utf8EncodeChar ascii first
    have small : char.toNat < 128 := code ▸ ascii
    obtain ⟨only, single, _⟩ := utf8EncodeChar_one small
    rw [single] at spelled
    exact ⟨char, others, rfl, code, (List.cons.inj spelled).2⟩

theorem mem_encode {byte : UInt8} (ascii : byte.toNat < 128) {chars : List Char}
    (member : byte ∈ encode chars) : ∃ char ∈ chars, char.toNat = byte.toNat := by
  obtain ⟨char, listed, spelled⟩ := List.mem_flatMap.mp member
  exact ⟨char, listed, mem_utf8EncodeChar ascii spelled⟩

/-- A digit is spelled as one byte. -/
theorem mem_encode_of_digit {char : Char} (digit : char.isDigit = true) {chars : List Char}
    (member : char ∈ chars) : ∃ byte ∈ encode chars, 48 ≤ byte.toNat ∧ byte.toNat < 58 := by
  have bounds : 48 ≤ char.val.toNat ∧ char.val.toNat ≤ 57 := by
    simpa [Char.isDigit, UInt32.le_iff_toNat_le] using digit
  refine ⟨UInt8.ofNat char.val.toNat, List.mem_flatMap.mpr ⟨char, member, ?_⟩, ?_⟩
  · unfold String.utf8EncodeChar
    rw [if_pos (by omega)]
    exact List.mem_singleton_self _
  · rw [UInt8.toNat_ofNat']
    omega

end Ascii

end SocketMux.Text.Utf8
