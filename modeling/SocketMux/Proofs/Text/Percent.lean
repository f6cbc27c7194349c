import SocketMux.Text.Percent
import SocketMux.Proofs.Text.Digits

/-!
# Escapes that are read back

Reading undoes writing for every byte string, whichever bytes of ASCII the context keeps, as
long as it does not keep the percent sign (`Percent.decode_encode`). What is written consists of
unreserved and kept characters, percent signs and capital digits (`Percent.mem_encode`).

A text is read as the bytes that it denotes (`Percent.decode_eq_some_iff`): an escape denotes the
byte of its two digits, and every other character the bytes that spell it (`Percent.Denotes`). It
denotes some bytes if and only if two digits follow every percent sign
(`Percent.exists_denotes_iff`).
-/

namespace SocketMux.Text.Percent

variable {keep bytes rest : List UInt8} {byte : UInt8}

/-- Bytes that may stand for themselves: they are of ASCII, and none is the percent sign. -/
structure IsKept (keep : List UInt8) : Prop where
  ascii : ∀ byte ∈ keep, byte.toNat < 0x80
  noPercent : (37 : UInt8) ∉ keep

theorem ascii_of_isUnreserved (unreserved : isUnreserved byte = true) :
    byte.toNat < 0x80 ∧ byte ≠ 37 := by
  have bounds : byte.toNat < 0x80 ∧ byte.toNat ≠ 37 := by
    simp only [isUnreserved, Bool.or_eq_true, Bool.and_eq_true, decide_eq_true_eq,
      beq_iff_eq] at unreserved
    omega
  exact ⟨bounds.1, fun percent => bounds.2 (congrArg UInt8.toNat percent)⟩

/-- A byte that is not escaped is spelled as itself. -/
theorem decodeBytes_kept (ascii : byte.toNat < 0x80) (noPercent : byte ≠ 37) :
    decodeBytes (Utf8.encode [Char.ofNat byte.toNat] ++ rest) =
      (decodeBytes rest).map (byte :: ·) := by
  have spelled : Utf8.encode [Char.ofNat byte.toNat] = [byte] := by
    unfold Utf8.encode
    rw [List.flatMap_singleton, Utf8.utf8EncodeChar_of_start (Utf8.start_one ascii)]
  rw [spelled, List.singleton_append, decodeBytes.eq_def]
  exact if_neg noPercent

/-- An escape is read as the byte that it denotes, in either case of its digits. -/
theorem decodeBytes_escape {high low : Char} (upper : Digit.Denotes high (byte.toNat / 16))
    (lower : Digit.Denotes low (byte.toNat % 16)) :
    decodeBytes (Utf8.encode ['%', high, low] ++ rest) = (decodeBytes rest).map (byte :: ·) := by
  obtain ⟨highByte, highSpelled, highRead⟩ := upper.spelled
  obtain ⟨lowByte, lowSpelled, lowRead⟩ := lower.spelled
  have spelled : Utf8.encode ['%', high, low] = [37, highByte, lowByte] := by
    have percent : String.utf8EncodeChar '%' = [37] := by decide
    simp [Utf8.encode, percent, highSpelled, lowSpelled]
  rw [spelled, List.cons_append, List.cons_append, List.singleton_append, decodeBytes, if_pos rfl,
    highRead, lowRead]
  dsimp only
  rw [Hex.ofNat_halves]

theorem decodeBytes_encodeByte (kept : IsKept keep) (byte : UInt8) (rest : List UInt8) :
    decodeBytes (Utf8.encode (encodeByte keep byte) ++ rest) =
      (decodeBytes rest).map (byte :: ·) := by
  unfold encodeByte
  split
  · next stays =>
    rcases Bool.or_eq_true_iff.mp stays with unreserved | listed
    · obtain ⟨ascii, noPercent⟩ := ascii_of_isUnreserved unreserved
      exact decodeBytes_kept ascii noPercent
    · have member := List.contains_iff_mem.mp listed
      exact decodeBytes_kept (kept.ascii byte member) fun percent =>
        kept.noPercent (percent ▸ member)
  · have bounded := byte.toNat_lt
    exact decodeBytes_escape (Digit.denotes_upper (by omega)) (Digit.denotes_upper (by omega))

/-- Reading undoes writing. -/
theorem decode_encode (kept : IsKept keep) (bytes : List UInt8) :
    decode (encode keep bytes) = some bytes := by
  unfold decode
  induction bytes with
  | nil => rfl
  | cons byte bytes inductionHypothesis =>
    have split : Utf8.encode (encode keep (byte :: bytes)) =
        Utf8.encode (encodeByte keep byte) ++ Utf8.encode (encode keep bytes) := by
      simp [Utf8.encode, encode]
    rw [split, decodeBytes_encodeByte kept, inductionHypothesis]
    rfl

/-- The characters that are written. -/
theorem mem_encode {char : Char} (member : char ∈ encode keep bytes) :
    (∃ byte, (isUnreserved byte = true ∨ byte ∈ keep) ∧ char = Char.ofNat byte.toNat) ∨
      char = '%' ∨ ∃ value < 16, char = Digit.upper value := by
  obtain ⟨byte, _, written⟩ := List.mem_flatMap.mp member
  unfold encodeByte at written
  split at written
  · next stays =>
    left
    refine ⟨byte, ?_, List.mem_singleton.mp written⟩
    rw [Bool.or_eq_true_iff, List.contains_iff_mem] at stays
    exact stays
  · right
    have bounded := byte.toNat_lt
    simp only [List.mem_cons, List.not_mem_nil, or_false] at written
    rcases written with percent | high | low
    · exact .inl percent
    · exact .inr ⟨_, by omega, high⟩
    · exact .inr ⟨_, by omega, low⟩

/-- A character that is escaped is not written, unless it is kept. -/
theorem not_mem_encode {char : Char} (noPercent : char ≠ '%')
    (escaped : isUnreserved (UInt8.ofNat char.toNat) = false)
    (unlisted : UInt8.ofNat char.toNat ∉ keep) : char ∉ encode keep bytes := by
  intro member
  rcases mem_encode member with ⟨byte, stays, rfl⟩ | percent | ⟨value, small, rfl⟩
  · have bounded := byte.toNat_lt
    have code : (Char.ofNat byte.toNat).toNat = byte.toNat := Utf8.toNat_ofNat (.inl (by omega))
    rw [code, UInt8.ofNat_toNat] at escaped unlisted
    rcases stays with unreserved | listed
    · rw [unreserved] at escaped
      cases escaped
    · exact unlisted listed
  · exact noPercent percent
  · have table : ∀ n : Fin 16, isUnreserved (UInt8.ofNat (Digit.upper n.val).toNat) = true := by
      decide
    rw [table ⟨value, small⟩] at escaped
    cases escaped

section Denoting

variable {text : List Char}

/-- The bytes that a text denotes. -/
inductive Denotes : List Char → List UInt8 → Prop where
  | nil : Denotes [] []
  | escape {high low : Char} {text : List Char} {byte : UInt8} {bytes : List UInt8}
      (upper : Digit.Denotes high (byte.toNat / 16)) (lower : Digit.Denotes low (byte.toNat % 16))
      (rest : Denotes text bytes) : Denotes ('%' :: high :: low :: text) (byte :: bytes)
  | plain {char : Char} {text : List Char} {bytes : List UInt8} (noPercent : char ≠ '%')
      (rest : Denotes text bytes) : Denotes (char :: text) (String.utf8EncodeChar char ++ bytes)

/-- Only the empty text denotes no bytes. -/
theorem Denotes.eq_nil_iff (denotes : Denotes text bytes) : bytes = [] ↔ text = [] := by
  cases denotes with
  | nil => simp
  | escape upper lower rest => simp
  | plain noPercent rest => simp [String.utf8EncodeChar_ne_nil]

/-- Two digits follow every percent sign. -/
def IsWellFormed (text : List Char) : Prop :=
  ∀ after, '%' :: after <:+ text → ∃ high low upper lower rest, after = high :: low :: rest ∧
    Digit.Denotes high upper ∧ Digit.Denotes low lower

/-- Bytes other than the percent sign are passed through. -/
theorem decodeBytes_append (noPercent : (37 : UInt8) ∉ bytes) (rest : List UInt8) :
    decodeBytes (bytes ++ rest) = (decodeBytes rest).map (bytes ++ ·) := by
  induction bytes with
  | nil => exact Option.map_id'.symm
  | cons byte bytes inductionHypothesis =>
    have differs : byte ≠ 37 := fun same => noPercent (same ▸ List.mem_cons_self)
    have later := inductionHypothesis fun member => noPercent (List.mem_cons_of_mem _ member)
    rw [List.cons_append, decodeBytes.eq_def]
    dsimp only
    rw [if_neg differs, later, Option.map_map]
    rfl

theorem decode_cons_of_ne {char : Char} (noPercent : char ≠ '%') (text : List Char) :
    decode (char :: text) = (decode text).map (String.utf8EncodeChar char ++ ·) := by
  have absent : (37 : UInt8) ∉ String.utf8EncodeChar char := by
    intro member
    have code : char.toNat = '%'.toNat := Utf8.mem_utf8EncodeChar (by decide) member
    exact noPercent (Char.toNat_inj.mp code)
  exact decodeBytes_append absent (Utf8.encode text)

/-- Behind a percent sign that is read stand two digits. -/
theorem exists_escape (read : decode ('%' :: text) = some bytes) :
    ∃ high low rest byte later, text = high :: low :: rest ∧
      Digit.Denotes high (byte.toNat / 16) ∧ Digit.Denotes low (byte.toNat % 16) ∧
      decode rest = some later ∧ bytes = byte :: later := by
  have spelled : decode ('%' :: text) = decodeBytes (37 :: Utf8.encode text) := by
    have percent : String.utf8EncodeChar '%' = [37] := by decide
    unfold decode Utf8.encode
    rw [List.flatMap_cons, percent, List.singleton_append]
  rw [spelled, decodeBytes.eq_def] at read
  dsimp only at read
  rw [if_pos rfl] at read
  split at read
  · next highByte lowByte others shape =>
    split at read
    · next upper lower foundHigh foundLow =>
      obtain ⟨later, readLater, rfl⟩ := Option.map_eq_some_iff.mp read
      obtain ⟨high, text, rfl, highSpelled, shape⟩ :=
        Utf8.exists_cons_of_encode shape (Digit.ascii_of_value? foundHigh)
      obtain ⟨low, text, rfl, lowSpelled, rfl⟩ :=
        Utf8.exists_cons_of_encode shape (Digit.ascii_of_value? foundLow)
      have highDenotes : Digit.Denotes high upper := by
        rw [← Digit.value?_eq_some_iff, highSpelled]
        exact foundHigh
      have lowDenotes : Digit.Denotes low lower := by
        rw [← Digit.value?_eq_some_iff, lowSpelled]
        exact foundLow
      obtain ⟨upperHalf, lowerHalf⟩ := Hex.halves_ofNat highDenotes.1 lowDenotes.1
      refine ⟨high, low, text, _, later, rfl, ?_, ?_, readLater, rfl⟩
      · rw [upperHalf]
        exact highDenotes
      · rw [lowerHalf]
        exact lowDenotes
    · cases read
  · cases read

theorem denotes_of_decode {text : List Char} {bytes : List UInt8}
    (read : decode text = some bytes) : Denotes text bytes := by
  match text with
  | [] =>
    cases read
    exact .nil
  | char :: text =>
    by_cases percent : char = '%'
    · subst percent
      obtain ⟨high, low, rest, byte, later, rfl, upper, lower, readLater, rfl⟩ :=
        exists_escape read
      exact .escape upper lower (denotes_of_decode readLater)
    · rw [decode_cons_of_ne percent] at read
      obtain ⟨later, readLater, rfl⟩ := Option.map_eq_some_iff.mp read
      exact .plain percent (denotes_of_decode readLater)
termination_by text.length

/-- A text is read as the bytes that it denotes. -/
theorem decode_eq_some_iff : decode text = some bytes ↔ Denotes text bytes := by
  refine ⟨denotes_of_decode, fun denotes => ?_⟩
  induction denotes with
  | nil => rfl
  | @escape high low text byte bytes upper lower rest inductionHypothesis =>
    have read : decodeBytes (Utf8.encode ['%', high, low] ++ Utf8.encode text) = _ :=
      decodeBytes_escape upper lower
    have spelled : Utf8.encode ('%' :: high :: low :: text) =
        Utf8.encode ['%', high, low] ++ Utf8.encode text := by
      simp [Utf8.encode]
    unfold decode at inductionHypothesis ⊢
    rw [spelled, read, inductionHypothesis]
    rfl
  | plain noPercent rest inductionHypothesis =>
    rw [decode_cons_of_ne noPercent, inductionHypothesis]
    rfl

theorem IsWellFormed.of_suffix {rest : List Char} (wellFormed : IsWellFormed text)
    (suffix : rest <:+ text) : IsWellFormed rest :=
  fun after found => wellFormed after (found.trans suffix)

theorem exists_denotes {text : List Char} (wellFormed : IsWellFormed text) :
    ∃ bytes, Denotes text bytes := by
  match text with
  | [] => exact ⟨[], .nil⟩
  | char :: text =>
    by_cases percent : char = '%'
    · subst percent
      obtain ⟨high, low, upper, lower, rest, rfl, highDenotes, lowDenotes⟩ :=
        wellFormed _ List.suffix_rfl
      have behind : rest <:+ '%' :: high :: low :: rest := ⟨['%', high, low], rfl⟩
      obtain ⟨bytes, denotes⟩ := exists_denotes (wellFormed.of_suffix behind)
      obtain ⟨upperHalf, lowerHalf⟩ := Hex.halves_ofNat highDenotes.1 lowDenotes.1
      exact ⟨_, .escape (upperHalf.symm ▸ highDenotes) (lowerHalf.symm ▸ lowDenotes) denotes⟩
    · obtain ⟨bytes, denotes⟩ := exists_denotes (wellFormed.of_suffix (List.suffix_cons char text))
      exact ⟨_, .plain percent denotes⟩
termination_by text.length

/-- A text denotes bytes if and only if two digits follow every percent sign. -/
theorem exists_denotes_iff : (∃ bytes, Denotes text bytes) ↔ IsWellFormed text := by
  refine ⟨?_, exists_denotes⟩
  rintro ⟨bytes, denotes⟩ after found
  induction denotes with
  | nil => cases List.suffix_nil.mp found
  | escape upper lower rest inductionHypothesis =>
    rcases List.suffix_cons_iff.mp found with same | found
    · exact ⟨_, _, _, _, _, (List.cons.inj same).2, upper, lower⟩
    -- Neither digit is a percent sign itself.
    rcases List.suffix_cons_iff.mp found with same | found
    · exact absurd (List.cons.inj same).1.symm (upper.ne rfl)
    rcases List.suffix_cons_iff.mp found with same | found
    · exact absurd (List.cons.inj same).1.symm (lower.ne rfl)
    exact inductionHypothesis found
  | plain noPercent rest inductionHypothesis =>
    rcases List.suffix_cons_iff.mp found with same | found
    · exact absurd (List.cons.inj same).1.symm noPercent
    · exact inductionHypothesis found

end Denoting

end SocketMux.Text.Percent
