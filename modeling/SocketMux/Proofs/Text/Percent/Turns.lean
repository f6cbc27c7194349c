import SocketMux.Proofs.Text.Percent

/-!
# Escapes that are read turn by turn

A reader goes over the bytes of a text by their positions. In each turn it passes a byte on, or
takes a percent sign and the two bytes behind it for one escape, if there are two and both are
digits (`Percent.turn`). What a turn leaves to be read is what was to be read before, less the byte
that the turn gives (`Percent.turn_cases`), and no turn goes beyond the text. So the reader comes to
an end for every text (`Percent.exists_ends`), with what reading in one piece gives
(`Percent.Ends.outcome_eq`).

The text that is written for some bytes shows each byte as itself if it may stand for itself, and
as a percent sign and two capital digits if not (`Percent.Written`).
-/

namespace SocketMux.Text.Percent

variable {keep bytes raw : List UInt8} {byte : UInt8} {text : List Char}

section Writing

/-- The characters that are never escaped: digits and letters of ASCII, and four signs. -/
def IsUnreserved (char : Char) : Prop :=
  ('0' ≤ char ∧ char ≤ '9') ∨ ('A' ≤ char ∧ char ≤ 'Z') ∨ ('a' ≤ char ∧ char ≤ 'z') ∨
    char ∈ "-._~".toList

/-- The digits of escapes that are written. -/
def IsCapitalDigit (char : Char) : Prop := char ∈ "0123456789ABCDEF".toList

/-- The text that is written for some bytes, given the bytes to keep. -/
inductive Written (keep : List UInt8) : List UInt8 → List Char → Prop where
  | nil : Written keep [] []
  /-- A byte that is unreserved or kept stands for itself. -/
  | itself {byte : UInt8} {bytes : List UInt8} {text : List Char}
      (stays : IsUnreserved (Char.ofNat byte.toNat) ∨ byte ∈ keep)
      (rest : Written keep bytes text) :
      Written keep (byte :: bytes) (Char.ofNat byte.toNat :: text)
  /-- Every other byte is escaped, by the digits of its halves. -/
  | escape {byte : UInt8} {high low : Char} {bytes : List UInt8} {text : List Char}
      (reserved : ¬IsUnreserved (Char.ofNat byte.toNat)) (unlisted : byte ∉ keep)
      (capitalHigh : IsCapitalDigit high) (capitalLow : IsCapitalDigit low)
      (upper : Digit.Denotes high (byte.toNat / 16)) (lower : Digit.Denotes low (byte.toNat % 16))
      (rest : Written keep bytes text) : Written keep (byte :: bytes) ('%' :: high :: low :: text)

theorem isCapitalDigit_upper {value : Nat} (small : value < 16) :
    IsCapitalDigit (Digit.upper value) := by
  have table : ∀ n : Fin 16, Digit.upper n.val ∈ "0123456789ABCDEF".toList := by decide
  exact table ⟨value, small⟩

/-- A byte is unreserved if the character of its number is. -/
theorem isUnreserved_iff : isUnreserved byte = true ↔ IsUnreserved (Char.ofNat byte.toNat) := by
  have bounded := byte.toNat_lt
  have code : (Char.ofNat byte.toNat).val.toNat = byte.toNat := Utf8.toNat_ofNat (.inl (by omega))
  generalize Char.ofNat byte.toNat = char at code
  have same : ∀ other : Char, char = other ↔ byte.toNat = other.val.toNat := by
    intro other
    rw [← code]
    exact Char.toNat_inj.symm
  have signs : "-._~".toList = ['-', '.', '_', '~'] := rfl
  unfold isUnreserved IsUnreserved
  simp only [Char.le_def, UInt32.le_iff_toNat_le, code, signs, same, List.mem_cons,
    List.not_mem_nil, or_false, Bool.or_eq_true, Bool.and_eq_true, decide_eq_true_eq, beq_iff_eq,
    Char.reduceVal, UInt32.reduceToNat]
  omega

theorem written_encode (keep bytes : List UInt8) : Written keep bytes (encode keep bytes) := by
  induction bytes with
  | nil => exact .nil
  | cons byte bytes inductionHypothesis =>
    have bounded := byte.toNat_lt
    unfold encode at inductionHypothesis ⊢
    rw [List.flatMap_cons, encodeByte]
    split
    · next stays =>
      rw [Bool.or_eq_true_iff, List.contains_iff_mem, isUnreserved_iff] at stays
      exact .itself stays inductionHypothesis
    · next escaped =>
      rw [Bool.or_eq_true_iff, List.contains_iff_mem, isUnreserved_iff, not_or] at escaped
      obtain ⟨reserved, unlisted⟩ := escaped
      have high : byte.toNat / 16 < 16 := by omega
      have low : byte.toNat % 16 < 16 := by omega
      exact .escape reserved unlisted (isCapitalDigit_upper high) (isCapitalDigit_upper low)
        (Digit.denotes_upper high) (Digit.denotes_upper low) inductionHypothesis

end Writing

section Turns

/-- The byte that two digits denote. -/
def escaped? : List UInt8 → Option UInt8
  | [high, low] =>
    match Digit.value? high.toNat, Digit.value? low.toNat with
    | some upper, some lower => some (UInt8.ofNat (16 * upper + lower))
    | _, _ => none
  | _ => none

/-- Where a reader stands: the position of the next byte, and the bytes that it has read. -/
structure Place where
  position : Nat
  read : List UInt8
deriving DecidableEq, Repr

/-- What a reader does in a turn. -/
inductive Turn where
  | goesOn (place : Place)
  | ends (outcome : Option (List UInt8))
deriving DecidableEq, Repr

/-- One turn of a reader. Two bytes are cut out behind a percent sign, or fewer at the end of the
text. -/
def turn (raw : List UInt8) (place : Place) : Turn :=
  match raw[place.position]? with
  | none => .ends (some place.read)
  | some byte =>
    if byte = 37 then
      match escaped? (raw.extract (place.position + 1) (place.position + 3)) with
      | some byte => .goesOn ⟨place.position + 3, place.read ++ [byte]⟩
      | none => .ends none
    else .goesOn ⟨place.position + 1, place.read ++ [byte]⟩

/-- A reader that comes to an end, after turns in which it goes on. -/
inductive Ends (raw : List UInt8) : Place → Nat → Option (List UInt8) → Prop where
  | now {place : Place} {outcome : Option (List UInt8)} (ended : turn raw place = .ends outcome) :
      Ends raw place 0 outcome
  | later {place next : Place} {count : Nat} {outcome : Option (List UInt8)}
      (went : turn raw place = .goesOn next) (rest : Ends raw next count outcome) :
      Ends raw place (count + 1) outcome

/-- What is read in the end, if the bytes from a place on are read in one piece. -/
def completed (raw : List UInt8) (place : Place) : Option (List UInt8) :=
  (decodeBytes (raw.drop place.position)).map (place.read ++ ·)

variable {place next : Place} {outcome : Option (List UInt8)} {count : Nat}

/-- Two bytes are needed for an escape. -/
theorem length_of_escaped? {pair : List UInt8} (read : escaped? pair = some byte) :
    pair.length = 2 := by
  unfold escaped? at read
  split at read
  · rfl
  · cases read

/-- Behind a percent sign one byte is read from the next two. -/
theorem decodeBytes_percent (rest : List UInt8) : decodeBytes (37 :: rest) =
    (escaped? (rest.take 2)).bind fun byte => (decodeBytes (rest.drop 2)).map (byte :: ·) := by
  match rest with
  | [] => rfl
  | [single] => rfl
  | high :: low :: rest =>
    rw [decodeBytes, if_pos rfl]
    show _ = (escaped? [high, low]).bind fun byte => (decodeBytes rest).map (byte :: ·)
    unfold escaped?
    dsimp only
    cases Digit.value? high.toNat with
    | none => rfl
    | some upper => cases Digit.value? low.toNat <;> rfl

theorem decodeBytes_other (noPercent : byte ≠ 37) (rest : List UInt8) :
    decodeBytes (byte :: rest) = (decodeBytes rest).map (byte :: ·) :=
  decodeBytes_append (List.mem_singleton.not.mpr noPercent.symm) rest

/-- What a turn does: it ends with what was to be read, or it reads one byte and stands behind what
it was read from, within the text. -/
theorem turn_cases (raw : List UInt8) (place : Place) :
    turn raw place = .ends (completed raw place) ∨
      ∃ byte position, turn raw place = .goesOn ⟨position, place.read ++ [byte]⟩ ∧
        place.position < position ∧ position ≤ raw.length ∧
        decodeBytes (raw.drop place.position) =
          (decodeBytes (raw.drop position)).map (byte :: ·) := by
  cases found : raw[place.position]? with
  | none =>
    have finished := List.drop_eq_nil_iff.mpr (List.getElem?_eq_none_iff.mp found)
    left
    unfold turn completed
    rw [found, finished]
    exact congrArg (Turn.ends ∘ some) (List.append_nil _).symm
  | some byte =>
    obtain ⟨inside, same⟩ := List.getElem?_eq_some_iff.mp found
    have shape : raw.drop place.position = byte :: raw.drop (place.position + 1) := by
      rw [List.drop_eq_getElem_cons inside, same]
    have later : (raw.drop (place.position + 1)).drop 2 = raw.drop (place.position + 3) :=
      List.drop_drop
    have pair : raw.extract (place.position + 1) (place.position + 3) =
        (raw.drop (place.position + 1)).take 2 := by
      rw [List.extract_eq_take_drop, Nat.add_sub_add_left]
    unfold turn completed
    rw [found, shape, pair]
    dsimp only
    by_cases percent : byte = 37
    · rw [if_pos percent, percent, decodeBytes_percent, later]
      cases read : escaped? ((raw.drop (place.position + 1)).take 2) with
      | none => exact .inl rfl
      | some value =>
        -- Two bytes were cut out, so the text does not end before them.
        have two := length_of_escaped? read
        rw [List.length_take, List.length_drop] at two
        exact .inr ⟨value, _, rfl, by omega, by omega, rfl⟩
    · rw [if_neg percent, decodeBytes_other percent]
      exact .inr ⟨byte, _, rfl, by omega, by omega, rfl⟩

/-- A turn leaves what is read in the end as it is, and moves the reader on within the text. -/
theorem turn_goesOn (went : turn raw place = .goesOn next) : place.position < next.position ∧
    next.position ≤ raw.length ∧ completed raw next = completed raw place := by
  obtain ended | ⟨byte, position, same, further, within, reads⟩ := turn_cases raw place
  · rw [went] at ended
    cases ended
  · rw [went] at same
    obtain rfl := Turn.goesOn.inj same
    refine ⟨further, within, ?_⟩
    unfold completed
    rw [reads, Option.map_map]
    refine congrArg (Option.map · _) (funext fun rest => ?_)
    exact List.append_assoc _ _ _

/-- A reader ends with what is read in one piece. -/
theorem Ends.outcome_eq (ends : Ends raw place count outcome) : outcome = completed raw place := by
  induction ends with
  | now ended =>
    obtain same | ⟨_, _, went, _⟩ := turn_cases raw _
    · rw [ended] at same
      exact Turn.ends.inj same
    · rw [ended] at went
      cases went
  | later went rest inductionHypothesis =>
    rw [inductionHypothesis, (turn_goesOn went).2.2]

/-- A reader comes to an end within as many turns as bytes are left. -/
theorem exists_ends (raw : List UInt8) (place : Place) :
    ∃ count ≤ raw.length - place.position, Ends raw place count (completed raw place) := by
  cases step : turn raw place with
  | ends outcome =>
    have ends := Ends.now step
    exact ⟨0, Nat.zero_le _, ends.outcome_eq ▸ ends⟩
  | goesOn next =>
    obtain ⟨further, within, same⟩ := turn_goesOn step
    obtain ⟨count, bounded, ends⟩ := exists_ends raw next
    exact ⟨count + 1, by omega, .later step (same ▸ ends)⟩
termination_by raw.length - place.position

end Turns

section Texts

/-- One byte is read from the three of an escape, and one from every other byte of a text. -/
theorem Denotes.exists_others (denotes : Denotes text bytes) :
    ∃ others, (Utf8.encode text).length = 3 * text.count '%' + others ∧
      bytes.length = text.count '%' + others := by
  unfold Utf8.encode
  induction denotes with
  | nil => exact ⟨0, rfl, rfl⟩
  | @escape high low text byte bytes upper lower rest inductionHypothesis =>
    obtain ⟨others, size, length⟩ := inductionHypothesis
    obtain ⟨_, highSpelled, _⟩ := upper.spelled
    obtain ⟨_, lowSpelled, _⟩ := lower.spelled
    have percent : String.utf8EncodeChar '%' = [37] := by decide
    have unlike : high ≠ '%' ∧ low ≠ '%' := ⟨upper.ne rfl, lower.ne rfl⟩
    refine ⟨others, ?_, ?_⟩
    · simp [percent, highSpelled, lowSpelled, size, unlike]
      omega
    · simp [length, unlike]
      omega
  | @plain char text bytes noPercent rest inductionHypothesis =>
    obtain ⟨others, size, length⟩ := inductionHypothesis
    refine ⟨(String.utf8EncodeChar char).length + others, ?_, ?_⟩
    · rw [List.flatMap_cons, List.length_append, size, List.count_cons_of_ne noPercent]
      omega
    · rw [List.length_append, length, List.count_cons_of_ne noPercent]
      omega

/-- How a text is read. -/
structure ReadsEscapes (text : List Char) : Prop where
  /-- A reader at the start of the text comes to an end, within as many turns as there are bytes. -/
  ends : ∃ count ≤ (Utf8.encode text).length,
    Ends (Utf8.encode text) ⟨0, []⟩ count (decode text)
  /-- There is no other end. -/
  alone : ∀ count outcome, Ends (Utf8.encode text) ⟨0, []⟩ count outcome → outcome = decode text
  succeeds : (∃ bytes, decode text = some bytes) ↔ IsWellFormed text
  denoted : ∀ bytes, decode text = some bytes ↔ Denotes text bytes
  /-- An escape gives one byte, and so does every other byte of the text. -/
  counted : ∀ bytes, decode text = some bytes →
    ∃ others, (Utf8.encode text).length = 3 * text.count '%' + others ∧
      bytes.length = text.count '%' + others

/-- Reading in one piece is what a reader at the start completes. -/
theorem completed_start (text : List Char) :
    completed (Utf8.encode text) ⟨0, []⟩ = decode text := by
  unfold completed decode
  rw [List.drop_zero]
  exact Option.map_id'

theorem readsEscapes (text : List Char) : ReadsEscapes text where
  ends := completed_start text ▸ exists_ends (Utf8.encode text) ⟨0, []⟩
  alone count outcome ends := ends.outcome_eq.trans (completed_start text)
  succeeds := by
    rw [← exists_denotes_iff]
    exact exists_congr fun bytes => decode_eq_some_iff
  denoted bytes := decode_eq_some_iff
  counted bytes read := (decode_eq_some_iff.mp read).exists_others

end Texts

/-- Escapes in both directions. What is written for some bytes shows each of them as itself if it is
unreserved or kept, and else as a percent sign and two capital digits; the bytes are read again as
long as only bytes of ASCII are kept, and not the percent sign. Reading any text turn by turn comes
to an end, and gives bytes if and only if two digits follow every percent sign. -/
theorem escapes_read_back :
    (∀ keep bytes : List UInt8, Written keep bytes (encode keep bytes) ∧
      (IsKept keep → decode (encode keep bytes) = some bytes)) ∧
    ∀ text : List Char, ReadsEscapes text :=
  ⟨fun keep bytes => ⟨written_encode keep bytes, fun kept => decode_encode kept bytes⟩,
    readsEscapes⟩

/-- A kept slash among a zero, a percent sign and a byte beyond ASCII; and an escape that is cut off
behind a character of two bytes. -/
theorem escapes_read_back_cutOff :
    Written [47] [47, 0, 37, 255] "/%00%25%FF".toList ∧
    decode "/%00%25%FF".toList = some [47, 0, 37, 255] ∧
    ¬IsWellFormed "ö%2".toList ∧
    ∃ count ≤ 4, Ends (Utf8.encode "ö%2".toList) ⟨0, []⟩ count none := by
  have ascii : ∀ byte ∈ [(47 : UInt8)], byte.toNat < 0x80 := by
    intro byte member
    rw [List.mem_singleton.mp member]
    decide
  have spelled : encode [47] [47, 0, 37, 255] = "/%00%25%FF".toList := by decide
  have unread : decode "ö%2".toList = none := by decide
  obtain ⟨written, reads⟩ := escapes_read_back.1 [47] [47, 0, 37, 255]
  rw [spelled] at written reads
  have cut := escapes_read_back.2 "ö%2".toList
  refine ⟨written, reads ⟨ascii, by decide⟩, ?_, ?_⟩
  · rw [← cut.succeeds, unread]
    rintro ⟨_, read⟩
    cases read
  · have ends := cut.ends
    rw [unread] at ends
    exact ends

end SocketMux.Text.Percent
