import SocketMux.Proofs.Text.Utf8
import SocketMux.Proofs.Wire
import SocketMux.Record

/-!
# Records that are read back

A record and its form determine each other: each part of a form is taken exactly where it was
put (`takeText_eq_ok_iff`, `takeHost_eq_ok_iff`), so writing and reading agree with one
description of the form (`Form`). A record has a form if its directory is text and no text is
too long (`Fits`).
-/

namespace SocketMux.FactoryRecord

open SocketMux.Text

section Parts

variable {bytes rest : List UInt8}

theorem putText_eq_ok_iff {text written : List UInt8} : putText text = .ok written ↔
    text.length ≤ maxTextLength ∧ written = Wire.word16 text.length ++ text := by
  unfold putText
  split
  · next fits => simp [fits, eq_comm]
  · next long => simp [long]

/-- A text is taken where it was put. -/
theorem takeText_eq_ok_iff {text : String} : takeText bytes = .ok (text, rest) ↔
    ∃ written, putText (Utf8.bytesOf text) = .ok written ∧ bytes = written ++ rest := by
  constructor
  · intro taken
    unfold takeText at taken
    split at taken
    · cases taken
    · next length later found =>
      obtain ⟨bounded, rfl⟩ := Wire.takeWord16?_eq_some_iff.mp found
      split at taken
      · cases taken
      · next enough =>
        split at taken
        · cases taken
        · next read =>
          obtain ⟨rfl, rfl⟩ := Prod.mk.inj (Except.ok.inj taken)
          have spelled := Utf8.text?_eq_ok_iff.mp read
          have whole : (later.take length).length = length := by
            rw [List.length_take, Nat.min_eq_left (Nat.le_of_not_lt enough)]
          refine ⟨_, putText_eq_ok_iff.mpr ⟨?_, rfl⟩, ?_⟩
          · rw [← spelled, whole]
            exact Nat.le_of_lt_succ bounded
          · rw [← spelled, whole, List.append_assoc, List.take_append_drop]
  · rintro ⟨written, put, rfl⟩
    obtain ⟨fits, rfl⟩ := putText_eq_ok_iff.mp put
    have bounded : (Utf8.bytesOf text).length < 65536 := Nat.lt_succ_of_le fits
    have enough : ¬(Utf8.bytesOf text ++ rest).length < (Utf8.bytesOf text).length := by
      rw [List.length_append]
      omega
    unfold takeText
    rw [List.append_assoc, Wire.takeWord16?_word16 bounded]
    dsimp only
    rw [if_neg enough, List.take_left, List.drop_left, Utf8.text?_eq_ok_iff.mpr rfl]

theorem takeByte_eq_ok_iff {byte : UInt8} :
    takeByte bytes = .ok (byte, rest) ↔ bytes = [byte] ++ rest := by
  unfold takeByte
  cases bytes <;> simp

theorem takePort_eq_ok_iff {port : Port} :
    takePort bytes = .ok (port, rest) ↔ bytes = Wire.int32 port ++ rest := by
  rw [← Wire.takeInt32?_eq_some_iff]
  unfold takePort
  cases Wire.takeInt32? bytes <;> simp

/-- A host that may be missing is taken where it was put. -/
theorem takeHost_eq_ok_iff {host : Option String} : takeHost bytes = .ok (host, rest) ↔
    ∃ written, putHost host = .ok written ∧ bytes = written ++ rest := by
  constructor
  · intro whole
    obtain ⟨⟨tag, later⟩, found, taken⟩ := Outcome.bind_eq_ok_iff.mp whole
    obtain rfl := takeByte_eq_ok_iff.mp found
    dsimp only at taken
    split at taken
    · next absent =>
      cases taken
      exact ⟨[0], rfl, by rw [absent]⟩
    · split at taken
      · next present =>
        obtain ⟨⟨text, later⟩, found, same⟩ := Outcome.bind_eq_ok_iff.mp taken
        cases same
        obtain ⟨written, put, rfl⟩ := takeText_eq_ok_iff.mp found
        refine ⟨[1] ++ written, ?_, by rw [present]; rfl⟩
        rw [putHost, put]
        rfl
      · cases taken
  · rintro ⟨written, put, rfl⟩
    cases host with
    | none =>
      cases put
      rfl
    | some host =>
      obtain ⟨text, textPut, rfl⟩ := Outcome.map_eq_ok_iff.mp put
      refine Outcome.bind_eq_ok_iff.mpr ⟨_, takeByte_eq_ok_iff.mpr rfl, ?_⟩
      exact Outcome.bind_eq_ok_iff.mpr ⟨_, takeText_eq_ok_iff.mpr ⟨_, textPut, rfl⟩, rfl⟩

end Parts

/-- The form of a record: the version, then the parts one after the other as they were put. -/
inductive Form : FactoryRecord → List UInt8 → Prop where
  | parts {directory : String} {registryPort clientHost serverHost namePrefix nameSuffix}
      {directoryPart clientPart serverPart prefixPart suffixPart : List UInt8}
      (directoryPut : putText (Utf8.bytesOf directory) = .ok directoryPart)
      (clientPut : putHost clientHost = .ok clientPart)
      (serverPut : putHost serverHost = .ok serverPart)
      (prefixPut : putText (Utf8.bytesOf namePrefix) = .ok prefixPart)
      (suffixPut : putText (Utf8.bytesOf nameSuffix) = .ok suffixPart) :
      Form ⟨Path.ofText directory, registryPort, clientHost, serverHost, namePrefix, nameSuffix⟩
        ([version] ++ (directoryPart ++ (Wire.int32 registryPort ++ (clientPart ++ (serverPart ++
          (prefixPart ++ suffixPart))))))

variable {record : FactoryRecord} {bytes : List UInt8}

/-- Writing gives the form. -/
theorem encodeBytes_eq_ok_iff : record.encodeBytes = .ok bytes ↔ Form record bytes := by
  constructor
  · intro written
    obtain ⟨path, registryPort, clientHost, serverHost, namePrefix, nameSuffix⟩ := record
    unfold encodeBytes at written
    split at written
    · cases written
    · next chars read =>
      obtain rfl : path = Path.ofText (String.ofList chars) := by
        rw [Path.ofText, Utf8.bytesOf, String.toList_ofList]
        exact Utf8.decode_eq_ok_iff.mp read
      obtain ⟨directoryPart, directoryPut, written⟩ := Outcome.bind_eq_ok_iff.mp written
      obtain ⟨clientPart, clientPut, written⟩ := Outcome.bind_eq_ok_iff.mp written
      obtain ⟨serverPart, serverPut, written⟩ := Outcome.bind_eq_ok_iff.mp written
      obtain ⟨prefixPart, prefixPut, written⟩ := Outcome.bind_eq_ok_iff.mp written
      obtain ⟨suffixPart, suffixPut, written⟩ := Outcome.bind_eq_ok_iff.mp written
      cases written
      simp only [List.append_assoc]
      exact .parts directoryPut clientPut serverPut prefixPut suffixPut
  · rintro ⟨directoryPut, clientPut, serverPut, prefixPut, suffixPut⟩
    next directory _ _ _ _ _ _ _ _ _ _ =>
    have isText : Utf8.decode (Path.ofText directory) = .ok directory.toList :=
      Utf8.decode_eq_ok_iff.mpr rfl
    unfold encodeBytes
    rw [isText]
    refine Outcome.bind_eq_ok_iff.mpr ⟨_, directoryPut, Outcome.bind_eq_ok_iff.mpr
      ⟨_, clientPut, Outcome.bind_eq_ok_iff.mpr ⟨_, serverPut, Outcome.bind_eq_ok_iff.mpr
        ⟨_, prefixPut, Outcome.bind_eq_ok_iff.mpr ⟨_, suffixPut, ?_⟩⟩⟩⟩⟩
    simp only [List.append_assoc]
    rfl

/-- Only the form is read. -/
theorem decodeBytes_eq_ok_iff : decodeBytes bytes = .ok record ↔ Form record bytes := by
  constructor
  · intro whole
    obtain ⟨⟨given, later⟩, found, body⟩ := Outcome.bind_eq_ok_iff.mp whole
    obtain rfl := takeByte_eq_ok_iff.mp found
    dsimp only at body
    split at body
    · cases body
    · next isVersion =>
      obtain rfl := Decidable.not_not.mp isVersion
      obtain ⟨⟨directory, later⟩, found, afterDirectory⟩ := Outcome.bind_eq_ok_iff.mp body
      obtain ⟨directoryPart, directoryPut, rfl⟩ := takeText_eq_ok_iff.mp found
      obtain ⟨⟨registryPort, later⟩, found, afterPort⟩ :=
        Outcome.bind_eq_ok_iff.mp afterDirectory
      obtain rfl := takePort_eq_ok_iff.mp found
      obtain ⟨⟨clientHost, later⟩, found, afterClient⟩ := Outcome.bind_eq_ok_iff.mp afterPort
      obtain ⟨clientPart, clientPut, rfl⟩ := takeHost_eq_ok_iff.mp found
      obtain ⟨⟨serverHost, later⟩, found, afterServer⟩ := Outcome.bind_eq_ok_iff.mp afterClient
      obtain ⟨serverPart, serverPut, rfl⟩ := takeHost_eq_ok_iff.mp found
      obtain ⟨⟨namePrefix, later⟩, found, afterPrefix⟩ := Outcome.bind_eq_ok_iff.mp afterServer
      obtain ⟨prefixPart, prefixPut, rfl⟩ := takeText_eq_ok_iff.mp found
      obtain ⟨⟨nameSuffix, later⟩, found, ending⟩ := Outcome.bind_eq_ok_iff.mp afterPrefix
      obtain ⟨suffixPart, suffixPut, rfl⟩ := takeText_eq_ok_iff.mp found
      dsimp only at ending
      split at ending
      · cases ending
      · next nothingLeft =>
        obtain rfl := Decidable.not_not.mp nothingLeft
        cases ending
        rw [List.append_nil]
        exact .parts directoryPut clientPut serverPut prefixPut suffixPut
  · rintro ⟨directoryPut, clientPut, serverPut, prefixPut, suffixPut⟩
    refine Outcome.bind_eq_ok_iff.mpr ⟨_, takeByte_eq_ok_iff.mpr rfl, ?_⟩
    refine Outcome.bind_eq_ok_iff.mpr ⟨_, takeText_eq_ok_iff.mpr ⟨_, directoryPut, rfl⟩, ?_⟩
    refine Outcome.bind_eq_ok_iff.mpr ⟨_, takePort_eq_ok_iff.mpr rfl, ?_⟩
    refine Outcome.bind_eq_ok_iff.mpr ⟨_, takeHost_eq_ok_iff.mpr ⟨_, clientPut, rfl⟩, ?_⟩
    refine Outcome.bind_eq_ok_iff.mpr ⟨_, takeHost_eq_ok_iff.mpr ⟨_, serverPut, rfl⟩, ?_⟩
    refine Outcome.bind_eq_ok_iff.mpr ⟨_, takeText_eq_ok_iff.mpr ⟨_, prefixPut, rfl⟩, ?_⟩
    have last := takeText_eq_ok_iff.mpr ⟨_, suffixPut, (List.append_nil _).symm⟩
    exact Outcome.bind_eq_ok_iff.mpr ⟨_, last, rfl⟩

section Fit

/-- Whether a text may stand in a form. -/
def IsShort (text : String) : Prop := (Utf8.bytesOf text).length ≤ maxTextLength

theorem exists_putText {text : String} :
    (∃ written, putText (Utf8.bytesOf text) = .ok written) ↔ IsShort text := by
  constructor
  · rintro ⟨written, put⟩
    exact (putText_eq_ok_iff.mp put).1
  · intro short
    exact ⟨_, putText_eq_ok_iff.mpr ⟨short, rfl⟩⟩

theorem exists_putHost {host : Option String} :
    (∃ written, putHost host = .ok written) ↔ ∀ text ∈ host, IsShort text := by
  cases host with
  | none => exact ⟨by rintro _ _ ⟨⟩, fun _ => ⟨[0], rfl⟩⟩
  | some text =>
    constructor
    · rintro ⟨written, put⟩ _ ⟨⟩
      obtain ⟨part, textPut, -⟩ := Outcome.map_eq_ok_iff.mp put
      exact exists_putText.mp ⟨part, textPut⟩
    · intro short
      obtain ⟨part, textPut⟩ := exists_putText.mpr (short text rfl)
      exact ⟨_, Outcome.map_eq_ok_iff.mpr ⟨part, textPut, rfl⟩⟩

/-- What a record needs for a form: the directory is the spelling of a text, and the lengths of
the texts fit in two bytes. -/
structure Fits (record : FactoryRecord) : Prop where
  directory : ∃ text, record.directory = Utf8.bytesOf text ∧ IsShort text
  clientHost : ∀ host ∈ record.clientHost, IsShort host
  serverHost : ∀ host ∈ record.serverHost, IsShort host
  namePrefix : IsShort record.namePrefix
  nameSuffix : IsShort record.nameSuffix

theorem exists_form : (∃ bytes, Form record bytes) ↔ record.Fits := by
  constructor
  · rintro ⟨_, directoryPut, clientPut, serverPut, prefixPut, suffixPut⟩
    exact {
      directory := ⟨_, rfl, exists_putText.mp ⟨_, directoryPut⟩⟩
      clientHost := exists_putHost.mp ⟨_, clientPut⟩
      serverHost := exists_putHost.mp ⟨_, serverPut⟩
      namePrefix := exists_putText.mp ⟨_, prefixPut⟩
      nameSuffix := exists_putText.mp ⟨_, suffixPut⟩ }
  · rintro ⟨⟨text, isText, short⟩, clientShort, serverShort, prefixShort, suffixShort⟩
    obtain ⟨_, directoryPut⟩ := exists_putText.mpr short
    obtain ⟨_, clientPut⟩ := exists_putHost.mpr clientShort
    obtain ⟨_, serverPut⟩ := exists_putHost.mpr serverShort
    obtain ⟨_, prefixPut⟩ := exists_putText.mpr prefixShort
    obtain ⟨_, suffixPut⟩ := exists_putText.mpr suffixShort
    obtain ⟨path, registryPort, clientHost, serverHost, namePrefix, nameSuffix⟩ := record
    cases isText
    exact ⟨_, .parts directoryPut clientPut serverPut prefixPut suffixPut⟩

end Fit

/-- Writing and reading agree on the form. -/
theorem encode_eq_ok_iff : record.encode = .ok bytes ↔ Form record bytes :=
  Outcome.mapError_eq_ok_iff.trans encodeBytes_eq_ok_iff

theorem decode_eq_ok_iff : decode bytes = .ok record ↔ Form record bytes :=
  Outcome.mapError_eq_ok_iff.trans decodeBytes_eq_ok_iff

/-- Records and their forms. A record is written exactly if its directory is text and no text in
it has more than 65535 bytes; what was written is read as the same record, and whatever is read
as a record is what the record is written as. So no two byte strings are read as one record. -/
theorem forms_read_back :
    (∀ record : FactoryRecord, (∃ bytes, record.encode = .ok bytes) ↔ record.Fits) ∧
    (∀ record bytes, record.encode = .ok bytes ↔ decode bytes = .ok record) ∧
    (∀ record first second, decode first = .ok record → decode second = .ok record →
      first = second) := by
  have agree : ∀ record bytes, record.encode = .ok bytes ↔ decode bytes = .ok record := by
    intro record bytes
    rw [encode_eq_ok_iff, decode_eq_ok_iff]
  refine ⟨?_, agree, ?_⟩
  · intro record
    simp only [encode_eq_ok_iff]
    exact exists_form
  · intro record first second readFirst readSecond
    have written := (agree record first).mpr readFirst
    rw [(agree record second).mpr readSecond] at written
    exact (Except.ok.inj written).symm

/-- A directory beyond ASCII, plain-file mode, one host and no name prefix. -/
theorem forms_read_back_accented :
    let record : FactoryRecord := ⟨Path.ofText "/ä", -2, none, some "::1", "", ".rmi"⟩
    ∃ bytes, record.encode = .ok bytes ∧ decode bytes = .ok record ∧
      bytes = [1, 0, 3, 47, 195, 164, 255, 255, 255, 254, 0, 1, 0, 3, 58, 58, 49, 0, 0,
        0, 4, 46, 114, 109, 105] := by
  intro record
  have fits : record.Fits := {
    directory := ⟨"/ä", rfl, by unfold IsShort; decide⟩
    clientHost := by rintro _ ⟨⟩
    serverHost := by rintro _ ⟨⟩; unfold IsShort; decide
    namePrefix := by unfold IsShort; decide
    nameSuffix := by unfold IsShort; decide }
  obtain ⟨bytes, written⟩ := (forms_read_back.1 record).mpr fits
  have read := (forms_read_back.2.1 record bytes).mp written
  have shown : decode [1, 0, 3, 47, 195, 164, 255, 255, 255, 254, 0, 1, 0, 3, 58, 58, 49, 0, 0,
      0, 4, 46, 114, 109, 105] = .ok record :=
    Outcome.mapError_eq_ok_iff.mpr (by decide +kernel)
  exact ⟨bytes, written, read, forms_read_back.2.2 record _ _ read shown⟩

end SocketMux.FactoryRecord
