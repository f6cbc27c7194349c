import SocketMux.Proofs.Record
import SocketMux.Proofs.Wire.Delimited

/-!
# Records that end by themselves

Each part of a form tells where it ends (`delimits_takeText`, `delimits_takeHost`), so the form
of a record does as well: whatever ends within it is truncated, and whatever stands behind it
is counted as trailing (`forms_delimited`).
-/

namespace SocketMux.FactoryRecord

open SocketMux.Text SocketMux.Wire

/-- The flaw of a form that is cut short. -/
def IsCut (flaw : RecordFlaw) : Prop := flaw = .truncated

section Parts

variable {written : List UInt8}

theorem delimits_takeByte (byte : UInt8) : Delimits IsCut takeByte [byte] (.ok byte) where
  whole _ := rfl
  cut front within apart := by
    have empty : front = [] := List.length_eq_zero_iff.mp
      (Nat.lt_one_iff.mp (length_lt_of_cut within apart))
    exact ⟨_, by rw [empty]; rfl, rfl⟩

theorem delimits_takePort (port : Port) :
    Delimits IsCut takePort (Wire.int32 port) (.ok port) where
  whole _ := takePort_eq_ok_iff.mpr rfl
  cut front within apart := by
    have short := takeInt32?_eq_none_iff.mpr (length_lt_of_cut within apart)
    exact ⟨_, by rw [takePort, short], rfl⟩

/-- A text is cut short within its length or within its bytes. -/
theorem delimits_takeText {text : String} (put : putText (Utf8.bytesOf text) = .ok written) :
    Delimits IsCut takeText written (.ok text) where
  whole _ := takeText_eq_ok_iff.mpr ⟨_, put, rfl⟩
  cut front within apart := by
    refine ⟨.truncated, ?_, rfl⟩
    obtain ⟨fits, rfl⟩ := putText_eq_ok_iff.mp put
    unfold takeText
    obtain ⟨short, cut⟩ | ⟨rest, behind, rfl⟩ := within_or_behind within
    · rw [takeWord16?_eq_none_iff.mpr (length_lt_of_cut short cut)]
    · have fewer := length_lt_of_cut behind fun same => apart (by rw [same])
      rw [takeWord16?_word16 (Nat.lt_succ_of_le fits)]
      exact if_pos fewer

/-- A host that may be missing is cut short before its tag or within its text. -/
theorem delimits_takeHost {host : Option String} (put : putHost host = .ok written) :
    Delimits IsCut takeHost written (.ok host) where
  whole _ := takeHost_eq_ok_iff.mpr ⟨_, put, rfl⟩
  cut := by
    cases host with
    | none =>
      cases put
      exact (delimits_takeByte 0).cut_bind _
    | some host =>
      obtain ⟨part, textPut, rfl⟩ := Outcome.map_eq_ok_iff.mp put
      exact (delimits_takeByte 1).findsCut_bind ((delimits_takeText textPut).cut_bind _)

end Parts

variable {record : FactoryRecord} {bytes : List UInt8}

/-- Whatever ends within a form is truncated. -/
theorem findsCut_decodeBytes (form : Form record bytes) : FindsCut IsCut decodeBytes bytes := by
  obtain ⟨directoryPut, clientPut, serverPut, prefixPut, suffixPut⟩ := form
  refine (delimits_takeByte version).findsCut_bind ?_
  refine (delimits_takeText directoryPut).findsCut_bind ?_
  refine (delimits_takePort _).findsCut_bind ?_
  refine (delimits_takeHost clientPut).findsCut_bind ?_
  refine (delimits_takeHost serverPut).findsCut_bind ?_
  refine (delimits_takeText prefixPut).findsCut_bind ?_
  exact (delimits_takeText suffixPut).cut_bind _

/-- Whatever stands behind a form is counted. -/
theorem decodeBytes_append (form : Form record bytes) {more : List UInt8} (some : more ≠ []) :
    decodeBytes (bytes ++ more) = .error (.trailingBytes more.length) := by
  obtain ⟨directoryPut, clientPut, serverPut, prefixPut, suffixPut⟩ := form
  simp only [List.append_assoc]
  refine Outcome.bind_eq_error_iff.mpr (.inr ⟨_, (delimits_takeByte version).whole _, ?_⟩)
  refine Outcome.bind_eq_error_iff.mpr (.inr ⟨_, (delimits_takeText directoryPut).whole _, ?_⟩)
  refine Outcome.bind_eq_error_iff.mpr (.inr ⟨_, (delimits_takePort _).whole _, ?_⟩)
  refine Outcome.bind_eq_error_iff.mpr (.inr ⟨_, (delimits_takeHost clientPut).whole _, ?_⟩)
  refine Outcome.bind_eq_error_iff.mpr (.inr ⟨_, (delimits_takeHost serverPut).whole _, ?_⟩)
  refine Outcome.bind_eq_error_iff.mpr (.inr ⟨_, (delimits_takeText prefixPut).whole _, ?_⟩)
  refine Outcome.bind_eq_error_iff.mpr (.inr ⟨_, (delimits_takeText suffixPut).whole _, ?_⟩)
  exact if_pos some

/-- The form of a record tells where it ends: it is truncated if anything of it is missing, and
bytes behind it are refused by their number. -/
theorem forms_delimited (written : record.encode = .ok bytes) :
    (∀ front, front <+: bytes → front ≠ bytes →
      decode front = .error (.invalidRecord .truncated)) ∧
    ∀ more, more ≠ [] →
      decode (bytes ++ more) = .error (.invalidRecord (.trailingBytes more.length)) := by
  have form := encode_eq_ok_iff.mp written
  constructor
  · intro front within apart
    obtain ⟨_, failed, rfl⟩ := findsCut_decodeBytes form front within apart
    rw [decode, failed]
    rfl
  · intro more some
    rw [decode, decodeBytes_append form some]
    rfl

/-- A form that is cut off within a character of its directory, and one with two bytes behind it
that look like one more text. -/
theorem forms_delimited_accented :
    let record : FactoryRecord := ⟨Path.ofText "/ä", -2, none, some "::1", "", ".rmi"⟩
    let bytes := [1, 0, 3, 47, 195, 164, 255, 255, 255, 254, 0, 1, 0, 3, 58, 58, 49, 0, 0, 0, 4,
      46, 114, 109, 105]
    record.encode = .ok bytes ∧ [1, 0, 3, 47, 195] <+: bytes ∧
      decode [1, 0, 3, 47, 195] = .error (.invalidRecord .truncated) ∧
      decode (bytes ++ [0, 0]) = .error (.invalidRecord (.trailingBytes 2)) := by
  intro record bytes
  have written : record.encode = .ok bytes := Outcome.mapError_eq_ok_iff.mpr (by decide +kernel)
  have within : [1, 0, 3, 47, 195] <+: bytes := by decide
  exact ⟨written, within, (forms_delimited written).1 _ within (by decide),
    (forms_delimited written).2 [0, 0] (by decide)⟩

end SocketMux.FactoryRecord
