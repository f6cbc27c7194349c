import SocketMux.Cluster.Address
import SocketMux.Proofs.Wire

/-!
# Descriptors that are read and written

Every list of twenty bytes is a descriptor, and writing what was read gives the bytes back
(`Fields.decode_of_length`). What is read goes by its names: a kind or a scope that has a
name is never kept as a bare number (`Fields.IsNamed`). So writing forgets whether a value
went by its name, and nothing else (`Fields.decode_encode`).
-/

namespace SocketMux.Cluster

namespace Kind

/-- Whether a kind goes by its name if it has one. -/
def IsNamed (kind : Kind) : Prop := ofValue kind.value = kind

instance (kind : Kind) : Decidable kind.IsNamed := inferInstanceAs (Decidable (_ = _))

theorem isNamed_ofValue (value : UInt32) : (ofValue value).IsNamed := by
  rw [IsNamed, value_ofValue]

end Kind

namespace Scope

/-- Whether a scope goes by its name if it has one. -/
def IsNamed (scope : Scope) : Prop := ofValue scope.value = scope

instance (scope : Scope) : Decidable scope.IsNamed := inferInstanceAs (Decidable (_ = _))

theorem isNamed_ofValue (value : UInt32) : (ofValue value).IsNamed := by
  rw [IsNamed, value_ofValue]

end Scope

namespace Fields

variable {bytes : List UInt8}

/-- Values that go by their names. -/
structure IsNamed (fields : Fields) : Prop where
  kind : fields.kind.IsNamed
  scope : fields.scope.IsNamed

/-- The same values, by their names. -/
def named (fields : Fields) : Fields where
  kind := .ofValue fields.kind.value
  scope := .ofValue fields.scope.value
  a := fields.a
  b := fields.b
  c := fields.c

theorem named_eq_self_iff {fields : Fields} : fields.named = fields ↔ fields.IsNamed := by
  constructor
  · intro same
    exact ⟨congrArg Fields.kind same, congrArg Fields.scope same⟩
  · rintro ⟨kind, scope⟩
    unfold named
    rw [kind, scope]

/-- A word stands in front of more than three bytes. -/
theorem exists_word32 {others : Nat} (enough : bytes.length = others + 4) :
    ∃ word rest, bytes = Wire.word32 word ++ rest ∧ rest.length = others := by
  match bytes, enough with
  | first :: second :: third :: fourth :: rest, enough =>
    refine ⟨Wire.ofBytes32 first second third fourth, rest, ?_, ?_⟩
    · rw [Wire.word32_ofBytes32]
      rfl
    · simpa using enough

/-- Twenty bytes are what five values are written as. -/
theorem exists_encode (whole : bytes.length = descriptorLength) :
    ∃ fields : Fields, fields.IsNamed ∧ fields.encode = bytes := by
  obtain ⟨kind, later, rfl, sixteen⟩ := exists_word32 (show bytes.length = 16 + 4 from whole)
  obtain ⟨scope, later, rfl, twelve⟩ := exists_word32 (show later.length = 12 + 4 from sixteen)
  obtain ⟨a, later, rfl, eight⟩ := exists_word32 (show later.length = 8 + 4 from twelve)
  obtain ⟨b, later, rfl, four⟩ := exists_word32 (show later.length = 4 + 4 from eight)
  obtain ⟨c, later, rfl, none⟩ := exists_word32 (show later.length = 0 + 4 from four)
  obtain rfl : later = [] := List.length_eq_zero_iff.mp none
  refine ⟨⟨.ofValue kind, .ofValue scope, a, b, c⟩, ⟨?_, ?_⟩, ?_⟩
  · exact Kind.isNamed_ofValue kind
  · exact Scope.isNamed_ofValue scope
  · simp only [encode, Kind.value_ofValue, Scope.value_ofValue, List.append_assoc, List.append_nil]

/-- What is written is read by its names. -/
theorem takeWords?_encode (fields : Fields) : takeWords? fields.encode = some fields.named := by
  have last : Wire.takeWord32? (Wire.word32 fields.c) = some (fields.c, []) := by
    have read := Wire.takeWord32?_word32 fields.c []
    rwa [List.append_nil] at read
  simp only [takeWords?, encode, List.append_assoc, Wire.takeWord32?_word32, last,
    Option.bind_eq_bind, Option.bind_some, Option.pure_def]
  rfl

theorem decode_encode (fields : Fields) : decode fields.encode = .ok fields.named := by
  have nonempty : fields.encode ≠ [] := List.cons_ne_nil _ _
  have whole : fields.encode.length = descriptorLength := rfl
  simp [decode, nonempty, whole, takeWords?_encode]

/-- Twenty bytes are a descriptor. -/
theorem decode_of_length (whole : bytes.length = descriptorLength) :
    ∃ fields, decode bytes = .ok fields ∧ fields.IsNamed ∧ fields.encode = bytes := by
  obtain ⟨fields, isNamed, rfl⟩ := exists_encode whole
  refine ⟨fields, ?_, isNamed, rfl⟩
  rw [decode_encode, named_eq_self_iff.mpr isNamed]

/-- Only twenty bytes are a descriptor. -/
theorem length_of_decode {fields : Fields} (read : decode bytes = .ok fields) :
    bytes.length = descriptorLength := by
  unfold decode at read
  split at read
  · cases read
  · dsimp only at read
    split at read
    · cases read
    · next whole => exact Decidable.not_not.mp whole

/-- What was read goes by its names, and is written as it was. -/
theorem encode_of_decode {fields : Fields} (read : decode bytes = .ok fields) :
    fields.IsNamed ∧ fields.encode = bytes := by
  obtain ⟨other, decoded, isNamed, written⟩ := decode_of_length (length_of_decode read)
  obtain rfl := Except.ok.inj (decoded.symm.trans read)
  exact ⟨isNamed, written⟩

/-- How five values stand in a descriptor: each as a number of four bytes, the most significant
one first. -/
structure StandsIn (fields : Fields) (bytes : List UInt8) : Prop where
  whole : bytes.length = descriptorLength
  kind : Wire.numberAt 0 bytes = fields.kind.value.toNat
  scope : Wire.numberAt 4 bytes = fields.scope.value.toNat
  a : Wire.numberAt 8 bytes = fields.a.toNat
  b : Wire.numberAt 12 bytes = fields.b.toNat
  c : Wire.numberAt 16 bytes = fields.c.toNat

theorem standsIn_encode (fields : Fields) : fields.StandsIn fields.encode where
  whole := rfl
  kind := Wire.number_word32 fields.kind.value
  scope := Wire.number_word32 fields.scope.value
  a := Wire.number_word32 fields.a
  b := Wire.number_word32 fields.b
  c := Wire.number_word32 fields.c

/-- Descriptors and their five values. A byte string is read exactly if it has twenty bytes, and
otherwise refused by its length. What was read stands in the bytes and is written as them, and
five words that are written are read again. -/
theorem descriptors_read_back :
    (∀ bytes, (∃ fields, decode bytes = .ok fields) ↔ bytes.length = descriptorLength) ∧
    decode [] = .error .emptyAddress ∧
    (∀ bytes, bytes ≠ [] → bytes.length ≠ descriptorLength →
      decode bytes = .error (.invalidLength family descriptorLength bytes.length)) ∧
    (∀ bytes fields, decode bytes = .ok fields →
      fields.encode = bytes ∧ fields.StandsIn bytes) ∧
    ∀ kind scope a b c : UInt32,
      decode (encode ⟨.ofValue kind, .ofValue scope, a, b, c⟩) =
        .ok ⟨.ofValue kind, .ofValue scope, a, b, c⟩ ∧
      (Kind.ofValue kind).value = kind ∧ (Scope.ofValue scope).value = scope := by
  refine ⟨?_, rfl, ?_, ?_, ?_⟩
  · intro bytes
    constructor
    · rintro ⟨fields, read⟩
      exact length_of_decode read
    · intro whole
      obtain ⟨fields, read, -⟩ := decode_of_length whole
      exact ⟨fields, read⟩
  · intro bytes nonempty short
    unfold decode
    rw [if_neg nonempty]
    exact if_pos short
  · intro bytes fields read
    obtain ⟨-, rfl⟩ := encode_of_decode read
    exact ⟨rfl, fields.standsIn_encode⟩
  · intro kind scope a b c
    have isNamed : IsNamed ⟨.ofValue kind, .ofValue scope, a, b, c⟩ :=
      ⟨Kind.isNamed_ofValue kind, Scope.isNamed_ofValue scope⟩
    refine ⟨?_, Kind.value_ofValue kind, Scope.value_ofValue scope⟩
    rw [decode_encode, named_eq_self_iff.mpr isNamed]

/-- A kind without a name, a scope with one and a field whose four bytes differ; and a byte too
many. -/
theorem descriptors_read_back_unnamed :
    let bytes : List UInt8 := [0, 0, 0, 77, 0, 0, 0, 3, 1, 2, 3, 4, 255, 255, 255, 255, 0, 0, 0, 0]
    (∃ fields, decode bytes = .ok fields ∧ fields.encode = bytes ∧ fields.StandsIn bytes ∧
      fields.kind.value = 77 ∧ fields.a = 0x01020304) ∧
    bytes ++ [0] ≠ [] ∧ (bytes ++ [0]).length ≠ descriptorLength ∧
      decode (bytes ++ [0]) = .error (.invalidLength "tipc" 20 21) := by
  intro bytes
  obtain ⟨read, -, refused, written, -⟩ := descriptors_read_back
  obtain ⟨fields, decoded⟩ := (read bytes).mpr rfl
  obtain ⟨again, stands⟩ := written bytes fields decoded
  refine ⟨⟨fields, decoded, again, stands, ?_, ?_⟩, by decide, by decide,
    refused (bytes ++ [0]) (by decide) (by decide)⟩
  · exact UInt32.toNat_inj.mp (stands.kind.symm.trans rfl)
  · exact UInt32.toNat_inj.mp (stands.a.symm.trans rfl)

end Fields

end SocketMux.Cluster
