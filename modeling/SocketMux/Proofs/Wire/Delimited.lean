import SocketMux.Proofs.Outcome
import SocketMux.Proofs.Wire

/-!
# Parts that end by themselves

A reader takes a part from the front of a byte string. A part delimits itself for a reader if
the reader comes to the same whatever stands behind the part, and finds everything that ends
within the part cut short (`Delimits`). Parts in a row delimit themselves together
(`Delimits.bind`).
-/

namespace SocketMux.Wire

variable {ε α β : Type} {isShort : ε → Prop} {part later : List UInt8}

/-- A reader finds everything that ends within a byte string cut short. -/
def FindsCut (isShort : ε → Prop) (read : List UInt8 → Except ε α) (bytes : List UInt8) : Prop :=
  ∀ front, front <+: bytes → front ≠ bytes → ∃ err, read front = .error err ∧ isShort err

/-- A part at the front decides what a reader comes to, and nothing less than it does. -/
structure Delimits (isShort : ε → Prop) (read : List UInt8 → Except ε (α × List UInt8))
    (part : List UInt8) (outcome : Except ε α) : Prop where
  whole : ∀ rest, read (part ++ rest) = outcome.map fun value => (value, rest)
  cut : FindsCut isShort read part

/-- What is cut off from two parts in a row ends within the first part or behind it. -/
theorem within_or_behind {front : List UInt8} (within : front <+: part ++ later) :
    (front <+: part ∧ front ≠ part) ∨ ∃ rest, rest <+: later ∧ front = part ++ rest := by
  obtain short | long := List.prefix_or_prefix_of_prefix within (List.prefix_append part later)
  · by_cases same : front = part
    · exact .inr ⟨[], List.nil_prefix, by rw [same, List.append_nil]⟩
    · exact .inl ⟨short, same⟩
  · obtain ⟨rest, rfl⟩ := long
    exact .inr ⟨rest, (List.prefix_append_right_inj part).mp within, rfl⟩

theorem length_lt_of_cut {front : List UInt8} (within : front <+: part) (apart : front ≠ part) :
    front.length < part.length :=
  Nat.lt_of_le_of_ne within.length_le fun same => apart (within.eq_of_length same)

/-- Nothing ends within no bytes. -/
theorem FindsCut.nil {read : List UInt8 → Except ε α} : FindsCut isShort read [] :=
  fun _ within apart => absurd (List.prefix_nil.mp within) apart

namespace Delimits

variable {read : List UInt8 → Except ε (α × List UInt8)} {value : α}

/-- What ends within a part is found whatever is read behind it. -/
theorem cut_bind {outcome : Except ε α} (first : Delimits isShort read part outcome)
    (next : α × List UInt8 → Except ε β) :
    FindsCut isShort (fun bytes => read bytes >>= next) part := by
  intro front within apart
  obtain ⟨err, failed, found⟩ := first.cut front within apart
  exact ⟨err, Outcome.bind_eq_error_iff.mpr (.inl failed), found⟩

/-- What ends within the first part is found by its reader, all else by the next one. -/
theorem findsCut_bind {next : α × List UInt8 → Except ε β}
    (first : Delimits isShort read part (.ok value))
    (second : FindsCut isShort (fun rest => next (value, rest)) later) :
    FindsCut isShort (fun bytes => read bytes >>= next) (part ++ later) := by
  intro front within apart
  obtain ⟨short, cut⟩ | ⟨rest, behind, rfl⟩ := within_or_behind within
  · exact first.cut_bind next front short cut
  · obtain ⟨err, failed, found⟩ := second rest behind fun same => apart (by rw [same])
    exact ⟨err, Outcome.bind_eq_error_iff.mpr (.inr ⟨_, first.whole rest, failed⟩), found⟩

/-- Two parts in a row. -/
theorem bind {next : α × List UInt8 → Except ε (β × List UInt8)} {outcome : Except ε β}
    (first : Delimits isShort read part (.ok value))
    (second : Delimits isShort (fun rest => next (value, rest)) later outcome) :
    Delimits isShort (fun bytes => read bytes >>= next) (part ++ later) outcome where
  whole rest := by
    rw [List.append_assoc, first.whole]
    exact second.whole rest
  cut := first.findsCut_bind second.cut

/-- What comes behind a part may be known without reading more. -/
theorem bind_known {next : α × List UInt8 → Except ε (β × List UInt8)} {outcome : Except ε β}
    (first : Delimits isShort read part (.ok value))
    (known : ∀ rest, next (value, rest) = outcome.map fun result => (result, rest)) :
    Delimits isShort (fun bytes => read bytes >>= next) part outcome where
  whole rest := by
    rw [first.whole]
    exact known rest
  cut := first.cut_bind next

/-- A value that is known without reading takes nothing. -/
theorem pure (value : α) : Delimits isShort (fun bytes => .ok (value, bytes)) [] (.ok value) :=
  ⟨fun _ => rfl, .nil⟩

/-- A part behind its first byte. -/
theorem cons {byte : UInt8} {outcome : Except ε α}
    (empty : ∃ err, read [] = .error err ∧ isShort err)
    (behind : Delimits isShort (fun bytes => read (byte :: bytes)) part outcome) :
    Delimits isShort read (byte :: part) outcome where
  whole rest := behind.whole rest
  cut front within apart := by
    cases front with
    | nil => exact empty
    | cons first front =>
      obtain ⟨rfl, shorter⟩ := List.cons_prefix_cons.mp within
      exact behind.cut front shorter fun same => apart (by rw [same])

/-- A part that is enough for its reader is no part of another one that is. -/
theorem eq_of_prefix {outcome answer : Except ε α}
    (first : Delimits isShort read part outcome) (second : Delimits isShort read later answer)
    (decided : ∀ err, outcome = .error err → ¬isShort err) (within : part <+: later) :
    part = later := by
  by_contra apart
  obtain ⟨err, failed, short⟩ := second.cut part within apart
  have whole := first.whole []
  rw [List.append_nil, failed] at whole
  cases outcome with
  | error other => exact decided other rfl (Except.error.inj whole ▸ short)
  | ok value => cases whole

end Delimits

/-- Fewer bytes than a word has are no word. -/
theorem takeWord16?_eq_none_iff {bytes : List UInt8} :
    takeWord16? bytes = none ↔ bytes.length < 2 := by
  match bytes with
  | [] | [_] => simp [takeWord16?]
  | _ :: _ :: _ => simp [takeWord16?]

theorem takeWord32?_eq_none_iff {bytes : List UInt8} :
    takeWord32? bytes = none ↔ bytes.length < 4 := by
  match bytes with
  | [] | [_] | [_, _] | [_, _, _] => simp [takeWord32?]
  | _ :: _ :: _ :: _ :: _ => simp [takeWord32?]

theorem takeInt32?_eq_none_iff {bytes : List UInt8} :
    takeInt32? bytes = none ↔ bytes.length < 4 := by
  rw [takeInt32?, Option.map_eq_none_iff, takeWord32?_eq_none_iff]

end SocketMux.Wire
