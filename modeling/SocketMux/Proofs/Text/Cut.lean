import SocketMux.Text.Cut

/-!
# Sequences that are cut again

A sequence that was put together with a separator is cut into the same parts again, as long
as the separator does not occur in the part that the cut runs through.
-/

namespace SocketMux.Text.Cut

variable {α : Type} [DecidableEq α] {separator : α} {field before after : List α}

/-- The first cut is where the separating sequence starts for the first time. -/
theorem first?_append (absent : separator ∉ before) (others after : List α) :
    first? (separator :: others) (before ++ separator :: (others ++ after)) =
      some (before, after) := by
  induction before with
  | nil => simp [first?]
  | cons x rest inductionHypothesis =>
    have differs : separator ≠ x := fun same => absent (same ▸ List.mem_cons_self)
    have later := inductionHypothesis fun member => absent (List.mem_cons_of_mem _ member)
    simp [first?, differs, later]

/-- Nothing is cut where the separating sequence cannot start. -/
theorem first?_eq_none {sequence : List α} (absent : separator ∉ sequence) (others : List α) :
    first? (separator :: others) sequence = none := by
  induction sequence with
  | nil => rfl
  | cons x rest inductionHypothesis =>
    have differs : separator ≠ x := fun same => absent (same ▸ List.mem_cons_self)
    have later := inductionHypothesis fun member => absent (List.mem_cons_of_mem _ member)
    simp [first?, differs, later]

/-- Cutting takes nothing but the separating sequence away. -/
theorem first?_eq_some {separator sequence : List α}
    (cut : first? separator sequence = some (before, after)) :
    sequence = before ++ (separator ++ after) := by
  induction sequence generalizing before with
  | nil =>
    unfold first? at cut
    split at cut
    · next empty =>
      cases cut
      simpa using empty
    · cases cut
  | cons x rest inductionHypothesis =>
    unfold first? at cut
    split at cut
    · next starts =>
      obtain ⟨tail, same⟩ := List.isPrefixOf_iff_prefix.mp starts
      rw [← same, List.drop_left] at cut
      cases cut
      exact same.symm
    · obtain ⟨⟨front, tail⟩, found, same⟩ := Option.map_eq_some_iff.mp cut
      cases same
      rw [List.cons_append, inductionHypothesis found]

theorem last?_eq_none {sequence : List α} (absent : separator ∉ sequence) :
    last? separator sequence = none := by
  induction sequence with
  | nil => rfl
  | cons x rest inductionHypothesis =>
    have differs : x ≠ separator := fun same => absent (same ▸ List.mem_cons_self)
    rw [last?, inductionHypothesis fun member => absent (List.mem_cons_of_mem _ member)]
    exact if_neg differs

/-- Only what has no separator is not cut. -/
theorem absent_of_last? {sequence : List α} (uncut : last? separator sequence = none) :
    separator ∉ sequence := by
  induction sequence with
  | nil => exact List.not_mem_nil
  | cons x rest inductionHypothesis =>
    rw [last?] at uncut
    split at uncut
    · cases uncut
    · next later =>
      split at uncut
      · cases uncut
      · next differs =>
        rw [List.mem_cons, not_or]
        exact ⟨fun same => differs same.symm, inductionHypothesis later⟩

/-- The last cut is where no separator follows. -/
theorem last?_append (before : List α) (absent : separator ∉ after) :
    last? separator (before ++ separator :: after) = some (before, after) := by
  induction before with
  | nil => simp [last?, last?_eq_none absent]
  | cons x rest inductionHypothesis => simp [last?, inductionHypothesis]

/-- There is one way to cut a sequence at its last separator. -/
theorem eq_of_append_eq {other beyond : List α} (absent : separator ∉ after)
    (missing : separator ∉ beyond)
    (same : before ++ separator :: after = other ++ separator :: beyond) :
    before = other ∧ after = beyond := by
  have cut := last?_append before absent
  rw [same, last?_append other missing] at cut
  obtain ⟨rfl, rfl⟩ := Prod.mk.inj (Option.some.inj cut)
  exact ⟨rfl, rfl⟩

/-- The fields are those of the usual splitting. -/
theorem fields_eq_splitOn (separator : α) (sequence : List α) :
    fields separator sequence = sequence.splitOn separator := by
  induction sequence with
  | nil => rfl
  | cons x rest inductionHypothesis =>
    obtain ⟨field, others, shape⟩ := List.exists_cons_of_ne_nil (List.splitOn_ne_nil separator rest)
    rw [fields, List.splitOn_cons_eq_if_modifyHead, inductionHypothesis, shape]
    simp only [beq_iff_eq]
    rfl

omit [DecidableEq α] in
/-- Joined fields hold nothing but what they hold and the separators between them. -/
theorem mem_intercalate {x : α} {parts : List (List α)}
    (member : x ∈ [separator].intercalate parts) : x = separator ∨ ∃ part ∈ parts, x ∈ part := by
  induction parts with
  | nil => cases member
  | cons first others inductionHypothesis =>
    cases others with
    | nil => exact .inr ⟨first, List.mem_cons_self, by simpa using member⟩
    | cons second others =>
      rw [List.intercalate_cons_cons] at member
      rcases List.mem_append.mp member with early | late
      · rcases List.mem_append.mp early with here | between
        · exact .inr ⟨first, List.mem_cons_self, here⟩
        · exact .inl (List.mem_singleton.mp between)
      · rcases inductionHypothesis late with between | ⟨part, listed, held⟩
        · exact .inl between
        · exact .inr ⟨part, List.mem_cons_of_mem _ listed, held⟩

/-- What is left without an ending is what the ending follows. -/
theorem dropEnding?_eq_some_iff {ending sequence : List α} :
    dropEnding? ending sequence = some before ↔ sequence = before ++ ending := by
  unfold dropEnding?
  constructor
  · intro dropped
    split at dropped
    · next ends =>
      obtain ⟨front, rfl⟩ := List.isSuffixOf_iff_suffix.mp ends
      simpa using dropped
    · cases dropped
  · rintro rfl
    rw [if_pos (List.isSuffixOf_iff_suffix.mpr (List.suffix_append _ _))]
    simp

end SocketMux.Text.Cut
