/-!
# Cutting sequences at separators

Each operation cuts a list at the first or last occurrence of a separator and
drops the separator itself. The laws beside them say that nothing else is lost.
-/

namespace SocketMux.Text.Cut

variable {α : Type} [DecidableEq α]

/-- Cut at the first occurrence of a separating sequence. -/
def first? (separator : List α) : List α → Option (List α × List α)
  | [] => if separator = [] then some ([], []) else none
  | x :: rest =>
    if separator.isPrefixOf (x :: rest) then
      some ([], (x :: rest).drop separator.length)
    else
      (first? separator rest).map fun (before, after) => (x :: before, after)

/-- Cut at the last occurrence of a separating element. -/
def last? (separator : α) : List α → Option (List α × List α)
  | [] => none
  | x :: rest =>
    match last? separator rest with
    | some (before, after) => some (x :: before, after)
    | none => if x = separator then some ([], rest) else none

/-- The fields between the occurrences of a separating element; there is always at
least one. -/
def fields (separator : α) : List α → List (List α)
  | [] => [[]]
  | x :: rest =>
    if x = separator then [] :: fields separator rest
    else match fields separator rest with
      | [] => [[x]]
      | field :: others => (x :: field) :: others

/-- Drop a given ending, or fail if the sequence does not have it. -/
def dropEnding? (ending sequence : List α) : Option (List α) :=
  if ending.isSuffixOf sequence then
    some (sequence.take (sequence.length - ending.length))
  else none

/-- A cut at the last separator puts the sequence together again, and the separator
does not occur after it. -/
theorem last?_eq_some {separator : α} {sequence before after : List α}
    (cut : last? separator sequence = some (before, after)) :
    sequence = before ++ separator :: after ∧ separator ∉ after := by
  induction sequence generalizing before with
  | nil => simp [last?] at cut
  | cons x rest inductionHypothesis =>
    cases found : last? separator rest with
    | some pair =>
      obtain ⟨inner, tail⟩ := pair
      simp only [last?, found, Option.some.injEq, Prod.mk.injEq] at cut
      obtain ⟨rfl, rfl⟩ := cut
      obtain ⟨whole, absent⟩ := inductionHypothesis found
      exact ⟨by rw [whole]; rfl, absent⟩
    | none =>
      simp only [last?, found] at cut
      split at cut
      · next same =>
        simp only [Option.some.injEq, Prod.mk.injEq] at cut
        obtain ⟨rfl, rfl⟩ := cut
        refine ⟨by rw [same]; rfl, ?_⟩
        clear inductionHypothesis
        induction rest with
        | nil => simp
        | cons y more next =>
          cases deeper : last? separator more with
          | some pair => simp [last?, deeper] at found
          | none =>
            simp only [last?, deeper] at found
            split at found
            · simp at found
            · next different =>
              simp only [List.mem_cons, not_or]
              exact ⟨fun equal => different equal.symm, next deeper⟩
      · simp at cut

end SocketMux.Text.Cut
