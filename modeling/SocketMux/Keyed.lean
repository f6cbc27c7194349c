/-!
# Keyed lists

Lists of pairs that keep a value for each key. A value that is put under a key takes the
place of the one before, so a key never occurs twice in a list that was built here. The
latest keys come first.
-/

namespace SocketMux.Keyed

variable {κ α : Type} [DecidableEq κ]

/-- The value of a key. -/
def get? (entries : List (κ × α)) (key : κ) : Option α := entries.lookup key

/-- Remove what a key has. -/
def erase (entries : List (κ × α)) (key : κ) : List (κ × α) :=
  entries.filter fun entry => entry.1 != key

/-- Put a value under a key, in the place of what it had. -/
def insert (entries : List (κ × α)) (key : κ) (value : α) : List (κ × α) :=
  (key, value) :: erase entries key

/-- Whether no key occurs twice. -/
def Distinct (entries : List (κ × α)) : Prop := (entries.map Prod.fst).Nodup

/-- Removing a key changes no other look-up. -/
theorem get?_erase (entries : List (κ × α)) (key other : κ) :
    get? (erase entries key) other = if other = key then none else get? entries other := by
  unfold get?
  induction entries with
  | nil => simp [erase]
  | cons entry rest inductionHypothesis =>
    obtain ⟨first, value⟩ := entry
    by_cases same : first = key
    · have skipped : erase ((first, value) :: rest) key = erase rest key := by
        simp [erase, same]
      rw [skipped, inductionHypothesis]
      by_cases asked : other = key
      · simp [asked]
      · have differs : (other == first) = false := by simp [same, asked]
        simp [asked, List.lookup_cons, differs]
    · have kept : erase ((first, value) :: rest) key = (first, value) :: erase rest key := by
        simp [erase, same]
      rw [kept, List.lookup_cons, List.lookup_cons, inductionHypothesis]
      by_cases found : other = first
      · simp [found, same]
      · have differs : (other == first) = false := by simp [found]
        simp [differs]

/-- A value is found under its key, and all others are found as before. -/
theorem get?_insert (entries : List (κ × α)) (key other : κ) (value : α) :
    get? (insert entries key value) other =
      if other = key then some value else get? entries other := by
  by_cases same : other = key
  · simp [get?, insert, same]
  · have differs : (other == key) = false := by simp [same]
    have rest := get?_erase entries key other
    rw [if_neg same] at rest
    simpa [get?, insert, List.lookup_cons, differs, same] using rest

/-- The keys that are left after removing one. -/
theorem mem_erase {entries : List (κ × α)} {key : κ} {entry : κ × α} :
    entry ∈ erase entries key ↔ entry ∈ entries ∧ entry.1 ≠ key := by
  simp [erase]

/-- The keys that there are after putting a value. -/
theorem mem_keys_insert {entries : List (κ × α)} {key other : κ} {value : α} :
    other ∈ (insert entries key value).map Prod.fst ↔
      other = key ∨ other ∈ entries.map Prod.fst := by
  constructor
  · intro present
    rcases List.mem_cons.mp present with here | later
    · exact .inl here
    · obtain ⟨entry, member, same⟩ := List.mem_map.mp later
      exact .inr (List.mem_map.mpr ⟨entry, (mem_erase.mp member).1, same⟩)
  · intro present
    by_cases here : other = key
    · exact List.mem_cons.mpr (.inl here)
    · obtain ⟨entry, member, rfl⟩ := List.mem_map.mp (present.resolve_left here)
      exact List.mem_cons_of_mem _ (List.mem_map.mpr ⟨entry, mem_erase.mpr ⟨member, here⟩, rfl⟩)

/-- Removing what was just put under a key removes what the key had. -/
theorem erase_insert (entries : List (κ × α)) (key : κ) (value : α) :
    erase (insert entries key value) key = erase entries key := by
  simp [erase, insert, List.filter_filter]

/-- What a look-up finds is an entry of the list. -/
theorem mem_of_get? {entries : List (κ × α)} {key : κ} {value : α}
    (found : get? entries key = some value) : (key, value) ∈ entries := by
  obtain ⟨former, latter, rfl, -⟩ := List.lookup_eq_some_iff.mp found
  exact List.mem_append_right _ List.mem_cons_self

/-- With distinct keys a look-up finds the entries of the list. -/
theorem get?_eq_some_iff {entries : List (κ × α)} (distinct : Distinct entries) {key : κ}
    {value : α} : get? entries key = some value ↔ (key, value) ∈ entries := by
  unfold get? Distinct at *
  induction entries with
  | nil => simp
  | cons entry rest inductionHypothesis =>
    obtain ⟨first, other⟩ := entry
    rw [List.map_cons, List.nodup_cons] at distinct
    obtain ⟨absent, others⟩ := distinct
    rw [List.lookup_cons, List.mem_cons]
    by_cases same : key = first
    · subst same
      have later : (key, value) ∉ rest := fun member =>
        absent (List.mem_map.mpr ⟨_, member, rfl⟩)
      simp [later, eq_comm]
    · have differs : (key == first) = false := by simp [same]
      simp [differs, same, inductionHypothesis others]

/-- Removing a key leaves the keys distinct. -/
theorem Distinct.erase {entries : List (κ × α)} (distinct : Distinct entries) (key : κ) :
    Distinct (Keyed.erase entries key) := by
  unfold Distinct at *
  exact distinct.sublist (List.filter_sublist.map Prod.fst)

/-- Putting a value leaves the keys distinct. -/
theorem Distinct.insert {entries : List (κ × α)} (distinct : Distinct entries) (key : κ)
    (value : α) : Distinct (Keyed.insert entries key value) := by
  have others := distinct.erase key
  unfold Distinct at *
  simp only [Keyed.insert, List.map_cons, List.nodup_cons]
  refine ⟨?_, others⟩
  intro present
  obtain ⟨entry, member, same⟩ := List.mem_map.mp present
  exact (mem_erase.mp member).2 same

end SocketMux.Keyed
