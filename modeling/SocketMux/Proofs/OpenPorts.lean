import SocketMux.OpenPorts

/-!
# Listings of ports

A listing holds the ports that it was made of in ascending order (`OpenPorts.ascending_ofList`,
`OpenPorts.perm_ofList`), so the search in it finds exactly these (`OpenPorts.contains_ofList`).
-/

namespace SocketMux

/-- Sorted ports are in ascending order. -/
theorem Port.ascending_mergeSort (ports : List Port) :
    (ports.mergeSort fun left right => decide (left ≤ right)).Pairwise (· ≤ ·) := by
  have transitive : ∀ first second third : Port, decide (first ≤ second) = true →
      decide (second ≤ third) = true → decide (first ≤ third) = true := by
    intro first second third former latter
    rw [decide_eq_true_eq] at former latter ⊢
    exact Int32.le_trans former latter
  have total : ∀ left right : Port, (decide (left ≤ right) || decide (right ≤ left)) = true := by
    intro left right
    simpa using Int32.le_total left right
  exact (List.pairwise_mergeSort transitive total ports).imp of_decide_eq_true

namespace OpenPorts

theorem ascending_ofList (ports : List Port) : (ofList ports).ports.Pairwise (· ≤ ·) :=
  Port.ascending_mergeSort ports

theorem perm_ofList (ports : List Port) : (ofList ports).ports.Perm ports :=
  List.mergeSort_perm ports _

/-- The search ends at the first port that is not too small, and behind it all are greater. -/
theorem occurs_iff {port : Port} {ports : List Port} (ascending : ports.Pairwise (· ≤ ·)) :
    occurs port ports = true ↔ port ∈ ports := by
  induction ports with
  | nil => exact iff_of_false Bool.false_ne_true List.not_mem_nil
  | cons first rest inductionHypothesis =>
    obtain ⟨least, later⟩ := List.pairwise_cons.mp ascending
    rw [occurs, List.mem_cons]
    split
    · next smaller =>
      have apart : port ≠ first := by
        rintro rfl
        exact Int32.lt_irrefl smaller
      rw [inductionHypothesis later, or_iff_right apart]
    · next notSmaller =>
      rw [beq_iff_eq]
      constructor
      · exact fun same => .inl same.symm
      · rintro (same | member)
        · exact same.symm
        · exact Int32.le_antisymm (least port member) (Int32.not_lt.mp notSmaller)

theorem contains_ofList (ports : List Port) (port : Port) :
    (ofList ports).contains port = true ↔ port ∈ ports := by
  rw [contains, occurs_iff (ascending_ofList ports), (perm_ofList ports).mem_iff]

end OpenPorts

end SocketMux
