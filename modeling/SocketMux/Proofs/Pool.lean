import SocketMux.Pool

/-!
# Ports that were handed out

As long as not all ports were handed out, a pool hands out the next one above all others
(`PortPool.Issued.allocate`), whatever was returned in between. So the ports in use are
always below the next one, and no port is handed out twice.

Whatever is done with a pool, it keeps its ports in order and hands out no more than fit
(`PortPool.Reached.tidy`), and until all ports were handed out an open pool is one that has
issued its ports in turn (`PortPool.Reached.issued`). It never hands out a port below the
anonymous ones, also after it has started over (`PortPool.Reached.base_le_port`).
-/

namespace SocketMux.PortPool

/-- The port that is handed out after a number of others. -/
def nth (count : Nat) : Port := Int32.ofNat (110000 + count)

theorem toInt_nth {count : Nat} (bounded : count < capacity) :
    (nth count).toInt = 110000 + count := by
  unfold capacity at bounded
  unfold nth
  rw [Int32.toInt_ofNat_of_lt (by omega)]
  omega

/-- The ports follow each other. -/
theorem successor_nth {count : Nat} (bounded : count + 1 < capacity) :
    successor (nth count) = nth (count + 1) := by
  have current : (nth count).toInt = 110000 + count := toInt_nth (by omega)
  unfold capacity at bounded
  unfold successor
  rw [if_neg]
  · unfold nth
    rw [← Nat.add_assoc, Int32.ofNat_add (110000 + count) 1]
    rfl
  · intro greatest
    rw [greatest] at current
    have value : last.toInt = 2147483647 := by decide
    omega

/-- A port above a descending list is not in it. -/
theorem holds_eq_false {port : Port} {held : List Port} (above : ∀ other ∈ held, other < port) :
    holds port held = false := by
  cases held with
  | nil => rfl
  | cons first rest =>
    have below := Int32.lt_iff_toInt_lt.mp (above first List.mem_cons_self)
    have notBelow : ¬port < first := by
      rw [Int32.lt_iff_toInt_lt]
      omega
    have apart : port ≠ first := by
      rintro rfl
      omega
    rw [holds, if_neg notBelow, beq_eq_false_iff_ne]
    exact apart

/-- A port above a descending list comes in front. -/
theorem insertHeld_eq_cons {port : Port} {held : List Port}
    (above : ∀ other ∈ held, other < port) : insertHeld port held = port :: held := by
  cases held with
  | nil => rfl
  | cons first rest =>
    have below := Int32.lt_iff_toInt_lt.mp (above first List.mem_cons_self)
    have notBelow : ¬port < first := by
      rw [Int32.lt_iff_toInt_lt]
      omega
    rw [insertHeld, if_neg notBelow]

/-- A port above all that are in use is free. -/
theorem search_eq {port : Port} {held : List Port} (above : ∀ other ∈ held, other < port)
    (bound : Nat) : search held bound port = port := by
  cases bound with
  | zero => rfl
  | succ bound =>
    rw [search, holds_eq_false above]
    rfl

/-- An open pool that has handed out a number of ports. -/
structure Issued (count : Nat) (pool : PortPool) : Prop where
  unclosed : pool.closed = false
  descending : pool.held.Pairwise fun left right => right < left
  range : ∀ port ∈ pool.held, 110000 ≤ port.toInt ∧ port.toInt < 110000 + count
  length_le : pool.held.length ≤ count
  next : count < capacity → pool.next = nth count

namespace Issued

variable {pool : PortPool} {count : Nat}

theorem initial : Issued 0 .initial := ⟨rfl, .nil, nofun, Nat.le_refl 0, fun _ => rfl⟩

theorem nodup (issued : Issued count pool) : pool.held.Nodup := by
  refine issued.descending.imp fun {left right} below => ?_
  rintro rfl
  exact Int32.lt_irrefl below

/-- The next port is above all that are in use. -/
theorem above (issued : Issued count pool) (more : count < capacity) :
    ∀ port ∈ pool.held, port < nth count := by
  intro port member
  rw [Int32.lt_iff_toInt_lt, toInt_nth more]
  exact (issued.range port member).2

/-- Until all ports were handed out, the next one is. -/
theorem allocate (issued : Issued count pool) (more : count < capacity) :
    ∃ after, pool.allocate = .ok (nth count, after) ∧ after.held = nth count :: pool.held ∧
      Issued (count + 1) after := by
  have above := issued.above more
  have room : ¬capacity ≤ pool.held.length := by
    have := issued.length_le
    omega
  have allocated : pool.allocate = .ok (nth count,
      { pool with held := nth count :: pool.held, next := successor (nth count) }) := by
    unfold PortPool.allocate
    simp only [issued.unclosed, Bool.false_eq_true, if_false, room, issued.next more,
      search_eq above, insertHeld_eq_cons above]
  refine ⟨_, allocated, rfl, issued.unclosed, ?_, ?_, ?_, successor_nth⟩
  · exact List.pairwise_cons.mpr ⟨above, issued.descending⟩
  · intro port member
    rcases List.mem_cons.mp member with rfl | member
    · have := toInt_nth more
      omega
    · have := issued.range port member
      omega
  · have := issued.length_le
    simp only [List.length_cons]
    omega

/-- Returning a port frees it. -/
theorem release (issued : Issued count pool) (port : Port) :
    ∃ was after, pool.release port = .ok (was, after) ∧ after.held = pool.held.erase port ∧
      Issued count after := by
  refine ⟨holds port pool.held, { pool with held := pool.held.erase port }, ?_, rfl, ?_⟩
  · unfold PortPool.release
    rw [issued.unclosed]
    rfl
  · have fewer : (pool.held.erase port).Sublist pool.held := List.erase_sublist
    exact ⟨issued.unclosed, issued.descending.sublist fewer,
      fun other member => issued.range other (fewer.subset member),
      Nat.le_trans fewer.length_le issued.length_le, issued.next⟩

/-- A snapshot lists the ports in use in ascending order. -/
theorem snapshot (issued : Issued count pool) :
    ∃ ports, pool.snapshot = .ok ports ∧ ports.Pairwise (· < ·) ∧
      ∀ port, port ∈ ports ↔ port ∈ pool.held := by
  refine ⟨pool.held.reverse, ?_, ?_, fun port => List.mem_reverse⟩
  · unfold PortPool.snapshot
    rw [issued.unclosed]
    rfl
  · exact List.pairwise_reverse.mpr issued.descending

end Issued

/-- A pool that has handed out a number of ports, whatever else was done with it. -/
inductive Reached : Nat → PortPool → Prop where
  | initial : Reached 0 .initial
  | allocated {count : Nat} {pool after : PortPool} {port : Port} (earlier : Reached count pool)
      (granted : pool.allocate = .ok (port, after)) : Reached (count + 1) after
  | released {count : Nat} {pool after : PortPool} {port : Port} {was : Bool}
      (earlier : Reached count pool) (returned : pool.release port = .ok (was, after)) :
      Reached count after
  | closed {count : Nat} {pool : PortPool} (earlier : Reached count pool) :
      Reached count pool.close

/-- A pool whose ports are in descending order and no more than it can hand out. -/
structure Tidy (pool : PortPool) : Prop where
  descending : pool.held.Pairwise fun left right => right ≤ left
  length_le : pool.held.length ≤ capacity

theorem mem_insertHeld {port other : Port} {held : List Port} :
    other ∈ insertHeld port held ↔ other = port ∨ other ∈ held := by
  induction held with
  | nil => simp [insertHeld]
  | cons first rest inductionHypothesis =>
    rw [insertHeld]
    split
    · rw [List.mem_cons, inductionHypothesis, List.mem_cons]
      exact or_left_comm
    · exact List.mem_cons

theorem length_insertHeld (port : Port) (held : List Port) :
    (insertHeld port held).length = held.length + 1 := by
  induction held with
  | nil => rfl
  | cons first rest inductionHypothesis =>
    rw [insertHeld]
    split
    · rw [List.length_cons, inductionHypothesis, List.length_cons]
    · rfl

/-- A port that is put in its place and taken out again leaves nothing behind. -/
theorem erase_insertHeld (port : Port) (held : List Port) :
    (insertHeld port held).erase port = held := by
  induction held with
  | nil => simp [insertHeld]
  | cons first rest inductionHypothesis =>
    unfold insertHeld
    split
    · next below =>
      have apart : first ≠ port := by
        rintro rfl
        exact Int32.lt_irrefl below
      rw [List.erase_cons_tail (by simpa using apart), inductionHypothesis]
    · exact List.erase_cons_head ..

/-- A port finds its place in a descending list. -/
theorem descending_insertHeld {port : Port} {held : List Port}
    (descending : held.Pairwise fun left right => right ≤ left) :
    (insertHeld port held).Pairwise fun left right => right ≤ left := by
  induction held with
  | nil => exact List.pairwise_singleton _ _
  | cons first rest inductionHypothesis =>
    obtain ⟨above, later⟩ := List.pairwise_cons.mp descending
    rw [insertHeld]
    split
    · next below =>
      refine List.pairwise_cons.mpr ⟨fun other member => ?_, inductionHypothesis later⟩
      obtain rfl | member := mem_insertHeld.mp member
      · exact Int32.le_of_lt below
      · exact above other member
    · next notBelow =>
      have least : first ≤ port := Int32.not_lt.mp notBelow
      refine List.pairwise_cons.mpr ⟨fun other member => ?_, descending⟩
      obtain rfl | member := List.mem_cons.mp member
      · exact least
      · exact Int32.le_trans (above other member) least

/-- What a pool hands out was put in its place, which there was. -/
theorem allocate_ok {pool after : PortPool} {port : Port}
    (granted : pool.allocate = .ok (port, after)) :
    pool.closed = false ∧ pool.held.length < capacity ∧ after.closed = false ∧
      after.held = insertHeld port pool.held := by
  unfold allocate at granted
  split at granted
  · cases granted
  · next isOpen =>
    split at granted
    · cases granted
    · next room =>
      injection granted with granted
      obtain ⟨rfl, rfl⟩ := Prod.mk.inj granted
      have unclosed : pool.closed = false := by simpa using isOpen
      exact ⟨unclosed, by omega, unclosed, rfl⟩

theorem release_ok {pool after : PortPool} {port : Port} {was : Bool}
    (returned : pool.release port = .ok (was, after)) :
    pool.closed = false ∧ after = { pool with held := pool.held.erase port } := by
  unfold release at returned
  split at returned
  · cases returned
  · next isOpen =>
    injection returned with returned
    exact ⟨by simpa using isOpen, (congrArg Prod.snd returned).symm⟩

namespace Reached

variable {pool : PortPool} {count : Nat}

theorem tidy (reached : Reached count pool) : pool.Tidy := by
  induction reached with
  | initial => exact ⟨.nil, Nat.zero_le _⟩
  | allocated earlier granted inductionHypothesis =>
    obtain ⟨-, room, -, held⟩ := allocate_ok granted
    refine ⟨?_, ?_⟩
    · rw [held]
      exact descending_insertHeld inductionHypothesis.descending
    · rw [held, length_insertHeld]
      exact room
  | released earlier returned inductionHypothesis =>
    obtain ⟨-, rfl⟩ := release_ok returned
    exact ⟨inductionHypothesis.descending.sublist List.erase_sublist,
      Nat.le_trans List.erase_sublist.length_le inductionHypothesis.length_le⟩
  | closed => exact ⟨.nil, Nat.zero_le _⟩

/-- Until all ports were handed out, an open pool has handed them out in turn. -/
theorem issued (reached : Reached count pool) (bounded : count ≤ capacity)
    (unclosed : pool.closed = false) : Issued count pool := by
  induction reached with
  | initial => exact .initial
  | @allocated count pool after port earlier granted inductionHypothesis =>
    have before := inductionHypothesis (Nat.le_of_succ_le bounded) (allocate_ok granted).1
    obtain ⟨other, same, -, issued⟩ := before.allocate bounded
    rw [granted] at same
    injection same with same
    rw [(Prod.mk.inj same).2]
    exact issued
  | @released count pool after port was earlier returned inductionHypothesis =>
    have before := inductionHypothesis bounded (release_ok returned).1
    obtain ⟨_, other, same, -, issued⟩ := before.release port
    rw [returned] at same
    injection same with same
    rw [(Prod.mk.inj same).2]
    exact issued
  | closed => cases unclosed

end Reached

/-- What a pool hands out is where its search has ended, and it goes on after that. -/
theorem allocate_found {pool after : PortPool} {port : Port}
    (granted : pool.allocate = .ok (port, after)) :
    port = search pool.held pool.held.length pool.next ∧ after.next = successor port := by
  unfold allocate at granted
  split at granted
  · cases granted
  · split at granted
    · cases granted
    · injection granted with granted
      obtain ⟨rfl, rfl⟩ := Prod.mk.inj granted
      exact ⟨rfl, rfl⟩

/-- The port after one of those that are handed out is one of them, too. -/
theorem base_le_successor {port : Port} (least : Port.anonymousBase ≤ port) :
    Port.anonymousBase ≤ successor port := by
  unfold successor
  split
  · exact Int32.le_refl _
  · next more =>
    have base : Port.anonymousBase.toInt = 110000 := by decide
    have greatest : last.toInt = 2147483647 := by decide
    have one : (1 : Int32).toInt = 1 := by decide
    have apart : port.toInt ≠ 2147483647 := fun same =>
      more (Int32.toInt_inj.mp (same.trans greatest.symm))
    have bounded := port.toInt_lt
    rw [Int32.le_iff_toInt_le, base] at least ⊢
    rw [Int32.toInt_add, one, Int.bmod_eq_of_le (by omega) (by omega)]
    omega

theorem base_le_search (held : List Port) (bound : Nat) {start : Port}
    (least : Port.anonymousBase ≤ start) : Port.anonymousBase ≤ search held bound start := by
  induction bound generalizing start with
  | zero => exact least
  | succ bound inductionHypothesis =>
    rw [search]
    split
    · exact inductionHypothesis (base_le_successor least)
    · exact least

namespace Reached

variable {pool after : PortPool} {count : Nat} {port : Port}

theorem base_le_next (reached : Reached count pool) : Port.anonymousBase ≤ pool.next := by
  induction reached with
  | initial => exact Int32.le_refl _
  | allocated earlier granted inductionHypothesis =>
    obtain ⟨rfl, next⟩ := allocate_found granted
    rw [next]
    exact base_le_successor (base_le_search _ _ inductionHypothesis)
  | released earlier returned inductionHypothesis =>
    obtain ⟨-, rfl⟩ := release_ok returned
    exact inductionHypothesis
  | closed earlier inductionHypothesis => exact inductionHypothesis

/-- No port below the anonymous ones is ever handed out. -/
theorem base_le_port (reached : Reached count pool) (granted : pool.allocate = .ok (port, after)) :
    Port.anonymousBase ≤ port := by
  rw [(allocate_found granted).1]
  exact base_le_search _ _ reached.base_le_next

end Reached

end SocketMux.PortPool
