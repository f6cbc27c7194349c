import Mathlib.Data.List.Nodup
import SocketMux.Proofs.Pool

/-!
# Pools in use

A pool is asked to hand out ports, to take them back, to list those in use and to close, in any
order (`PortPool.Call`), and a run of calls keeps what was asked and what came of it
(`PortPool.Used`). What a pool answers is read off the calls before: until it is closed it has
handed out the ports from 110000 on in turn, and a port is in use if it was handed out and not
taken back since (`PortPool.InUse`); once closed it refuses everything (`Used.inTurnUntilClosed`).

The search for a free port is bounded in its definition. `PortPool.Scans` is the search without
a bound, and the port that is handed out is where it ends.
-/

namespace SocketMux.PortPool

/-- What a pool can be asked for. -/
inductive Call where
  | allocate
  | release (port : Port)
  | snapshot
  | close
deriving DecidableEq, Repr

/-- What comes of a call. -/
inductive Answer where
  | granted (port : Port)
  /-- A port was taken back, or had not been in use. -/
  | released (was : Bool)
  | listed (ports : List Port)
  | closed
  | refused (err : MuxError)

/-- What comes of a call on a pool. -/
def call (pool : PortPool) : Call → Answer × PortPool
  | .allocate =>
    match pool.allocate with
    | .ok (port, after) => (.granted port, after)
    | .error err => (.refused err, pool)
  | .release port =>
    match pool.release port with
    | .ok (was, after) => (.released was, after)
    | .error err => (.refused err, pool)
  | .snapshot =>
    match pool.snapshot with
    | .ok ports => (.listed ports, pool)
    | .error err => (.refused err, pool)
  | .close => (.closed, pool.close)

/-- A call and what came of it. -/
structure Use where
  call : Call
  answer : Answer

/-- A pool after calls in turn, the latest first. -/
inductive Used : List Use → PortPool → Prop where
  | fresh : Used [] .initial
  | more {uses : List Use} {pool : PortPool} (earlier : Used uses pool) (call : Call) :
      Used (⟨call, (pool.call call).1⟩ :: uses) (pool.call call).2

/-- The port that was handed out, if one was. -/
def Use.granted? (use : Use) : Option Port :=
  match use.answer with
  | .granted port => some port
  | _ => none

/-- The ports that were handed out, the latest first. -/
def granted (uses : List Use) : List Port := uses.filterMap Use.granted?

/-- Whether a pool was closed. -/
def WasClosed (uses : List Use) : Prop := ∃ use ∈ uses, use.call = .close

/-- Whether a port was handed out and not taken back since. -/
def InUse (port : Port) (uses : List Use) : Prop :=
  ∃ since before, uses = since ++ ⟨.allocate, .granted port⟩ :: before ∧
    ∀ use ∈ since, use.call ≠ .release port

/-- The search for a free port from one port on ends at another one. -/
inductive Scans (held : List Port) : Port → Port → Prop where
  | free {port : Port} (unused : port ∉ held) : Scans held port port
  | taken {port last : Port} (used : port ∈ held) (later : Scans held (successor port) last) :
      Scans held port last

variable {uses : List Use} {use : Use} {pool : PortPool} {port : Port}

section Reading

theorem wasClosed_cons : WasClosed (use :: uses) ↔ use.call = .close ∨ WasClosed uses := by
  simp [WasClosed]

/-- A port is in use by the latest call, or it was before and the call did not take it back. -/
theorem inUse_cons : InUse port (use :: uses) ↔
    use = ⟨.allocate, .granted port⟩ ∨ use.call ≠ .release port ∧ InUse port uses := by
  constructor
  · rintro ⟨since, before, same, kept⟩
    cases since with
    | nil => exact .inl (List.cons.inj same).1
    | cons latest since =>
      obtain ⟨rfl, rfl⟩ := List.cons.inj same
      obtain ⟨latestKept, othersKept⟩ := List.forall_mem_cons.mp kept
      exact .inr ⟨latestKept, since, before, rfl, othersKept⟩
  · rintro (rfl | ⟨kept, since, before, rfl, othersKept⟩)
    · exact ⟨[], uses, rfl, nofun⟩
    · exact ⟨use :: since, before, rfl, List.forall_mem_cons.mpr ⟨kept, othersKept⟩⟩

/-- No port is in use of a pool that was not asked for one. -/
theorem not_inUse_nil : ¬InUse port [] := by
  rintro ⟨since, before, same, -⟩
  cases since <;> cases same

/-- In an ordered list the search for a port ends at the right place. -/
theorem holds_iff_mem {held : List Port}
    (descending : held.Pairwise fun left right => right < left) :
    holds port held = true ↔ port ∈ held := by
  induction held with
  | nil => simp [holds]
  | cons first rest inductionHypothesis =>
    obtain ⟨above, later⟩ := List.pairwise_cons.mp descending
    rw [holds, List.mem_cons]
    split
    · next below =>
      rw [inductionHypothesis later]
      exact (or_iff_right (Int32.ne_of_lt below)).symm
    · next notBelow =>
      rw [beq_iff_eq]
      exact (or_iff_left fun member => notBelow (above port member)).symm

end Reading

section Closed

/-- A pool is closed by a call for that and by no other. -/
theorem closed_call (pool : PortPool) (call : Call) :
    (pool.call call).2.closed = true ↔ call = .close ∨ pool.closed = true := by
  cases call with
  | allocate =>
    unfold PortPool.call
    dsimp only
    split
    · next granted =>
      obtain ⟨wasOpen, -, isOpen, -⟩ := allocate_ok granted
      simp [wasOpen, isOpen]
    · simp
  | release port =>
    unfold PortPool.call
    dsimp only
    split
    · next returned =>
      obtain ⟨wasOpen, rfl⟩ := release_ok returned
      simp [wasOpen]
    · simp
  | snapshot =>
    unfold PortPool.call
    dsimp only
    split <;> simp
  | close => simp [PortPool.call, close]

theorem Used.closed_iff (used : Used uses pool) : pool.closed = true ↔ WasClosed uses := by
  induction used with
  | fresh => simp [initial, WasClosed]
  | more earlier call inductionHypothesis =>
    rw [closed_call, wasClosed_cons, inductionHypothesis]

/-- Whether a pool refuses to hand out, to take back and to list ports. -/
structure Refuses (pool : PortPool) : Prop where
  allocate : pool.allocate = .error (.unavailable .poolClosed)
  release : ∀ port, pool.release port = .error (.unavailable .poolClosed)
  snapshot : pool.snapshot = .error (.unavailable .poolClosed)

theorem refuses_of_closed (closed : pool.closed = true) : pool.Refuses where
  allocate := if_pos closed
  release _ := if_pos closed
  snapshot := if_pos closed

end Closed

section Open

/-- The ports that an open pool holds are those in use. -/
theorem Used.issued (used : Used uses pool) (bounded : (granted uses).length < capacity)
    (unclosed : ¬WasClosed uses) :
    Issued (granted uses).length pool ∧ ∀ port, port ∈ pool.held ↔ InUse port uses := by
  induction used with
  | fresh => exact ⟨.initial, fun port => ⟨nofun, fun inUse => absurd inUse not_inUse_nil⟩⟩
  | @more uses pool earlier call inductionHypothesis =>
    have fewer : (granted uses).length ≤ (granted (⟨call, (pool.call call).1⟩ :: uses)).length :=
      ((List.sublist_cons_self _ _).filterMap _).length_le
    obtain ⟨issued, held⟩ := inductionHypothesis (by omega)
      fun closed => unclosed (wasClosed_cons.mpr (.inr closed))
    cases call with
    | allocate =>
      obtain ⟨after, allocated, heldAfter, issuedAfter⟩ := issued.allocate (by omega)
      simp only [PortPool.call, allocated]
      refine ⟨issuedAfter, fun port => ?_⟩
      rw [heldAfter, List.mem_cons, held, inUse_cons]
      simp [eq_comm]
    | release returned =>
      obtain ⟨was, after, taken, heldAfter, issuedAfter⟩ := issued.release returned
      simp only [PortPool.call, taken]
      refine ⟨issuedAfter, fun port => ?_⟩
      rw [heldAfter, issued.nodup.mem_erase_iff, held, inUse_cons]
      simp [eq_comm]
    | snapshot =>
      obtain ⟨ports, listed, -⟩ := issued.snapshot
      simp only [PortPool.call, listed]
      refine ⟨issued, fun port => ?_⟩
      rw [held, inUse_cons]
      simp
    | close => exact absurd (wasClosed_cons.mpr (.inl rfl)) unclosed

/-- Ports are handed out in turn, whatever happens in between. -/
theorem Used.granted_eq (used : Used uses pool) (bounded : (granted uses).length < capacity) :
    (granted uses).reverse = (List.range (granted uses).length).map nth := by
  induction used with
  | fresh => rfl
  | @more uses pool earlier call inductionHypothesis =>
    cases outcome : Use.granted? ⟨call, (pool.call call).1⟩ with
    | none =>
      have same : granted (⟨call, (pool.call call).1⟩ :: uses) = granted uses :=
        List.filterMap_cons_none outcome
      rw [same] at bounded ⊢
      exact inductionHypothesis bounded
    | some port =>
      have more : granted (⟨call, (pool.call call).1⟩ :: uses) = port :: granted uses :=
        List.filterMap_cons_some outcome
      rw [more] at bounded ⊢
      rw [List.length_cons] at bounded
      obtain rfl : port = nth (granted uses).length := by
        cases call with
        | allocate =>
          have unclosed : ¬WasClosed uses := by
            intro closed
            have refuses := refuses_of_closed (earlier.closed_iff.mpr closed)
            simp [PortPool.call, refuses.allocate, Use.granted?] at outcome
          obtain ⟨issued, -⟩ := earlier.issued (Nat.lt_of_succ_lt bounded) unclosed
          obtain ⟨after, allocated, -⟩ := issued.allocate (Nat.lt_of_succ_lt bounded)
          simpa [PortPool.call, allocated, Use.granted?, eq_comm] using outcome
        | release port =>
          unfold PortPool.call at outcome
          dsimp only at outcome
          split at outcome <;> cases outcome
        | snapshot =>
          unfold PortPool.call at outcome
          dsimp only at outcome
          split at outcome <;> cases outcome
        | close => cases outcome
      rw [List.reverse_cons, inductionHypothesis (Nat.lt_of_succ_lt bounded), List.length_cons,
        List.range_succ, List.map_append]
      rfl

end Open

/-- What a pool does after some calls, whatever they were. -/
structure Serves (uses : List Use) (pool : PortPool) : Prop where
  /-- The ports that were handed out are those from 110000 on, in turn and each once. -/
  inTurn : ∀ (index : Nat) (port : Port), (granted uses).reverse[index]? = some port →
    port.toInt = 110000 + index
  once : (granted uses).Nodup
  /-- An open pool hands out the next port, at which its search ends. -/
  allocate : ¬WasClosed uses → ∃ port after, pool.allocate = .ok (port, after) ∧
    port.toInt = 110000 + (granted uses).length ∧ Scans pool.held pool.next port
  /-- It tells whether a port was in use, and nothing happens to one that was not. -/
  release : ¬WasClosed uses → ∀ port, ∃ was after, pool.release port = .ok (was, after) ∧
    (was = true ↔ InUse port uses) ∧ (was = false → after = pool)
  snapshot : ¬WasClosed uses → ∃ ports, pool.snapshot = .ok ports ∧ ports.Pairwise (· < ·) ∧
    ∀ port, port ∈ ports ↔ InUse port uses
  refuses : WasClosed uses → pool.Refuses

/-- In the course of any calls that come to fewer than 2147373648 ports, an open pool hands out
the next port and never fails to, it tells which ports are in use and takes them back, and once
closed it refuses everything. -/
theorem Used.inTurnUntilClosed (used : Used uses pool)
    (bounded : (granted uses).length < capacity) : Serves uses pool := by
  have numbered : ∀ (index : Nat) (port : Port), (granted uses).reverse[index]? = some port →
      port.toInt = 110000 + index := by
    intro index port found
    rw [used.granted_eq bounded, List.getElem?_map] at found
    obtain ⟨count, place, rfl⟩ := Option.map_eq_some_iff.mp found
    obtain ⟨inRange, rfl⟩ := List.getElem?_eq_some_iff.mp place
    rw [List.length_range] at inRange
    rw [List.getElem_range]
    exact toInt_nth (Nat.lt_trans inRange bounded)
  refine ⟨numbered, ?_, fun unclosed => ?_, fun unclosed port => ?_, fun unclosed => ?_,
    fun closed => refuses_of_closed (used.closed_iff.mpr closed)⟩
  · rw [← List.nodup_reverse, List.nodup_iff_injective_get]
    intro first second same
    have former := numbered first _ (List.getElem?_eq_getElem first.isLt)
    have latter := numbered second _ (List.getElem?_eq_getElem second.isLt)
    simp only [List.get_eq_getElem] at same
    rw [same] at former
    exact Fin.ext (by omega)
  · obtain ⟨issued, -⟩ := used.issued bounded unclosed
    obtain ⟨after, allocated, -⟩ := issued.allocate bounded
    refine ⟨_, after, allocated, toInt_nth bounded, ?_⟩
    rw [issued.next bounded]
    exact .free fun member => Int32.lt_irrefl (issued.above bounded _ member)
  · obtain ⟨issued, held⟩ := used.issued bounded unclosed
    have opened : ¬pool.closed = true := fun closed => unclosed (used.closed_iff.mp closed)
    have known : holds port pool.held = true ↔ port ∈ pool.held := holds_iff_mem issued.descending
    refine ⟨_, _, if_neg opened, known.trans (held port), fun absent => ?_⟩
    have missing : port ∉ pool.held := fun member => by
      rw [known.mpr member] at absent
      cases absent
    rw [List.erase_of_not_mem missing]
  · obtain ⟨issued, held⟩ := used.issued bounded unclosed
    obtain ⟨ports, listed, ascending, same⟩ := issued.snapshot
    exact ⟨ports, listed, ascending, fun port => (same port).trans (held port)⟩

/-- A port that was returned twice is not in use any more and is not the next one, either; and a
pool that was closed refuses everything. -/
theorem Used.inTurnUntilClosed_returned :
    let uses : List Use := [⟨.release 110000, .released false⟩, ⟨.release 110000, .released true⟩,
      ⟨.allocate, .granted 110001⟩, ⟨.allocate, .granted 110000⟩]
    ∃ pool, Used uses pool ∧ (granted uses).length < capacity ∧ Serves uses pool ∧
      (∃ port after, pool.allocate = .ok (port, after) ∧ port.toInt = 110002) ∧
      ¬InUse 110000 uses ∧ InUse 110001 uses ∧ ¬WasClosed uses ∧
      Serves (⟨.close, .closed⟩ :: uses) pool.close ∧ pool.close.Refuses := by
  intro uses
  have used : Used uses ⟨[110001], 110002, false⟩ :=
    (((Used.fresh.more .allocate).more .allocate).more (.release 110000)).more (.release 110000)
  have bounded : (granted uses).length < capacity := by decide
  have serves := used.inTurnUntilClosed bounded
  have unclosed : ¬WasClosed uses := mt used.closed_iff.mpr (by decide)
  have shut := (used.more .close).inTurnUntilClosed bounded
  obtain ⟨port, after, allocated, next, -⟩ := serves.allocate unclosed
  obtain ⟨-, held⟩ := used.issued bounded unclosed
  refine ⟨_, used, bounded, serves, ⟨port, after, allocated, next⟩, ?_, ?_, unclosed, shut,
    shut.refuses (wasClosed_cons.mpr (.inl rfl))⟩
  · rw [← held]
    decide
  · rw [← held]
    decide

end SocketMux.PortPool
