import SocketMux.Proofs.Lifecycle.Belongings
import SocketMux.Proofs.Outcome

/-!
# Accepts that wait, polled one by one

A host lets an accept take a connection or wait for one at a stroke, hands a connection to an
accept that waits as soon as it arrives, and ends all accepts that wait as soon as their socket
closes. All this is what becomes of the socket when each accept is polled in turn: an accept takes
hold of the socket first and then tries (`Host.beginAccept_eq`); a connection is queued first, and
the accepts then try again, one after another (`Host.connectTo_eq`); a socket that is let go of
stays until the last accept that holds it has been refused (`Host.closeSocket_eq`).

Whatever is done at one socket leaves all other sockets alone, and the accepts that wait there
(`Host.WorksAt`).
-/

namespace SocketMux

/-- Changing rows in turn adds none. -/
theorem Table.size_foldl_modify {α : Type} (table : Table α) (numbers : List Nat)
    (change : α → α) :
    (numbers.foldl (fun table number => table.modify number change) table).size = table.size := by
  induction numbers generalizing table with
  | nil => rfl
  | cons first others inductionHypothesis =>
    rw [List.foldl_cons, inductionHypothesis, size_modify]

namespace Connection

/-- Whether whoever connected finds the connection reset and at its end. -/
def IsReset (connection : Connection) : Prop :=
  connection.caller.reset = true ∧ connection.caller.readEnded = true ∧
    connection.caller.writeEnded = true

/-- A connection that is let go of before it is accepted is reset. -/
theorem isReset_release (connection : Connection) :
    (connection.release .callee false).IsReset := by
  simp [IsReset, release, modify, endAll, Terminal.ended, Side.other]

end Connection

namespace Host

/-- The accepts that wait at a socket. -/
def waitingAt (host : Host) (socket : Nat) : List Nat :=
  (host.sockets.get? socket).elim [] ListeningSocket.waiting

/-- The connections that wait to be accepted at a socket. -/
def queuedAt (host : Host) (socket : Nat) : List Nat :=
  (host.sockets.get? socket).elim [] ListeningSocket.backlog

/-- Queue a fresh connection at a socket, whoever waits there. -/
def queueAt (host : Host) (socket : Nat) : Host :=
  { host with
    connections := (host.connections.add .fresh).2
    sockets := host.sockets.modify socket fun state =>
      { state with backlog := state.backlog ++ [host.connections.size] } }

/-- Let a new accept take hold of a socket. -/
def holdAt (host : Host) (socket : Nat) : Host :=
  { host with
    accepts := (host.accepts.add .waiting).2
    sockets := host.sockets.modify socket fun state =>
      { state with waiting := host.accepts.size :: state.waiting } }

/-- End an accept that waits at a socket. It does not hold the socket any more. -/
def endAccept (host : Host) (socket pending : Nat) (outcome : PendingAccept) : Host :=
  { host with
    accepts := host.accepts.modify pending fun _ => outcome
    sockets := host.sockets.modify socket fun state =>
      { state with waiting := state.waiting.erase pending } }

/-- Let an accept that waits try again. It takes the first connection of the queue, or goes on
to wait and is then the first to be tried. -/
def retryAccept (host : Host) (socket pending : Nat) : Host :=
  match host.accept socket with
  | (some connection, host) => host.endAccept socket pending (.accepted connection)
  | (none, host) =>
    { host with
      sockets := host.sockets.modify socket fun state =>
        { state with waiting := pending :: state.waiting.erase pending } }

/-- Let go of a socket. It closes unless an accept still holds it. -/
def letGo (host : Host) (socket : Nat) : Host :=
  match host.waitingAt socket with
  | [] => host.closeSocket socket
  | _ :: _ => host

/-- Close a socket that nobody holds any more: no accept, and its listener has let go of it. -/
def settle (host : Host) (socket : Nat) (isReleased : Bool) : Host :=
  if isReleased then host.letGo socket else host

/-- Refuse an accept that waits at a socket. -/
def refuseAccept (host : Host) (socket pending : Nat) (isReleased : Bool) : Host :=
  (host.endAccept socket pending .closed).settle socket isReleased

variable {host : Host} {socket pending : Nat} {state : ListeningSocket}

theorem waitingAt_of_found (found : host.sockets.get? socket = some state) :
    host.waitingAt socket = state.waiting := by
  unfold waitingAt
  rw [found]
  rfl

section Polled

/-- An accept that begins takes hold of the socket, and tries at once. -/
theorem beginAccept_eq (host : Host) (socket : Nat) :
    host.beginAccept socket =
      (host.accepts.size, (host.holdAt socket).retryAccept socket host.accepts.size) := by
  have same : (((host.holdAt socket).sockets.get? socket).map ListeningSocket.backlog) =
      (host.sockets.get? socket).map ListeningSocket.backlog := by
    cases found : host.sockets.get? socket <;> simp [holdAt, found]
  cases queued : (host.sockets.get? socket).map ListeningSocket.backlog with
  | none =>
    rw [queued] at same
    simp only [beginAccept, retryAccept, accept, queued, same]
    simp only [holdAt, Table.modify_modify, List.erase_cons_head, Table.add_fst]
  | some backlog =>
    rw [queued] at same
    cases backlog with
    | nil =>
      simp only [beginAccept, retryAccept, accept, queued, same]
      simp only [holdAt, Table.modify_modify, List.erase_cons_head, Table.add_fst]
    | cons first others =>
      simp only [beginAccept, retryAccept, accept, queued, same]
      simp only [endAccept, holdAt, Table.modify_modify, Table.modify_add_size,
        List.erase_cons_head, Table.add_fst]

/-- While nothing is queued, accepts that try again in turn wait on in the opposite order. -/
theorem foldl_retryAccept (tried untried : List Nat)
    (found : host.sockets.get? socket = some state) (empty : state.backlog = [])
    (waiting : state.waiting = tried ++ untried) (distinct : state.waiting.Nodup) :
    untried.foldl (fun host pending => host.retryAccept socket pending) host =
      { host with
        sockets := host.sockets.modify socket fun state =>
          { state with waiting := untried.reverse ++ tried } } := by
  induction untried generalizing host state tried with
  | nil =>
    have same : host.sockets.modify socket (fun state => { state with waiting := tried }) =
        host.sockets := by
      refine Table.modify_eq_self _ _ _ fun row there => ?_
      cases found.symm.trans there
      rw [List.append_nil] at waiting
      rw [← waiting]
    simp only [List.foldl_nil, List.reverse_nil, List.nil_append, same]
  | cons pending untried inductionHypothesis =>
    -- Whoever has tried in vain goes in front of those who tried before.
    have fresh : pending ∉ tried := by
      rw [waiting] at distinct
      exact fun member => List.disjoint_of_nodup_append distinct member List.mem_cons_self
    have erased : (tried ++ pending :: untried).erase pending = tried ++ untried := by
      rw [List.erase_append_right _ fresh, List.erase_cons_head]
    have retried : host.retryAccept socket pending =
        { host with
          sockets := host.sockets.modify socket fun state =>
            { state with waiting := pending :: state.waiting.erase pending } } := by
      simp [retryAccept, accept, found, empty]
    have there : (host.retryAccept socket pending).sockets.get? socket =
        some { state with waiting := pending :: (tried ++ untried) } := by
      simp [retried, found, waiting, erased]
    have again : (pending :: (tried ++ untried)).Nodup := by
      rw [waiting] at distinct
      exact List.nodup_middle.mp distinct
    rw [List.foldl_cons, inductionHypothesis (pending :: tried) there empty rfl again,
      retried]
    simp only [Table.modify_modify, List.reverse_cons, List.append_assoc, List.singleton_append]

/-- A connection that arrives is queued, and all accepts that wait for it try again in turn. -/
theorem connectTo_eq (found : host.sockets.get? socket = some state)
    (idle : state.waiting = [] ∨ state.backlog = []) (distinct : state.waiting.Nodup) :
    (host.connectTo socket).2 =
      state.waiting.foldl (fun host pending => host.retryAccept socket pending)
        (host.queueAt socket) := by
  cases waiting : state.waiting with
  | nil => simp [connectTo, found, waiting, queueAt, Table.add, Table.size]
  | cons first others =>
    have empty : state.backlog = [] := idle.resolve_left (by simp [waiting])
    rw [waiting] at distinct
    have served : (host.queueAt socket).retryAccept socket first =
        { host with
          connections := (host.connections.add .fresh).2
          accepts := host.accepts.modify first fun _ => .accepted host.connections.size
          sockets := host.sockets.modify socket fun state =>
            { state with backlog := [], waiting := state.waiting.erase first } } := by
      simp [queueAt, retryAccept, accept, endAccept, found, empty, Table.modify_modify]
    have there : ((host.queueAt socket).retryAccept socket first).sockets.get? socket =
        some { state with backlog := [], waiting := others } := by
      simp [served, found, waiting]
    rw [List.foldl_cons, foldl_retryAccept [] others there rfl rfl
      (List.nodup_cons.mp distinct).2, served]
    have same : ∀ row, host.sockets.get? socket = some row →
        { row with waiting := others.reverse } =
          { row with backlog := [], waiting := others.reverse } := by
      intro row present
      cases found.symm.trans present
      rw [← empty]
    simp only [connectTo, found, waiting, Option.map_some, Table.modify_modify, List.append_nil,
      Table.modify_congr _ _ same]
    rfl

/-- The end of an accept leaves nothing behind that a close of its socket would not undo. -/
theorem closeSocket_endAccept {others : List Nat} (found : host.sockets.get? socket = some state)
    (waiting : state.waiting = pending :: others) :
    (host.endAccept socket pending .closed).closeSocket socket = host.closeSocket socket := by
  simp [closeSocket, endAccept, found, waiting, Table.modify_modify]

/-- A socket that is let go of closes when the last accept that waits there has been refused. -/
theorem closeSocket_eq {first : Nat} {others : List Nat}
    (found : host.sockets.get? socket = some state) (waiting : state.waiting = first :: others) :
    (first :: others).foldl (fun host pending => host.refuseAccept socket pending true) host =
      host.closeSocket socket := by
  induction others generalizing host state first with
  | nil =>
    have alone : (host.endAccept socket first .closed).waitingAt socket = [] := by
      simp [waitingAt, endAccept, found, waiting]
    simp only [List.foldl_cons, List.foldl_nil, refuseAccept, settle, if_true, letGo, alone]
    exact closeSocket_endAccept found waiting
  | cons second others inductionHypothesis =>
    have ended : (host.endAccept socket first .closed).sockets.get? socket =
        some { state with waiting := second :: others } := by
      simp [endAccept, found, waiting]
    have held : host.refuseAccept socket first true = host.endAccept socket first .closed := by
      simp only [refuseAccept, settle, if_true, letGo, waitingAt_of_found ended]
    rw [List.foldl_cons, held, inductionHypothesis ended rfl]
    exact closeSocket_endAccept found waiting

end Polled

section Apart

/-- No accept and no connection vanishes from a host. -/
structure Grows (before after : Host) : Prop where
  accepts : before.accepts.size ≤ after.accepts.size
  connections : before.connections.size ≤ after.connections.size

/-- Whether only new accepts begin to wait at a socket. -/
def WaitsAnew (socket : Nat) (before after : Host) : Prop :=
  ∀ pending ∈ after.waitingAt socket, pending ∈ before.waitingAt socket ∨
    before.accepts.size ≤ pending ∧ pending < after.accepts.size

/-- Whether two states of a host differ at one socket at most: only accepts that waited there
have ended, and only they and new ones wait there now. -/
structure WorksAt (socket : Nat) (before after : Host) : Prop where
  sockets : ∀ other, other ≠ socket → after.sockets.get? other = before.sockets.get? other
  accepts : ∀ pending, pending ∉ before.waitingAt socket → pending < before.accepts.size →
    after.accepts.get? pending = before.accepts.get? pending
  waiting : before.WaitsAnew socket after
  grows : before.Grows after

variable {before between after : Host}

theorem Grows.refl (host : Host) : host.Grows host := ⟨Nat.le_refl _, Nat.le_refl _⟩

theorem Grows.trans (early : before.Grows between) (late : between.Grows after) :
    before.Grows after :=
  ⟨Nat.le_trans early.accepts late.accepts, Nat.le_trans early.connections late.connections⟩

namespace WorksAt

theorem refl (socket : Nat) (host : Host) : host.WorksAt socket host :=
  ⟨fun _ _ => rfl, fun _ _ _ => rfl, fun _ => .inl, .refl host⟩

theorem trans (early : before.WorksAt socket between) (late : between.WorksAt socket after) :
    before.WorksAt socket after where
  sockets other apart := (late.sockets other apart).trans (early.sockets other apart)
  accepts pending absent known := by
    have still : pending ∉ between.waitingAt socket := fun member =>
      (early.waiting pending member).elim absent fun fresh => Nat.not_lt_of_le fresh.1 known
    have bounded := Nat.lt_of_lt_of_le known early.grows.accepts
    exact (late.accepts pending still bounded).trans (early.accepts pending absent known)
  waiting pending member := by
    obtain there | ⟨fresh, known⟩ := late.waiting pending member
    · exact (early.waiting pending there).imp_right fun ⟨fresh, known⟩ =>
        ⟨fresh, Nat.lt_of_lt_of_le known late.grows.accepts⟩
    · exact .inr ⟨Nat.le_trans early.grows.accepts fresh, known⟩
  grows := early.grows.trans late.grows

theorem waitsAnew (works : before.WorksAt socket after) (other : Nat) :
    before.WaitsAnew other after := by
  by_cases here : other = socket
  · rw [here]
    exact works.waiting
  · intro pending waits
    unfold waitingAt at waits
    rw [works.sockets other here] at waits
    exact .inl waits

/-- A change of one row that lets only new accepts wait. -/
theorem of_modify {change : ListeningSocket → ListeningSocket}
    (sockets : after.sockets = before.sockets.modify socket change)
    (accepts : ∀ pending, pending ∉ before.waitingAt socket → pending < before.accepts.size →
      after.accepts.get? pending = before.accepts.get? pending)
    (waiting : ∀ state, before.sockets.get? socket = some state →
      ∀ pending ∈ (change state).waiting, pending ∈ state.waiting ∨
        before.accepts.size ≤ pending ∧ pending < after.accepts.size)
    (grows : before.Grows after) : before.WorksAt socket after where
  sockets other apart := by rw [sockets, Table.get?_modify, if_neg (Ne.symm apart)]
  accepts := accepts
  waiting pending member := by
    cases found : before.sockets.get? socket with
    | none => simp [waitingAt, sockets, found] at member
    | some state =>
      rw [waitingAt_of_found found]
      refine waiting state found pending ?_
      simpa [waitingAt, sockets, found] using member
  grows := grows

end WorksAt

theorem queueAt_worksAt (host : Host) (socket : Nat) : host.WorksAt socket (host.queueAt socket) :=
  .of_modify rfl (fun _ _ _ => rfl) (fun _ _ _ => .inl)
    ⟨Nat.le_refl _, by simp [queueAt, Table.add, Table.size]⟩

theorem endAccept_worksAt {outcome : PendingAccept} (waits : pending ∈ host.waitingAt socket) :
    host.WorksAt socket (host.endAccept socket pending outcome) := by
  refine .of_modify rfl (fun other absent _ => ?_)
    (fun _ _ _ member => .inl (List.mem_of_mem_erase member))
    ⟨Nat.le_of_eq (Table.size_modify _ _ _).symm, Nat.le_refl _⟩
  have differs : pending ≠ other := fun same => absent (same ▸ waits)
  exact (Table.get?_modify _ _ _ _).trans (if_neg differs)

theorem accept_worksAt (host : Host) (socket : Nat) :
    host.WorksAt socket (host.accept socket).2 := by
  unfold accept
  split
  · exact .of_modify rfl (fun _ _ _ => rfl) (fun _ _ _ => .inl) ⟨Nat.le_refl _, Nat.le_refl _⟩
  · exact .refl socket host

/-- Accepting takes nobody from those who wait. -/
theorem waitingAt_accept (host : Host) (socket : Nat) :
    (host.accept socket).2.waitingAt socket = host.waitingAt socket := by
  unfold accept
  split
  · next first others taken =>
    obtain ⟨state, found, -⟩ := Option.map_eq_some_iff.mp taken
    simp [waitingAt, found]
  · rfl

theorem retryAccept_worksAt (waits : pending ∈ host.waitingAt socket) :
    host.WorksAt socket (host.retryAccept socket pending) := by
  have accepted := host.accept_worksAt socket
  have same := host.waitingAt_accept socket
  unfold retryAccept
  split
  · next connection after taken =>
    rw [taken] at accepted same
    exact accepted.trans (endAccept_worksAt (same ▸ waits))
  · next after taken =>
    rw [taken] at accepted same
    refine accepted.trans (.of_modify rfl (fun _ _ _ => rfl) (fun state found other member => ?_)
      ⟨Nat.le_refl _, Nat.le_refl _⟩)
    obtain rfl | member := List.mem_cons.mp member
    · rw [← waitingAt_of_found found]
      exact .inl (same ▸ waits)
    · exact .inl (List.mem_of_mem_erase member)

theorem closeSocket_worksAt (host : Host) (socket : Nat) :
    host.WorksAt socket (host.closeSocket socket) := by
  cases found : host.sockets.get? socket with
  | none =>
    rw [closeSocket_of_absent found]
    exact .refl socket host
  | some state =>
    simp only [closeSocket, found]
    refine .of_modify rfl (fun pending absent _ => ?_)
      (fun _ _ _ member => absurd member List.not_mem_nil)
      ⟨Nat.le_of_eq (Table.size_foldl_modify _ _ _).symm,
        Nat.le_of_eq (Table.size_foldl_modify _ _ _).symm⟩
    rw [waitingAt_of_found found] at absent
    exact Table.get?_foldl_modify _ absent _

theorem letGo_worksAt (host : Host) (socket : Nat) : host.WorksAt socket (host.letGo socket) := by
  unfold letGo
  split
  · exact host.closeSocket_worksAt socket
  · exact .refl socket host

theorem settle_worksAt (host : Host) (socket : Nat) (isReleased : Bool) :
    host.WorksAt socket (host.settle socket isReleased) := by
  cases isReleased with
  | false => exact .refl socket host
  | true => exact host.letGo_worksAt socket

theorem refuseAccept_worksAt (waits : pending ∈ host.waitingAt socket) (isReleased : Bool) :
    host.WorksAt socket (host.refuseAccept socket pending isReleased) :=
  (endAccept_worksAt waits).trans (settle_worksAt _ socket isReleased)

theorem noteAccept_worksAt (host : Host) (socket : Nat) (outcome : PendingAccept) :
    host.WorksAt socket (host.noteAccept outcome).2 where
  sockets _ _ := rfl
  accepts _ _ known := Table.get?_add_of_lt _ _ known
  waiting _ := .inl
  grows := ⟨by simp [noteAccept, Table.add, Table.size], Nat.le_refl _⟩

theorem holdAt_worksAt (host : Host) (socket : Nat) :
    host.WorksAt socket (host.holdAt socket) := by
  have noted := host.noteAccept_worksAt socket .waiting
  refine .of_modify rfl noted.accepts (fun state _ pending member => ?_)
    ⟨noted.grows.accepts, noted.grows.connections⟩
  obtain rfl | member := List.mem_cons.mp member
  · exact .inr ⟨Nat.le_refl _, by simp [holdAt, Table.add, Table.size]⟩
  · exact .inl member

theorem connectTo_worksAt (host : Host) (socket : Nat) :
    host.WorksAt socket (host.connectTo socket).2 := by
  have longer : host.connections.size ≤ (host.connections.add .fresh).2.size := by
    simp [Table.add, Table.size]
  unfold connectTo
  simp only
  split
  · next first others taken =>
    obtain ⟨state, found, waiting⟩ := Option.map_eq_some_iff.mp taken
    have waits : first ∈ host.waitingAt socket := by
      rw [waitingAt_of_found found, waiting]
      exact List.mem_cons_self
    refine .of_modify rfl (fun pending absent _ => ?_) (fun row there pending member => ?_)
      ⟨Nat.le_of_eq (Table.size_modify _ _ _).symm, longer⟩
    · have differs : first ≠ pending := fun same => absent (same ▸ waits)
      exact (Table.get?_modify _ _ _ _).trans (if_neg differs)
    · cases found.symm.trans there
      rw [waiting]
      exact .inl (List.mem_cons_of_mem _ (List.mem_reverse.mp member))
  · exact .of_modify rfl (fun _ _ _ => rfl) (fun _ _ _ => .inl) ⟨Nat.le_refl _, longer⟩

end Apart

section Held

/-- A listening socket of which its listener may have let go. It is open as long as the listener
or an accept that waits holds it, and nothing is queued once it has closed. -/
structure Tends (host : Host) (socket : Nat) (isReleased : Bool) (state : ListeningSocket) : Prop
    where
  found : host.sockets.get? socket = some state
  waits : ∀ pending ∈ state.waiting, host.accepts.get? pending = some .waiting
  distinct : state.waiting.Nodup
  isOpen : state.isOpen = true ↔ isReleased = false ∨ state.waiting ≠ []
  empty : state.isOpen = false → state.backlog = []
  known : ∀ connection ∈ state.backlog, connection < host.connections.size

namespace Tends

variable {isReleased : Bool}

theorem of_listening {spot : SocketSpot}
    (found : host.sockets.get? socket = some ⟨spot, [], [], true⟩) :
    host.Tends socket false ⟨spot, [], [], true⟩ :=
  ⟨found, nofun, List.nodup_nil, by simp, nofun, nofun⟩

theorem waitingAt (tends : host.Tends socket isReleased state) :
    host.waitingAt socket = state.waiting := waitingAt_of_found tends.found

theorem open_of_waits (tends : host.Tends socket isReleased state)
    (waits : pending ∈ state.waiting) : state.isOpen = true :=
  tends.isOpen.mpr (.inr (List.ne_nil_of_mem waits))

/-- A socket of which the same can be seen elsewhere. -/
theorem of_same {after : Host} (tends : host.Tends socket isReleased state)
    (sockets : after.sockets.get? socket = host.sockets.get? socket)
    (accepts : ∀ pending ∈ state.waiting, after.accepts.get? pending = host.accepts.get? pending)
    (connections : host.connections.size ≤ after.connections.size) :
    after.Tends socket isReleased state where
  found := sockets.trans tends.found
  waits pending member := (accepts pending member).trans (tends.waits pending member)
  distinct := tends.distinct
  isOpen := tends.isOpen
  empty := tends.empty
  known connection member := Nat.lt_of_lt_of_le (tends.known connection member) connections

theorem queueAt (tends : host.Tends socket isReleased state) (isOpen : state.isOpen = true) :
    (host.queueAt socket).Tends socket isReleased
      { state with backlog := state.backlog ++ [host.connections.size] } where
  found := by simp [Host.queueAt, tends.found]
  waits := tends.waits
  distinct := tends.distinct
  isOpen := tends.isOpen
  empty shut := by rw [isOpen] at shut; cases shut
  known connection member := by
    have longer : (host.queueAt socket).connections.size = host.connections.size + 1 := by
      simp [Host.queueAt, Table.add, Table.size]
    rw [longer]
    obtain queued | rfl := (List.mem_append.mp member).imp_right List.mem_singleton.mp
    · exact Nat.lt_succ_of_lt (tends.known connection queued)
    · exact Nat.lt_succ_self _

/-- An accept is noted that never holds the socket. -/
theorem noteAccept (tends : host.Tends socket isReleased state) (outcome : PendingAccept) :
    (host.noteAccept outcome).2.Tends socket isReleased state := by
  refine tends.of_same rfl (fun pending member => ?_) (Nat.le_refl _)
  exact Table.get?_add_of_lt _ _ (List.getElem?_eq_some_iff.mp (tends.waits pending member)).1

/-- An accept that ends leaves the others waiting. -/
theorem waits_endAccept (tends : host.Tends socket isReleased state) (pending : Nat)
    (outcome : PendingAccept) : ∀ other ∈ state.waiting.erase pending,
      (host.endAccept socket pending outcome).accepts.get? other = some .waiting := by
  intro other member
  obtain ⟨differs, member⟩ := tends.distinct.mem_erase_iff.mp member
  rw [← tends.waits other member]
  exact (Table.get?_modify _ _ _ _).trans (if_neg (Ne.symm differs))

theorem accept (tends : host.Tends socket isReleased state) (isOpen : state.isOpen = true) :
    (host.accept socket).2.Tends socket isReleased
      { state with backlog := state.backlog.tail } := by
  have waits : ∀ pending ∈ state.waiting,
      (host.accept socket).2.accepts.get? pending = some .waiting := by
    unfold Host.accept
    split <;> exact tends.waits
  have known : ∀ connection ∈ state.backlog.tail,
      connection < (host.accept socket).2.connections.size := by
    intro connection member
    unfold Host.accept
    split <;> exact tends.known connection (List.mem_of_mem_tail member)
  refine ⟨?_, waits, tends.distinct, tends.isOpen, fun shut => ?_, known⟩
  · cases backlog : state.backlog with
    | nil =>
      simp only [Host.accept, tends.found, backlog, Option.map_some, List.tail_nil]
      rw [← backlog]
    | cons => simp [Host.accept, tends.found, backlog]
  · rw [isOpen] at shut
    cases shut

/-- A socket that its listener has let go of is closed as soon as nobody waits there. -/
theorem letGo (found : host.sockets.get? socket = some state)
    (waits : ∀ pending ∈ state.waiting, host.accepts.get? pending = some .waiting)
    (distinct : state.waiting.Nodup) (isOpen : state.isOpen = true)
    (known : ∀ connection ∈ state.backlog, connection < host.connections.size) :
    ∃ later, (host.letGo socket).Tends socket true later := by
  unfold Host.letGo
  rw [waitingAt_of_found found]
  cases waiting : state.waiting with
  | nil =>
    refine ⟨state.shut, ?_, nofun, List.nodup_nil, ?_, fun _ => rfl, nofun⟩
    · simp [closeSocket, found, ListeningSocket.shut]
    · simp [ListeningSocket.shut]
  | cons first others =>
    exact ⟨state, found, waits, distinct, by simp [isOpen, waiting], by simp [isOpen], known⟩

/-- Whatever was done at an open socket, it is settled who holds it. -/
theorem settle (isReleased : Bool) (found : host.sockets.get? socket = some state)
    (waits : ∀ pending ∈ state.waiting, host.accepts.get? pending = some .waiting)
    (distinct : state.waiting.Nodup) (isOpen : state.isOpen = true)
    (known : ∀ connection ∈ state.backlog, connection < host.connections.size) :
    ∃ later, (host.settle socket isReleased).Tends socket isReleased later := by
  cases isReleased with
  | false => exact ⟨state, found, waits, distinct, by simp [isOpen], by simp [isOpen], known⟩
  | true => exact letGo found waits distinct isOpen known

/-- An accept that ends does not hold the socket any more. -/
theorem endAccept (tends : host.Tends socket isReleased state) (waits : pending ∈ state.waiting)
    (outcome : PendingAccept) :
    ∃ later, ((host.endAccept socket pending outcome).settle socket isReleased).Tends socket
      isReleased later := by
  have there : (host.endAccept socket pending outcome).sockets.get? socket =
      some { state with waiting := state.waiting.erase pending } := by
    simp [Host.endAccept, tends.found]
  exact settle isReleased there (tends.waits_endAccept pending outcome)
    (tends.distinct.erase pending) (tends.open_of_waits waits) tends.known

/-- An accept that tries again either ends or waits on. -/
theorem retryAccept (tends : host.Tends socket isReleased state)
    (waits : pending ∈ state.waiting) :
    ∃ later, ((host.retryAccept socket pending).settle socket isReleased).Tends socket isReleased
      later := by
  have isOpen := tends.open_of_waits waits
  have accepted := tends.accept isOpen
  unfold Host.retryAccept
  split
  · next connection after taken =>
    rw [taken] at accepted
    exact accepted.endAccept waits _
  · next after taken =>
    rw [taken] at accepted
    have there : ({ after with
        sockets := after.sockets.modify socket fun state =>
          { state with waiting := pending :: state.waiting.erase pending } } :
          Host).sockets.get? socket =
        some { state with
          backlog := state.backlog.tail, waiting := pending :: state.waiting.erase pending } := by
      simp [accepted.found]
    refine settle isReleased there (fun other member => ?_) ?_ isOpen accepted.known
    · obtain rfl | member := List.mem_cons.mp member
      · exact accepted.waits _ waits
      · exact accepted.waits other (List.mem_of_mem_erase member)
    · refine List.nodup_cons.mpr ⟨fun member => ?_, tends.distinct.erase pending⟩
      exact (tends.distinct.mem_erase_iff.mp member).1 rfl

/-- A new accept holds the socket before all others. -/
theorem holdAt (tends : host.Tends socket false state) :
    (host.holdAt socket).Tends socket false
      { state with waiting := host.accepts.size :: state.waiting } := by
  have known : ∀ pending ∈ state.waiting, pending < host.accepts.size :=
    fun pending member => (List.getElem?_eq_some_iff.mp (tends.waits pending member)).1
  refine ⟨?_, fun other member => ?_, ?_, ?_, tends.empty, tends.known⟩
  · simp [Host.holdAt, tends.found]
  · obtain rfl | member := List.mem_cons.mp member
    · exact Table.get?_add_size _ _
    · exact (Table.get?_add_of_lt _ _ (known other member)).trans (tends.waits other member)
  · exact List.nodup_cons.mpr ⟨fun member => Nat.lt_irrefl _ (known _ member), tends.distinct⟩
  · simpa using tends.isOpen

end Tends

end Held

section Outcomes

/-- Letting go of a socket answers no accept. -/
theorem letGo_accepts (host : Host) (socket : Nat) :
    (host.letGo socket).accepts = host.accepts := by
  unfold letGo
  split
  · next nobody =>
    cases found : host.sockets.get? socket with
    | none => rw [closeSocket_of_absent found]
    | some state =>
      rw [waitingAt_of_found found] at nobody
      simp only [closeSocket, found, nobody, List.foldl_nil]
  · rfl

theorem settle_accepts (host : Host) (socket : Nat) (isReleased : Bool) :
    (host.settle socket isReleased).accepts = host.accepts := by
  cases isReleased with
  | false => rfl
  | true => exact host.letGo_accepts socket

/-- An accept that is refused ends as one on a closed listener. -/
theorem refuseAccept_outcome {outcome : PendingAccept}
    (known : host.accepts.get? pending = some outcome) (isReleased : Bool) :
    (host.refuseAccept socket pending isReleased).accepts.get? pending = some .closed := by
  rw [refuseAccept, settle_accepts]
  simp [endAccept, known]

/-- An accept that tries again ends with a connection or waits on. -/
theorem retryAccept_outcome (waits : pending ∈ host.waitingAt socket)
    (known : host.accepts.get? pending = some .waiting) :
    pending ∈ (host.retryAccept socket pending).waitingAt socket ∧
        (host.retryAccept socket pending).accepts.get? pending = some .waiting ∨
      ∃ connection, (host.retryAccept socket pending).accepts.get? pending =
        some (.accepted connection) := by
  have same : (host.accept socket).2.accepts = host.accepts := by
    unfold accept
    split <;> rfl
  rw [← waitingAt_accept] at waits
  unfold retryAccept
  split
  · next connection after taken =>
    rw [taken] at same
    rw [← same] at known
    refine .inr ⟨connection, ?_⟩
    simp [endAccept, known]
  · next after taken =>
    rw [taken] at same waits
    refine .inl ⟨?_, by rw [same]; exact known⟩
    cases found : after.sockets.get? socket with
    | none => simp [waitingAt, found] at waits
    | some state => simp [waitingAt, found]

end Outcomes

section Others

variable {other : Nat}

/-- A change of the row of a socket that does the same to whatever waits there. -/
theorem waitingAt_modify (host : Host) (socket : Nat) (waiting : List Nat → List Nat)
    {change : ListeningSocket → ListeningSocket} (empty : waiting [] = [])
    (waits : ∀ state, (change state).waiting = waiting state.waiting) :
    ({ host with sockets := host.sockets.modify socket change } : Host).waitingAt socket =
      waiting (host.waitingAt socket) := by
  cases found : host.sockets.get? socket with
  | none => simp [waitingAt, found, empty]
  | some state => simp [waitingAt, found, waits]

theorem waitingAt_queueAt (host : Host) (socket : Nat) :
    (host.queueAt socket).waitingAt socket = host.waitingAt socket :=
  host.waitingAt_modify socket id rfl fun _ => rfl

theorem waitingAt_endAccept (host : Host) (socket pending : Nat) (outcome : PendingAccept) :
    (host.endAccept socket pending outcome).waitingAt socket =
      (host.waitingAt socket).erase pending :=
  host.waitingAt_modify socket (·.erase pending) rfl fun _ => rfl

/-- An accept that tries again keeps all others waiting. -/
theorem mem_waitingAt_retryAccept (waits : other ∈ host.waitingAt socket)
    (differs : other ≠ pending) : other ∈ (host.retryAccept socket pending).waitingAt socket := by
  rw [← waitingAt_accept] at waits
  have still := (List.mem_erase_of_ne differs).mpr waits
  unfold retryAccept
  split
  · next connection after taken =>
    rw [taken] at still
    rw [waitingAt_endAccept]
    exact still
  · next after taken =>
    rw [taken] at still
    cases found : after.sockets.get? socket with
    | none => simp [waitingAt, found] at still
    | some state =>
      rw [waitingAt_of_found found] at still
      simpa [waitingAt, found] using .inr still

/-- A socket that is waited for stays as it is when it is let go of. -/
theorem letGo_of_waits (waits : other ∈ host.waitingAt socket) : host.letGo socket = host := by
  unfold letGo
  split
  · next nobody =>
    rw [nobody] at waits
    cases waits
  · rfl

theorem settle_of_waits (waits : other ∈ host.waitingAt socket) (isReleased : Bool) :
    host.settle socket isReleased = host := by
  cases isReleased with
  | false => rfl
  | true => exact letGo_of_waits waits

/-- An accept that is refused keeps all others waiting. -/
theorem mem_waitingAt_refuseAccept (waits : other ∈ host.waitingAt socket)
    (differs : other ≠ pending) (isReleased : Bool) :
    other ∈ (host.refuseAccept socket pending isReleased).waitingAt socket := by
  have still := (List.mem_erase_of_ne differs).mpr waits
  rw [← host.waitingAt_endAccept socket pending .closed] at still
  unfold refuseAccept
  rw [settle_of_waits still]
  exact still

theorem waitingAt_holdAt (host : Host) (socket : Nat) :
    host.waitingAt socket ⊆ (host.holdAt socket).waitingAt socket := by
  intro pending waits
  cases found : host.sockets.get? socket with
  | none => simp [waitingAt, found] at waits
  | some state =>
    rw [waitingAt_of_found found] at waits
    simp [waitingAt, holdAt, found, waits]

theorem waitingAt_closeSocket (host : Host) (socket : Nat) :
    (host.closeSocket socket).waitingAt socket = [] := by
  cases found : host.sockets.get? socket with
  | none => simp [closeSocket, waitingAt, found]
  | some state => simp [closeSocket, waitingAt, found]

/-- Nobody takes hold of a socket as it is settled who holds it. -/
theorem waitingAt_settle_subset (host : Host) (socket : Nat) (isReleased : Bool) :
    (host.settle socket isReleased).waitingAt socket ⊆ host.waitingAt socket := by
  cases isReleased with
  | false => exact List.Subset.refl _
  | true =>
    simp only [settle, if_true, letGo]
    split
    · rw [waitingAt_closeSocket]
      exact List.nil_subset _
    · exact List.Subset.refl _

theorem waitingAt_refuseAccept_subset (host : Host) (socket pending : Nat) (isReleased : Bool) :
    (host.refuseAccept socket pending isReleased).waitingAt socket ⊆ host.waitingAt socket := by
  refine List.Subset.trans (waitingAt_settle_subset _ socket isReleased) ?_
  rw [waitingAt_endAccept]
  exact List.erase_subset

theorem waitingAt_retryAccept_subset (waits : pending ∈ host.waitingAt socket) :
    (host.retryAccept socket pending).waitingAt socket ⊆ host.waitingAt socket := by
  have same := host.waitingAt_accept socket
  unfold retryAccept
  split
  · next connection after taken =>
    rw [taken] at same
    rw [waitingAt_endAccept, same]
    exact List.erase_subset
  · next after taken =>
    rw [taken] at same
    rw [← same] at waits ⊢
    intro other member
    cases found : after.sockets.get? socket with
    | none => simp [waitingAt, found] at member
    | some state =>
      rw [waitingAt_of_found found] at waits ⊢
      have member : other ∈ pending :: state.waiting.erase pending := by
        simpa [waitingAt, found] using member
      obtain rfl | member := List.mem_cons.mp member
      · exact waits
      · exact List.mem_of_mem_erase member

end Others

section Queued

/-- Whether a connection is there and reset. -/
def HasReset (host : Host) (connection : Nat) : Prop :=
  ∃ state, host.connections.get? connection = some state ∧ state.IsReset

/-- Whether everything that is queued at a socket stays queued or is reset. -/
def KeepsOrResets (socket : Nat) (before after : Host) : Prop :=
  ∀ connection ∈ before.queuedAt socket,
    connection ∈ after.queuedAt socket ∨ after.HasReset connection

variable {after : Host}

/-- A change that takes nothing from a queue. -/
theorem KeepsOrResets.of_subset (kept : host.queuedAt socket ⊆ after.queuedAt socket) :
    host.KeepsOrResets socket after := fun _ member => .inl (kept member)

/-- Connections that are released in turn are reset. -/
theorem isReset_foldl_release {connection : Nat} {queued : List Nat}
    {connections : Table Connection} {state : Connection}
    (found : connections.get? connection = some state)
    (member : connection ∈ queued ∨ state.IsReset) :
    ∃ reset, (queued.foldl (fun connections connection =>
        connections.modify connection fun queued => queued.release .callee false)
          connections).get? connection = some reset ∧ reset.IsReset := by
  induction queued generalizing connections state with
  | nil => exact ⟨state, found, member.resolve_left nofun⟩
  | cons first others inductionHypothesis =>
    rw [List.foldl_cons]
    by_cases here : first = connection
    · subst here
      have released : (connections.modify first fun queued => queued.release .callee false).get?
          first = some (state.release .callee false) := by simp [found]
      exact inductionHypothesis released (.inr state.isReset_release)
    · have kept : (connections.modify first fun queued => queued.release .callee false).get?
          connection = some state := by rw [Table.get?_modify, if_neg here, found]
      refine inductionHypothesis kept (member.imp_left fun among => ?_)
      exact (List.mem_cons.mp among).resolve_left (Ne.symm here)

/-- A socket that closes resets all that is queued there. -/
theorem closeSocket_keepsOrResets
    (known : ∀ connection ∈ host.queuedAt socket, connection < host.connections.size) :
    host.KeepsOrResets socket (host.closeSocket socket) := by
  intro connection queued
  have bounded : connection < host.connections.rows.length := known connection queued
  have present : host.connections.get? connection = some host.connections.rows[connection] :=
    List.getElem?_eq_getElem bounded
  cases found : host.sockets.get? socket with
  | none => simp [queuedAt, found] at queued
  | some state =>
    simp only [queuedAt, found, Option.elim_some] at queued
    simp only [HasReset, closeSocket, found]
    exact .inr (isReset_foldl_release present (.inl queued))

theorem letGo_keepsOrResets
    (known : ∀ connection ∈ host.queuedAt socket, connection < host.connections.size) :
    host.KeepsOrResets socket (host.letGo socket) := by
  unfold letGo
  split
  · exact closeSocket_keepsOrResets known
  · exact .of_subset (List.Subset.refl _)

theorem settle_keepsOrResets (isReleased : Bool)
    (known : ∀ connection ∈ host.queuedAt socket, connection < host.connections.size) :
    host.KeepsOrResets socket (host.settle socket isReleased) := by
  cases isReleased with
  | false => exact .of_subset (List.Subset.refl _)
  | true => exact letGo_keepsOrResets known

theorem queuedAt_endAccept (host : Host) (socket pending : Nat) (outcome : PendingAccept) :
    (host.endAccept socket pending outcome).queuedAt socket = host.queuedAt socket := by
  cases found : host.sockets.get? socket <;> simp [endAccept, queuedAt, found]

theorem refuseAccept_keepsOrResets (isReleased : Bool)
    (known : ∀ connection ∈ host.queuedAt socket, connection < host.connections.size) :
    host.KeepsOrResets socket (host.refuseAccept socket pending isReleased) := by
  unfold KeepsOrResets
  rw [← host.queuedAt_endAccept socket pending .closed] at known ⊢
  exact settle_keepsOrResets isReleased known

/-- An accept that tries again takes the first connection of the queue, if any. -/
theorem queuedAt_retryAccept {outcome : PendingAccept}
    (known : host.accepts.get? pending = some outcome) {connection : Nat}
    (queued : connection ∈ host.queuedAt socket) :
    connection ∈ (host.retryAccept socket pending).queuedAt socket ∨
      (host.retryAccept socket pending).accepts.get? pending = some (.accepted connection) := by
  cases found : host.sockets.get? socket with
  | none => simp [queuedAt, found] at queued
  | some state =>
    simp only [queuedAt, found, Option.elim_some] at queued
    cases backlog : state.backlog with
    | nil =>
      rw [backlog] at queued
      cases queued
    | cons first others =>
      rw [backlog] at queued
      obtain rfl | later := List.mem_cons.mp queued
      · exact .inr (by simp [retryAccept, accept, found, backlog, endAccept, known])
      · exact .inl (by simp [retryAccept, accept, found, backlog, endAccept, queuedAt, later])

/-- After an accept has tried again, all that is queued is there. -/
theorem known_retryAccept (pending : Nat)
    (known : ∀ connection ∈ host.queuedAt socket, connection < host.connections.size) :
    ∀ connection ∈ (host.retryAccept socket pending).queuedAt socket,
      connection < (host.retryAccept socket pending).connections.size := by
  cases found : host.sockets.get? socket with
  | none =>
    intro connection member
    simp [retryAccept, accept, found, queuedAt] at member
  | some state =>
    simp only [queuedAt, found, Option.elim_some] at known
    cases backlog : state.backlog with
    | nil =>
      intro connection member
      simp [retryAccept, accept, found, backlog, queuedAt] at member
    | cons first others =>
      intro connection member
      have later : connection ∈ others := by
        simpa [retryAccept, accept, found, backlog, endAccept, queuedAt] using member
      have bounded := known connection (by rw [backlog]; exact List.mem_cons_of_mem _ later)
      simpa [retryAccept, accept, found, backlog, endAccept] using bounded

theorem Tends.queued_known {isClosed : Bool} (tends : host.Tends socket isClosed state) :
    ∀ connection ∈ host.queuedAt socket, connection < host.connections.size := by
  unfold queuedAt
  rw [tends.found]
  exact tends.known

end Queued

section Reached

/-- Only open sockets are found at a spot. -/
theorem isOpen_of_socketAt? {spot : SocketSpot} (found : host.socketAt? spot = some socket) :
    ∃ state, host.sockets.get? socket = some state ∧ state.isOpen = true := by
  have listed := List.mem_of_head? found
  unfold Table.numbersWhere at listed
  have listens := (List.mem_filter.mp listed).2
  cases there : host.sockets.get? socket with
  | none => simp [there] at listens
  | some state =>
    rw [there, Option.any_some, Bool.and_eq_true] at listens
    exact ⟨state, rfl, listens.1⟩

theorem isOpen_of_reachName {name : List UInt8} (reached : host.reachName name = .ok socket) :
    ∃ state, host.sockets.get? socket = some state ∧ state.isOpen = true := by
  unfold reachName at reached
  split at reached
  · cases reached
  · split at reached
    · next found =>
      cases reached
      exact isOpen_of_socketAt? found
    · cases reached

/-- Whoever connects reaches an open socket. -/
theorem isOpen_of_reach {path : Path} (reached : host.reach path = .ok socket) :
    ∃ state, host.sockets.get? socket = some state ∧ state.isOpen = true := by
  unfold reach at reached
  split at reached
  · exact isOpen_of_reachName reached
  · obtain ⟨-, -, reached⟩ := Outcome.bind_eq_ok_iff.mp reached
    split at reached
    · cases reached
    · obtain ⟨node, -, reached⟩ := Outcome.bind_eq_ok_iff.mp reached
      split at reached
      · next found =>
        cases reached
        exact isOpen_of_socketAt? found
      · cases reached

end Reached

end Host

end SocketMux
