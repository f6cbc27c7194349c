import SocketMux.Proofs.Lifecycle.Polling
import SocketMux.Proofs.Lifecycle.Sockets

/-!
# Listeners at rest

A listener is at rest when all accepts that were woken have been polled: nobody waits there while
something is queued, or once it is closed (`Host.RestsAt`). A connection that arrives wakes all who
wait, and so does the close; turns in which they are polled one after another lead to rest again
(`ListenerPoint.Polled.retries`, `ListenerPoint.Polled.refusals`). Whichever turns are taken at one
listener, all other sockets stay as they are (`ListenerPoint.Polled.changes`).
-/

namespace SocketMux

/-- A change of one row is not seen by a change of all rows that does the same to it. -/
theorem Table.map_modify_eq {α : Type} (table : Table α) (number : Nat) {change all : α → α}
    (same : ∀ row, table.get? number = some row → all (change row) = all row) :
    (table.modify number change).map all = table.map all := by
  unfold map
  congr 1
  apply List.ext_getElem?
  intro index
  rw [List.getElem?_map, List.getElem?_map]
  change ((table.modify number change).get? index).map all = (table.get? index).map all
  rw [get?_modify]
  split
  · next asked =>
    subst asked
    cases found : table.get? number with
    | none => rfl
    | some row => exact congrArg some (same row found)
  · rfl

namespace Host

/-- Whether nobody waits at a socket while something is queued there. -/
def EasedAt (host : Host) (socket : Nat) : Prop :=
  host.waitingAt socket = [] ∨ host.queuedAt socket = []

/-- A listening socket at which all accepts have been polled that were woken: nobody waits while
something is queued, or once the listener is closed. -/
structure RestsAt (host : Host) (socket : Nat) (isClosed : Bool) : Prop where
  tends : ∃ state, host.Tends socket isClosed state
  eased : host.EasedAt socket
  shut : isClosed = true → host.waitingAt socket = []

/-- A socket that is there and at which nobody waits. -/
def UnawaitedAt (host : Host) (socket : Nat) : Prop :=
  ∃ state, host.sockets.get? socket = some state ∧ state.waiting = []

variable {host after : Host} {socket pending : Nat} {isClosed : Bool}

/-- A socket of which the same can be seen elsewhere. -/
theorem RestsAt.of_same (rests : host.RestsAt socket isClosed)
    (sockets : after.sockets.get? socket = host.sockets.get? socket)
    (accepts : ∀ pending ∈ host.waitingAt socket,
      after.accepts.get? pending = host.accepts.get? pending)
    (connections : host.connections.size ≤ after.connections.size) :
    after.RestsAt socket isClosed := by
  obtain ⟨state, tends⟩ := rests.tends
  rw [tends.waitingAt] at accepts
  have eased := rests.eased
  have shut := rests.shut
  unfold EasedAt waitingAt queuedAt at eased
  unfold waitingAt at shut
  rw [← sockets] at eased shut
  exact ⟨⟨state, tends.of_same sockets accepts connections⟩, eased, shut⟩

namespace EasedAt

/-- A socket is eased in the way of its row. -/
theorem iff_of_found {state : ListeningSocket} (found : host.sockets.get? socket = some state) :
    host.EasedAt socket ↔ state.waiting = [] ∨ state.backlog = [] := by
  simp [EasedAt, waitingAt, queuedAt, found]

theorem of_absent (absent : host.sockets.get? socket = none) : host.EasedAt socket := by
  simp [EasedAt, waitingAt, absent]

theorem accept (eased : host.EasedAt socket) : (host.accept socket).2.EasedAt socket := by
  unfold Host.accept
  split
  · next first others queued =>
    obtain ⟨state, found, backlog⟩ := Option.map_eq_some_iff.mp queued
    have nobody := ((iff_of_found found).mp eased).resolve_right (by simp [backlog])
    exact .inl (by simp [waitingAt, found, nobody])
  · exact eased

theorem endAccept (eased : host.EasedAt socket) (outcome : PendingAccept) :
    (host.endAccept socket pending outcome).EasedAt socket := by
  cases found : host.sockets.get? socket with
  | none => exact of_absent (by simp [Host.endAccept, found])
  | some state =>
    refine ((iff_of_found found).mp eased).imp (fun nobody => ?_) fun nothing => ?_
    · simp [waitingAt, Host.endAccept, found, nobody]
    · simp [queuedAt, Host.endAccept, found, nothing]

/-- An accept that begins waits only if nothing is queued. -/
theorem beginAccept (eased : host.EasedAt socket) :
    (host.beginAccept socket).2.EasedAt socket := by
  have accepted := eased.accept
  unfold Host.beginAccept
  split
  · next connection later taken =>
    rw [taken] at accepted
    exact accepted
  · next later taken =>
    refine .inr ?_
    unfold Host.accept at taken
    split at taken
    · cases taken
    · next nothing =>
      cases taken
      cases found : host.sockets.get? socket with
      | none => simp [queuedAt, found]
      | some state =>
        cases backlog : state.backlog with
        | nil => simp [queuedAt, found, backlog]
        | cons first others => exact absurd (by simp [found, backlog]) (nothing first others)

/-- A connection is queued only if nobody waits for it. -/
theorem connectTo (eased : host.EasedAt socket) : (host.connectTo socket).2.EasedAt socket := by
  cases found : host.sockets.get? socket with
  | none => exact of_absent (by simp [Host.connectTo, found])
  | some state =>
    cases waiting : state.waiting with
    | nil => exact .inl (by simp [Host.connectTo, waitingAt, found, waiting])
    | cons first others =>
      have nothing := ((iff_of_found found).mp eased).resolve_left (by simp [waiting])
      exact .inr (by simp [Host.connectTo, queuedAt, found, waiting, nothing])

end EasedAt

/-- An accept that has ended at its socket is not missed there when it is given up. -/
theorem cancelAccept_endAccept {state : ListeningSocket}
    (tends : host.Tends socket isClosed state) :
    (host.endAccept socket pending .closed).cancelAccept pending = host.cancelAccept pending := by
  have sockets : ((host.sockets.modify socket fun state =>
      { state with waiting := state.waiting.erase pending }).map fun state =>
        { state with waiting := state.waiting.erase pending }) =
      host.sockets.map fun state => { state with waiting := state.waiting.erase pending } := by
    refine host.sockets.map_modify_eq socket fun row there => ?_
    cases tends.found.symm.trans there
    have gone : pending ∉ state.waiting.erase pending := fun member =>
      (tends.distinct.mem_erase_iff.mp member).1 rfl
    rw [List.erase_of_not_mem gone]
  simp only [cancelAccept, endAccept, Table.modify_modify, sockets]

/-- Refusing the first of those who wait leaves the others waiting. -/
theorem waitingAt_refuseAccept {others : List Nat}
    (waiting : host.waitingAt socket = pending :: others) (isReleased : Bool) :
    (host.refuseAccept socket pending isReleased).waitingAt socket = others := by
  have ended : (host.endAccept socket pending .closed).waitingAt socket = others := by
    rw [waitingAt_endAccept, waiting, List.erase_cons_head]
  unfold refuseAccept settle letGo
  split
  · split
    · next nobody =>
      rw [← ended, nobody]
      exact waitingAt_closeSocket _ socket
    · exact ended
  · exact ended

/-- Whoever takes hold of a socket waits there. -/
theorem mem_waitingAt_holdAt {state : ListeningSocket}
    (found : host.sockets.get? socket = some state) :
    host.accepts.size ∈ (host.holdAt socket).waitingAt socket := by
  simp [waitingAt, holdAt, found]

end Host

namespace Multiplexer

/-- Whether two states differ at one listener at most: at its socket, and in whether it is
closed. -/
structure ChangesAt (which : Nat) (listener : MuxListener) (before after : Multiplexer)
    (isClosed : Bool) : Prop where
  listeners : after.listeners =
    before.listeners.modify which fun listener => { listener with isClosed }
  authorities : after.authorities = before.authorities
  works : before.host.WorksAt listener.socket after.host

variable {which other : Nat} {mux after : Multiplexer} {listener : MuxListener} {isClosed : Bool}

namespace ChangesAt

theorem found (changes : ChangesAt which listener mux after isClosed)
    (found : mux.listeners.get? which = some listener) :
    after.listeners.get? which = some { listener with isClosed } := by
  rw [changes.listeners]
  simp [found]

theorem elsewhere (changes : ChangesAt which listener mux after isClosed)
    (differs : other ≠ which) : after.listeners.get? other = mux.listeners.get? other := by
  rw [changes.listeners, Table.get?_modify, if_neg (Ne.symm differs)]

theorem ownSockets (changes : ChangesAt which listener mux after isClosed) :
    after.ownSockets = mux.ownSockets := by
  have same : after.listeners.rows.map MuxListener.socket =
      mux.listeners.rows.map MuxListener.socket := by
    rw [changes.listeners]
    exact mux.listeners.map_modify which MuxListener.socket fun _ => rfl
  unfold Multiplexer.ownSockets
  rw [same, changes.authorities]

/-- A change at the socket of a listener alone. -/
theorem of_worksAt {host : Host} (found : mux.listeners.get? which = some listener)
    (works : mux.host.WorksAt listener.socket host) :
    ChangesAt which listener mux { mux with host } listener.isClosed := by
  refine ⟨(Table.modify_eq_self _ _ _ fun row there => ?_).symm, rfl, works⟩
  cases found.symm.trans there
  rfl

end ChangesAt

/-- A listener that is open is at rest with no step of a close behind it. -/
theorem atRest_of_open (mux : Multiplexer) (found : mux.listeners.get? which = some listener)
    (isOpen : listener.isClosed = false) : mux.atRest which = ⟨mux, false, false, 0, []⟩ := by
  rw [atRest, hasClosed_of_found found, isOpen]

theorem atRest_of_closed (mux : Multiplexer) (found : mux.listeners.get? which = some listener)
    (closed : listener.isClosed = true) : mux.atRest which = ⟨mux, true, true, 0, []⟩ := by
  rw [atRest, hasClosed_of_found found, closed]

/-- What is not about a listener is one turn there. -/
theorem Leaves.take (leaves : mux.Leaves which after) :
    (mux.atRest which).take which (.elsewhere after) = after.atRest which := by
  simp [ListenerPoint.take, ListenerPoint.muxAfter, atRest, leaves.hasClosed,
    ListenerTurn.announces, ListenerTurn.releases]

theorem Leaves.course (leaves : mux.Leaves which after) :
    ListenerCourse which (mux.atRest which) [⟨mux.atRest which, .elsewhere after⟩]
      (after.atRest which) := by
  have allowed : (ListenerTurn.elsewhere after).Allowed which (mux.atRest which) := leaves
  rw [← leaves.take]
  exact .single allowed

end Multiplexer

namespace ListenerPoint

open Multiplexer

/-- Whether one point leads to another by turns at a listener. -/
def Polled (which : Nat) (before after : ListenerPoint) : Prop :=
  ∃ instants, ListenerCourse which before instants after ∧
    ∀ instant ∈ instants, instant.turn.isHere = true

variable {which : Nat} {point between after : ListenerPoint} {listener : MuxListener}
  {mux : Multiplexer} {pending : Nat}

theorem take_of_unmarked {turn : ListenerTurn}
    (found : point.mux.listeners.get? which = some listener) (here : turn.isHere = true)
    (unmarked : turn.marks = false) :
    point.take which turn =
      { point.take which turn with
        mux := { point.mux with host := turn.work point point.mux.host listener.socket } } := by
  rw [← mux_take_of_unmarked found here unmarked]

theorem take_mark (found : mux.listeners.get? which = some listener) :
    (ListenerPoint.mk mux false false 0 []).take which .mark =
      ⟨{ mux with listeners := mux.listeners.modify which MuxListener.closed },
        false, false, 0, []⟩ := by
  have marked : (fun listener : MuxListener =>
      { listener with isClosed := listener.isClosed || ListenerTurn.mark.marks }) =
        MuxListener.closed := by
    funext listener
    simp [ListenerTurn.marks, MuxListener.closed]
  simp only [take, muxAfter, found, marked]
  rfl

/-- An accept that looks before the close is announced is to try the queue next. -/
theorem take_look (found : mux.listeners.get? which = some listener) :
    (ListenerPoint.mk mux false false 0 []).take which (.look pending) =
      ⟨mux, false, false, 0, [pending]⟩ := by
  rw [take_of_unmarked found rfl rfl]
  rfl

theorem take_take (found : mux.listeners.get? which = some listener) :
    (ListenerPoint.mk mux false false 0 [pending]).take which (.take pending) =
      ⟨{ mux with host := mux.host.retryAccept listener.socket pending }, false, false, 0, []⟩ := by
  rw [take_of_unmarked found rfl rfl]
  simp [take, ListenerTurn.work, Host.settle, ListenerTurn.announces, ListenerTurn.releases]

theorem take_giveUp (found : mux.listeners.get? which = some listener) :
    (ListenerPoint.mk mux false false 0 []).take which (.giveUp pending) =
      ⟨{ mux with host := mux.host.endAccept listener.socket pending .closed },
        false, false, 0, []⟩ := by
  rw [take_of_unmarked found rfl rfl]
  rfl

/-- An accept that is polled on an open listener looks, and then tries the queue. -/
theorem retry_course (found : mux.listeners.get? which = some listener)
    (waits : pending ∈ mux.host.waitingAt listener.socket) :
    ListenerCourse which ⟨mux, false, false, 0, []⟩
      [⟨⟨mux, false, false, 0, [pending]⟩, .take pending⟩,
        ⟨⟨mux, false, false, 0, []⟩, .look pending⟩]
      ⟨{ mux with host := mux.host.retryAccept listener.socket pending }, false, false, 0, []⟩ := by
  have looks : (ListenerTurn.look pending).Allowed which ⟨mux, false, false, 0, []⟩ :=
    ⟨waiters_of_found found ▸ waits, List.not_mem_nil⟩
  have takes : (ListenerTurn.take pending).Allowed which ⟨mux, false, false, 0, [pending]⟩ :=
    List.mem_singleton_self pending
  have looked := ListenerCourse.single looks
  have taken := ListenerCourse.single takes
  rw [take_look found] at looked
  rw [take_take found] at taken
  exact looked.trans taken

namespace Polled

theorem refl (which : Nat) (point : ListenerPoint) : point.Polled which point :=
  ⟨[], .nothing, nofun⟩

theorem trans (early : point.Polled which between) (late : between.Polled which after) :
    point.Polled which after := by
  obtain ⟨earlier, first, here⟩ := early
  obtain ⟨later, second, hereToo⟩ := late
  refine ⟨later ++ earlier, first.trans second, fun instant member => ?_⟩
  exact (List.mem_append.mp member).elim (hereToo instant) (here instant)

theorem single {turn : ListenerTurn} (allowed : turn.Allowed which point)
    (here : turn.isHere = true) : point.Polled which (point.take which turn) := by
  refine ⟨_, .single allowed, fun instant member => ?_⟩
  cases List.mem_singleton.mp member
  exact here

theorem retry (found : mux.listeners.get? which = some listener)
    (waits : pending ∈ mux.host.waitingAt listener.socket) :
    Polled which ⟨mux, false, false, 0, []⟩
      ⟨{ mux with host := mux.host.retryAccept listener.socket pending }, false, false, 0, []⟩ := by
  refine ⟨_, retry_course found waits, ?_⟩
  rintro instant (_ | ⟨_, _ | ⟨_, ⟨⟩⟩⟩) <;> rfl

/-- Accepts on an open listener try again in turn. -/
theorem retries {pendings : List Nat} (found : mux.listeners.get? which = some listener)
    (waits : ∀ pending ∈ pendings, pending ∈ mux.host.waitingAt listener.socket)
    (distinct : pendings.Nodup) :
    Polled which ⟨mux, false, false, 0, []⟩
      ⟨{ mux with
        host := pendings.foldl (fun host pending => host.retryAccept listener.socket pending)
          mux.host }, false, false, 0, []⟩ := by
  induction pendings generalizing mux with
  | nil => exact .refl which _
  | cons first others inductionHypothesis =>
    obtain ⟨absent, distinct⟩ := List.nodup_cons.mp distinct
    refine (retry found (waits first List.mem_cons_self)).trans
      (inductionHypothesis found (fun pending member => ?_) distinct)
    refine Host.mem_waitingAt_retryAccept (waits pending (List.mem_cons_of_mem _ member)) ?_
    rintro rfl
    exact absent member

/-- Accepts on a listener that has let go of its socket are refused in turn. -/
theorem refusals {pendings : List Nat} (found : mux.listeners.get? which = some listener)
    (waiting : mux.host.waitingAt listener.socket = pendings) :
    Polled which ⟨mux, true, true, 0, []⟩
      ⟨{ mux with
        host := pendings.foldl
          (fun host pending => host.refuseAccept listener.socket pending true) mux.host },
        true, true, 0, []⟩ := by
  induction pendings generalizing mux with
  | nil => exact .refl which _
  | cons first others inductionHypothesis =>
    have waits : first ∈ mux.host.waitingAt listener.socket := waiting ▸ List.mem_cons_self
    have allowed : (ListenerTurn.look first).Allowed which ⟨mux, true, true, 0, []⟩ :=
      ⟨waiters_of_found found ▸ waits, List.not_mem_nil⟩
    have refused := single allowed rfl
    rw [take_of_unmarked found rfl rfl] at refused
    exact refused.trans (inductionHypothesis found (Host.waitingAt_refuseAccept waiting true))

/-- A close marks the listener, announces itself, and lets go of the socket. -/
theorem closing (found : mux.listeners.get? which = some listener) :
    Polled which ⟨mux, false, false, 0, []⟩
      ⟨{ mux with
        host := mux.host.letGo listener.socket
        listeners := mux.listeners.modify which MuxListener.closed }, true, true, 0, []⟩ := by
  let marked := { mux with listeners := mux.listeners.modify which MuxListener.closed }
  have present : marked.listeners.get? which = some listener.closed := by simp [marked, found]
  have closed : marked.hasClosed which = true := hasClosed_of_found present
  have marks : ListenerTurn.mark.Allowed which ⟨mux, false, false, 0, []⟩ := trivial
  have announces : ListenerTurn.announce.Allowed which ⟨marked, false, false, 0, []⟩ := closed
  have releases : ListenerTurn.release.Allowed which ⟨marked, true, false, 0, []⟩ := ⟨rfl, rfl⟩
  have first := single marks rfl
  have second := single announces rfl
  have third := single releases rfl
  rw [take_mark found] at first
  rw [take_of_unmarked present rfl rfl] at second third
  exact (first.trans second).trans third

/-- Turns at a listener change its socket at most, and whether it is closed. -/
theorem changes (polled : point.Polled which after)
    (found : point.mux.listeners.get? which = some listener) (tended : point.Tended which) :
    ∃ isClosed, ChangesAt which listener point.mux after.mux isClosed := by
  obtain ⟨instants, course, here⟩ := polled
  induction course with
  | nothing => exact ⟨listener.isClosed, .of_worksAt found (.refl _ _)⟩
  | @more instants between earlier turn allowed inductionHypothesis =>
    obtain ⟨isClosed, changes⟩ :=
      inductionHypothesis fun instant member => here instant (List.mem_cons_of_mem _ member)
    have present := changes.found found
    have works := (earlier.tended tended).1.worksAt allowed present
    rw [mux_take present (here _ List.mem_cons_self)]
    refine ⟨isClosed || turn.marks, ?_, changes.authorities, changes.works.trans works⟩
    rw [changes.listeners, Table.modify_modify]

end Polled

end ListenerPoint

end SocketMux
