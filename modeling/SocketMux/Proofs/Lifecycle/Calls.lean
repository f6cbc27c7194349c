import SocketMux.Proofs.Lifecycle.Resting

/-!
# Accepts, from the call on

An accept that is called at rest is a course of turns at its listener: it looks whether the close
was announced, takes hold of the socket, looks again and tries the queue. What it returns in these
turns is what it returns at a stroke (`Multiplexer.IsCall`), whether it then waits
(`Multiplexer.beginAcceptOn_isCall`) or is given up (`Multiplexer.acceptOn_isCall`).
-/

namespace SocketMux

/-- What an accept that is tried once returns, if it does not have to wait. -/
def Multiplexer.attempted? (mux : Multiplexer) (which : Nat) : Option (Except MuxError Nat) :=
  match (mux.acceptOn which).1 with
  | .ok connection => connection.map .ok
  | .error err => some (.error err)

/-- What an accept that is begun returns at once, if it does not wait. -/
def Multiplexer.begun? (mux : Multiplexer) (which : Nat) : Option (Except MuxError Nat) :=
  ((mux.beginAcceptOn which).2.host.accepts.get? (mux.beginAcceptOn which).1).bind
    PendingAccept.returned?

/-- The state in which a new accept holds the socket of a listener. -/
def Multiplexer.heldBy (mux : Multiplexer) (listener : MuxListener) : Multiplexer :=
  { mux with host := mux.host.holdAt listener.socket }

/-- Turns at a listener, from rest to rest, in which an accept is called. -/
structure Multiplexer.IsCall (which : Nat) (before after : Multiplexer)
    (outcome : Option (Except MuxError Nat)) (instants : List ListenerInstant) : Prop where
  course : ListenerCourse which (before.atRest which) instants (after.atRest which)
  called : ⟨before.atRest which, .call⟩ ∈ instants
  returns : instants.filterMap (fun instant => instant.returned? which) = outcome.toList

namespace ListenerPoint

open Multiplexer

variable {which : Nat} {mux : Multiplexer} {listener : MuxListener}

/-- The turns of an accept that is called on an open listener, up to its first try. -/
def callInstants (mux : Multiplexer) (listener : MuxListener) : List ListenerInstant :=
  [⟨⟨mux.heldBy listener, false, false, 0, [mux.host.accepts.size]⟩, .take mux.host.accepts.size⟩,
    ⟨⟨mux.heldBy listener, false, false, 0, []⟩, .look mux.host.accepts.size⟩,
    ⟨⟨mux, false, false, 1, []⟩, .hold⟩,
    ⟨⟨mux, false, false, 0, []⟩, .call⟩]

theorem callInstants_course {state : ListeningSocket}
    (found : mux.listeners.get? which = some listener)
    (there : mux.host.sockets.get? listener.socket = some state) :
    ListenerCourse which ⟨mux, false, false, 0, []⟩ (callInstants mux listener)
      ⟨{ mux with host := (mux.host.beginAccept listener.socket).2 }, false, false, 0, []⟩ := by
  have present : (mux.listeners.get? which).isSome := Option.isSome_of_eq_some found
  have calls : ListenerTurn.call.Allowed which ⟨mux, false, false, 0, []⟩ := present
  have holds : ListenerTurn.hold.Allowed which ⟨mux, false, false, 1, []⟩ :=
    ⟨Nat.one_pos, present⟩
  have called := ListenerCourse.single calls
  have held := ListenerCourse.single holds
  rw [take_of_unmarked found rfl rfl] at called held
  have waits : mux.host.accepts.size ∈
      (mux.heldBy listener).host.waitingAt listener.socket := Host.mem_waitingAt_holdAt there
  rw [Host.beginAccept_eq]
  exact (called.trans held).trans (retry_course found waits)

/-- Before it tries the queue, an accept on an open listener returns nothing. -/
theorem callInstants_returns (found : mux.listeners.get? which = some listener) :
    (callInstants mux listener).filterMap (fun instant => instant.returned? which) =
      (((mux.host.beginAccept listener.socket).2.accepts.get? mux.host.accepts.size).bind
        PendingAccept.returned?).toList := by
  have waits : (mux.heldBy listener).host.accepts.get? mux.host.accepts.size = some .waiting := by
    simp [heldBy, Host.holdAt]
  have called : ListenerPoint.returned? ⟨mux, false, false, 0, []⟩ which .call = none :=
    Tended.returned?_call found
  have holds : ListenerPoint.returned? ⟨mux, false, false, 1, []⟩ which .hold = none :=
    Tended.returned?_hold found
  have looked : ListenerPoint.returned? ⟨mux.heldBy listener, false, false, 0, []⟩ which
      (.look mux.host.accepts.size) = none := Tended.returned?_look found waits
  have tried : ListenerPoint.returned?
      ⟨mux.heldBy listener, false, false, 0, [mux.host.accepts.size]⟩ which
      (.take mux.host.accepts.size) =
        ((mux.host.beginAccept listener.socket).2.accepts.get? mux.host.accepts.size).bind
          PendingAccept.returned? := by
    rw [Host.beginAccept_eq]
    exact Tended.returned?_eq found rfl
  simp only [callInstants, List.filterMap_cons, ListenerInstant.returned?, called, holds, looked,
    tried, List.filterMap_nil]
  cases ((mux.host.beginAccept listener.socket).2.accepts.get? mux.host.accepts.size).bind
    PendingAccept.returned? <;> rfl

end ListenerPoint

namespace Multiplexer

open ListenerPoint

variable {which : Nat} {mux : Multiplexer} {listener : MuxListener}

theorem acceptOn_of_closed (found : mux.listeners.get? which = some listener)
    (closed : listener.isClosed = true) : mux.acceptOn which = (.error .closed, mux) := by
  unfold acceptOn
  simp only [found, closed, if_true]

theorem acceptOn_of_open (found : mux.listeners.get? which = some listener)
    (isOpen : listener.isClosed = false) :
    mux.acceptOn which = (.ok (mux.host.accept listener.socket).1,
      { mux with host := (mux.host.accept listener.socket).2 }) := by
  unfold acceptOn
  simp only [found, isOpen, Bool.false_eq_true, if_false]

theorem beginAcceptOn_of_closed (found : mux.listeners.get? which = some listener)
    (closed : listener.isClosed = true) :
    mux.beginAcceptOn which = ((mux.host.noteAccept .closed).1,
      { mux with host := (mux.host.noteAccept .closed).2 }) := by
  unfold beginAcceptOn
  simp only [found, closed, if_true]

theorem beginAcceptOn_of_open (found : mux.listeners.get? which = some listener)
    (isOpen : listener.isClosed = false) :
    mux.beginAcceptOn which = ((mux.host.beginAccept listener.socket).1,
      { mux with host := (mux.host.beginAccept listener.socket).2 }) := by
  unfold beginAcceptOn
  simp only [found, isOpen, Bool.false_eq_true, if_false]

/-- An accept that is called on a closed listener is refused at once. -/
theorem isCall_of_closed (found : mux.listeners.get? which = some listener)
    (closed : listener.isClosed = true) :
    IsCall which mux { mux with host := (mux.host.noteAccept .closed).2 } (some (.error .closed))
      [⟨⟨mux, true, true, 0, []⟩, .call⟩] := by
  have calls : ListenerTurn.call.Allowed which ⟨mux, true, true, 0, []⟩ :=
    Option.isSome_of_eq_some found
  have called := ListenerCourse.single calls
  rw [take_of_unmarked found rfl rfl] at called
  have returns : ListenerPoint.returned? ⟨mux, true, true, 0, []⟩ which .call =
      some (.error .closed) := Tended.returned?_call found
  have resting := atRest_of_closed mux found closed
  have rested := atRest_of_closed { mux with host := (mux.host.noteAccept .closed).2 } found closed
  refine ⟨?_, ?_, ?_⟩
  · rw [resting, rested]
    exact called
  · rw [resting]
    exact List.mem_singleton_self _
  · simp only [List.filterMap_cons, ListenerInstant.returned?, returns]
    rfl

/-- An accept that is begun on a listener is a course of turns there. -/
theorem beginAcceptOn_isCall (found : mux.listeners.get? which = some listener)
    {state : ListeningSocket} (there : mux.host.sockets.get? listener.socket = some state) :
    ∃ instants, IsCall which mux (mux.beginAcceptOn which).2 (mux.begun? which) instants := by
  unfold begun?
  rcases Bool.eq_false_or_eq_true listener.isClosed with closed | isOpen
  · have isCall := isCall_of_closed found closed
    rw [beginAcceptOn_of_closed found closed]
    exact ⟨_, by simpa [Host.noteAccept, PendingAccept.returned?] using isCall⟩
  · rw [beginAcceptOn_of_open found isOpen]
    have resting := atRest_of_open mux found isOpen
    have rested := atRest_of_open { mux with host := (mux.host.beginAccept listener.socket).2 }
      found isOpen
    refine ⟨callInstants mux listener, ?_, ?_, ?_⟩
    · rw [resting, rested]
      exact callInstants_course found there
    · rw [resting]
      simp [callInstants]
    · rw [callInstants_returns found, Host.beginAccept_eq]

/-- A call may go on with a turn in which no accept is polled. -/
theorem IsCall.more {before between after : Multiplexer}
    {outcome : Option (Except MuxError Nat)} {instants : List ListenerInstant}
    {turn : ListenerTurn} (isCall : IsCall which before between outcome instants)
    (allowed : turn.Allowed which (between.atRest which))
    (unpolled : (between.atRest which).polled? turn = none)
    (rests : (between.atRest which).take which turn = after.atRest which) :
    IsCall which before after outcome (⟨between.atRest which, turn⟩ :: instants) := by
  have silent : ListenerInstant.returned? ⟨between.atRest which, turn⟩ which = none := by
    rw [ListenerInstant.returned?, ListenerPoint.returned?, unpolled]
    rfl
  refine ⟨?_, List.mem_cons_of_mem _ isCall.called, ?_⟩
  · rw [← rests]
    exact isCall.course.more turn allowed
  · simp only [List.filterMap_cons, silent]
    exact isCall.returns

/-- A call may go on with something that is not about the listener. -/
theorem IsCall.elsewhere {before between after : Multiplexer}
    {outcome : Option (Except MuxError Nat)} {instants : List ListenerInstant}
    (isCall : IsCall which before between outcome instants)
    (leaves : between.Leaves which after) :
    IsCall which before after outcome (⟨between.atRest which, .elsewhere after⟩ :: instants) :=
  isCall.more leaves rfl leaves.take

/-- What ends at the socket of a listener without a trace is nothing there. -/
theorem leaves_of_host (found : mux.listeners.get? which = some listener) {host : Host}
    (after : Host) {isReleased : Bool} {state : ListeningSocket}
    (tends : after.Tends listener.socket isReleased state)
    (sockets : host.sockets.get? listener.socket = after.sockets.get? listener.socket)
    (accepts : ∀ pending < after.accepts.size,
      host.accepts.get? pending = after.accepts.get? pending)
    (connections : host.connections.size = after.connections.size) :
    ({ mux with host } : Multiplexer).Leaves which { mux with host := after } := by
  refine ⟨fun absent _ _ => ?_, fun one present => ?_, Nat.le_of_eq connections⟩
  · cases found.symm.trans absent
  · cases found.symm.trans present
    refine ⟨found, sockets.symm, fun pending waits => (accepts pending ?_).symm⟩
    unfold Host.waitingAt at waits
    simp only [sockets, tends.found] at waits
    exact (List.getElem?_eq_some_iff.mp (tends.waits pending waits)).1

/-- A call whose accept holds the socket of an open listener may go on with giving it up, which
leaves nothing behind at the socket. -/
theorem IsCall.giveUp {before : Multiplexer} {outcome : Option (Except MuxError Nat)}
    {instants : List ListenerInstant} {state : ListeningSocket}
    (isCall : IsCall which before (mux.heldBy listener) outcome instants)
    (found : mux.listeners.get? which = some listener) (isOpen : listener.isClosed = false)
    (tends : mux.host.Tends listener.socket false state) :
    ∃ instants, IsCall which before mux outcome instants := by
  let given := { mux with
    host := (mux.host.holdAt listener.socket).endAccept listener.socket mux.host.accepts.size
      .closed }
  have resting := atRest_of_open (mux.heldBy listener) found isOpen
  have rested := atRest_of_open given found isOpen
  have waits : mux.host.accepts.size ∈ (mux.heldBy listener).waiters which := by
    have held : (mux.heldBy listener).listeners.get? which = some listener := found
    rw [waiters_of_found held]
    exact Host.mem_waitingAt_holdAt tends.found
  have allowed : (ListenerTurn.giveUp mux.host.accepts.size).Allowed which
      ((mux.heldBy listener).atRest which) := by
    rw [resting]
    exact ⟨waits, List.not_mem_nil⟩
  have rests : ((mux.heldBy listener).atRest which).take which (.giveUp mux.host.accepts.size) =
      given.atRest which := by
    rw [resting, rested]
    exact take_giveUp found
  refine ⟨_, (isCall.more allowed rfl rests).elsewhere
    (leaves_of_host found mux.host tends ?_ (fun pending known => ?_) rfl)⟩
  · simp [Host.endAccept, Host.holdAt, tends.found]
  · have differs : mux.host.accepts.size ≠ pending := Nat.ne_of_gt known
    simp [Host.endAccept, Host.holdAt, Table.get?_modify, differs, Table.get?_add_of_lt _ _ known]

/-- An accept that is tried once is a course of turns, in which it is given up if it would have to
wait. -/
theorem acceptOn_isCall (found : mux.listeners.get? which = some listener)
    {state : ListeningSocket} (tends : mux.host.Tends listener.socket listener.isClosed state) :
    ∃ instants, IsCall which mux (mux.acceptOn which).2 (mux.attempted? which) instants := by
  rcases Bool.eq_false_or_eq_true listener.isClosed with closed | isOpen
  · have isCall := isCall_of_closed found closed
    rw [attempted?, acceptOn_of_closed found closed]
    refine ⟨_, isCall.elsewhere (leaves_of_host found mux.host tends rfl ?_ rfl)⟩
    exact fun pending known => Table.get?_add_of_lt _ _ known
  · obtain ⟨instants, isCall⟩ := beginAcceptOn_isCall found tends.found
    rw [begun?, beginAcceptOn_of_open found isOpen] at isCall
    rw [attempted?, acceptOn_of_open found isOpen]
    rw [isOpen] at tends
    have stands : state.isOpen = true := tends.isOpen.mpr (.inl rfl)
    cases backlog : state.backlog with
    | cons first others =>
      have accepted := tends.accept stands
      simp only [Host.accept, tends.found, backlog, Option.map_some] at accepted
      simp only [Host.beginAccept, Host.accept, tends.found, backlog, Option.map_some,
        Table.add_fst, Table.get?_add_size, Option.bind_some, PendingAccept.returned?] at isCall ⊢
      refine ⟨_, isCall.elsewhere (leaves_of_host found _ accepted rfl ?_ rfl)⟩
      exact fun pending known => Table.get?_add_of_lt _ _ known
    | nil =>
      simp only [Host.beginAccept, Host.accept, tends.found, backlog, Option.map_some,
        Table.add_fst, Table.get?_add_size, Option.bind_some, PendingAccept.returned?,
        Option.map_none] at isCall ⊢
      exact isCall.giveUp found isOpen tends

end Multiplexer

end SocketMux
