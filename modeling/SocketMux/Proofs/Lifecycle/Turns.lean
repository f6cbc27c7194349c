import SocketMux.Proofs.Lifecycle.Ledger
import SocketMux.Proofs.Lifecycle.Queues

/-!
# Turns at a listener

A listener is closed in three steps: it is marked as closed, all accepts are told, and the
listener lets go of its socket. An accept takes steps, too. When it is called it looks whether
it has been told, and takes hold of the socket unless the listener has let go of it. Each time it
is polled it looks again and then tries to take a connection; if there is none it waits and holds
the socket. Between any two of these steps a task may be interrupted and anything may happen, so
each step is a `ListenerTurn` of its own, from one `ListenerPoint` to the next.

`ListenerPoint.Tended` is what every turn keeps. What is queued at a socket stays there until it is
accepted or reset (`ListenerPoint.Tended.queued_take`), and an accept holds the socket until it
returns or is given up (`ListenerPoint.Tended.waiters_take`).
-/

namespace SocketMux

/-- A listener between two turns. -/
structure ListenerPoint where
  mux : Multiplexer
  /-- Whether the accepts were told that the listener is closed. -/
  isAnnounced : Bool
  /-- Whether the listener has let go of its socket. -/
  isReleased : Bool
  /-- The number of accepts that were called before they were told and do not hold the socket
  yet. -/
  called : Nat
  /-- The accepts that have looked in vain and are to try the queue next. -/
  looking : List Nat

/-- What happens at a listener between two points at which a task can be interrupted. -/
inductive ListenerTurn where
  /-- Somebody connects. The connection is queued; whoever waits for it is yet to be polled. -/
  | arrive
  /-- An accept is called, and looks whether the close was announced. -/
  | call
  /-- An accept that was called takes hold of the socket. -/
  | hold
  /-- An accept that holds the socket is polled, and looks whether the close was announced. -/
  | look (pending : Nat)
  /-- An accept that has looked in vain tries to take a connection. -/
  | take (pending : Nat)
  /-- An accept that waits is given up. -/
  | giveUp (pending : Nat)
  /-- The listener is marked as closed. -/
  | mark
  /-- The close is announced to all accepts. -/
  | announce
  /-- The listener lets go of its socket. -/
  | release
  /-- Something happens that is not about the listener. -/
  | elsewhere (after : Multiplexer)

/-- What an accept has returned, if it has come to its end. -/
def PendingAccept.returned? : PendingAccept → Option (Except MuxError Nat)
  | waiting => none
  | accepted connection => some (.ok connection)
  | closed => some (.error .closed)

namespace ListenerTurn

/-- Whether an accept looks for the announcement. -/
def looks : ListenerTurn → Bool
  | call | look _ => true
  | _ => false

def marks : ListenerTurn → Bool
  | mark => true
  | _ => false

def announces : ListenerTurn → Bool
  | announce => true
  | _ => false

def releases : ListenerTurn → Bool
  | release => true
  | _ => false

/-- Whether a turn is about the listener. -/
def isHere : ListenerTurn → Bool
  | elsewhere _ => false
  | _ => true

/-- A turn that is not about the listener is something that happens elsewhere. -/
theorem eq_elsewhere {turn : ListenerTurn} (away : turn.isHere = false) :
    ∃ after, turn = .elsewhere after := by
  cases turn with
  | elsewhere after => exact ⟨after, rfl⟩
  | _ => cases away

/-- The accept that holds the socket and whose turn it is. -/
def holder? : ListenerTurn → Option Nat
  | look pending | take pending | giveUp pending => some pending
  | _ => none

/-- What a turn does at the socket of the listener. -/
def work (turn : ListenerTurn) (point : ListenerPoint) (host : Host) (socket : Nat) : Host :=
  match turn with
  | arrive => host.queueAt socket
  | call => if point.isAnnounced then (host.noteAccept .closed).2 else host
  | hold => if point.isReleased then (host.noteAccept .closed).2 else host.holdAt socket
  | look pending =>
    if point.isAnnounced then host.refuseAccept socket pending point.isReleased else host
  | take pending => (host.retryAccept socket pending).settle socket point.isReleased
  | giveUp pending => host.refuseAccept socket pending point.isReleased
  | release => host.letGo socket
  | mark | announce | elsewhere _ => host

end ListenerTurn

namespace Multiplexer

/-- The accepts that hold the socket of a listener. -/
def waiters (mux : Multiplexer) (which : Nat) : List Nat :=
  (mux.listeners.get? which).elim [] fun listener => mux.host.waitingAt listener.socket

/-- The connections that wait to be accepted on a listener. -/
def queued (mux : Multiplexer) (which : Nat) : List Nat :=
  (mux.listeners.get? which).elim [] fun listener => mux.host.queuedAt listener.socket

/-- Whether what happens is not about a listener: its socket stays as it is, and so do the accepts
that wait there. A listener that is made meanwhile is open, and nobody waits at its socket. No
connection vanishes. -/
structure Leaves (which : Nat) (before after : Multiplexer) : Prop where
  made : before.listeners.get? which = none →
    ∀ listener, after.listeners.get? which = some listener → listener.isClosed = false ∧
      ∃ spot, after.host.sockets.get? listener.socket = some ⟨spot, [], [], true⟩
  kept : ∀ listener, before.listeners.get? which = some listener →
    after.listeners.get? which = some listener ∧
      after.host.sockets.get? listener.socket = before.host.sockets.get? listener.socket ∧
      ∀ pending ∈ before.host.waitingAt listener.socket,
        after.host.accepts.get? pending = before.host.accepts.get? pending
  connections : before.host.connections.size ≤ after.host.connections.size

/-- A listener of which no close is under way, while no accept is in the middle of a poll. -/
def atRest (mux : Multiplexer) (which : Nat) : ListenerPoint :=
  ⟨mux, mux.hasClosed which, mux.hasClosed which, 0, []⟩

/-- Whether a closed listener is out of reach: its socket is closed, nothing is queued there, and
whoever connects gets to another socket, if to any. -/
structure IsShut (mux : Multiplexer) (which : Nat) : Prop where
  socket : ∀ listener state, mux.listeners.get? which = some listener →
    mux.host.sockets.get? listener.socket = some state → state.isOpen = false
  queued : mux.queued which = []
  reach : ∀ listener, mux.listeners.get? which = some listener →
    ∀ path, mux.host.reach path ≠ .ok listener.socket
  reachName : ∀ listener, mux.listeners.get? which = some listener →
    ∀ name, mux.host.reachName name ≠ .ok listener.socket

end Multiplexer

namespace ListenerPoint

/-- The state after a turn. -/
def muxAfter (point : ListenerPoint) (which : Nat) (turn : ListenerTurn) : Multiplexer :=
  match turn with
  | .elsewhere after => after
  | turn =>
    match point.mux.listeners.get? which with
    | none => point.mux
    | some listener =>
      { point.mux with
        host := turn.work point point.mux.host listener.socket
        listeners := point.mux.listeners.modify which fun listener =>
          { listener with isClosed := listener.isClosed || turn.marks } }

/-- What a turn leads to. -/
def take (point : ListenerPoint) (which : Nat) (turn : ListenerTurn) : ListenerPoint where
  mux := point.muxAfter which turn
  isAnnounced := point.isAnnounced || turn.announces
  isReleased := point.isReleased || turn.releases
  called :=
    match turn with
    | .call => if point.isAnnounced then point.called else point.called + 1
    | .hold => point.called - 1
    | _ => point.called
  looking :=
    match turn with
    | .look pending => if point.isAnnounced then point.looking else pending :: point.looking
    | .take pending => point.looking.filter (· != pending)
    | _ => point.looking

/-- The accept that is called or polled in a turn. One that does not hold the socket yet has the
next number. -/
def polled? (point : ListenerPoint) : ListenerTurn → Option Nat
  | .call | .hold => some point.mux.host.accepts.size
  | .look pending | .take pending => some pending
  | _ => none

/-- What the accept that is called or polled in a turn returns, if it returns. -/
def returned? (point : ListenerPoint) (which : Nat) (turn : ListenerTurn) :
    Option (Except MuxError Nat) :=
  (point.polled? turn).bind fun pending =>
    ((point.take which turn).mux.host.accepts.get? pending).bind PendingAccept.returned?

/-- Whether a later point has all steps of a close behind it that an earlier one has. Once a close
is announced no accept looks in vain any more, and once the listener has let go of its socket
nobody takes hold of it. -/
structure ClosesOn (which : Nat) (before after : ListenerPoint) : Prop where
  marked : before.mux.hasClosed which = true → after.mux.hasClosed which = true
  announced : before.isAnnounced = true → after.isAnnounced = true
  released : before.isReleased = true → after.isReleased = true
  looking : before.isAnnounced = true → after.looking ⊆ before.looking
  waiters : before.isReleased = true → after.mux.waiters which ⊆ before.mux.waiters which

theorem ClosesOn.refl (which : Nat) (point : ListenerPoint) : ClosesOn which point point :=
  ⟨id, id, id, fun _ => List.Subset.refl _, fun _ => List.Subset.refl _⟩

theorem ClosesOn.trans {which : Nat} {before between after : ListenerPoint}
    (early : ClosesOn which before between) (late : ClosesOn which between after) :
    ClosesOn which before after where
  marked := late.marked ∘ early.marked
  announced := late.announced ∘ early.announced
  released := late.released ∘ early.released
  looking announced := List.Subset.trans (late.looking (early.announced announced))
    (early.looking announced)
  waiters released := List.Subset.trans (late.waiters (early.released released))
    (early.waiters released)

end ListenerPoint

/-- When a turn can be taken. Connections arrive at open sockets, accepts are called on listeners
that were made and go through their steps in order, and only between two polls is an accept given
up. A close takes its steps in order, too. -/
def ListenerTurn.Allowed (which : Nat) (point : ListenerPoint) : ListenerTurn → Prop
  | arrive => ∃ listener state, point.mux.listeners.get? which = some listener ∧
      point.mux.host.sockets.get? listener.socket = some state ∧ state.isOpen = true
  | call => (point.mux.listeners.get? which).isSome
  | hold => 0 < point.called ∧ (point.mux.listeners.get? which).isSome
  | look pending | giveUp pending => pending ∈ point.mux.waiters which ∧ pending ∉ point.looking
  | take pending => pending ∈ point.looking
  | mark => True
  | announce => point.mux.hasClosed which = true
  | release => point.isAnnounced = true ∧ point.isReleased = false
  | elsewhere after => point.mux.Leaves which after

namespace Multiplexer

variable {mux : Multiplexer} {which : Nat} {listener : MuxListener}

theorem hasClosed_of_found (found : mux.listeners.get? which = some listener) :
    mux.hasClosed which = listener.isClosed := by
  unfold hasClosed
  rw [found]
  rfl

theorem found_of_hasClosed (closed : mux.hasClosed which = true) :
    ∃ listener, mux.listeners.get? which = some listener ∧ listener.isClosed = true := by
  unfold hasClosed at closed
  cases found : mux.listeners.get? which with
  | none => simp [found] at closed
  | some listener => exact ⟨listener, rfl, by simpa [found] using closed⟩

theorem waiters_of_found (found : mux.listeners.get? which = some listener) :
    mux.waiters which = mux.host.waitingAt listener.socket := by
  unfold waiters
  rw [found]
  rfl

/-- A listener that is waited for is there. -/
theorem found_of_mem_waiters {pending : Nat} (waits : pending ∈ mux.waiters which) :
    ∃ listener, mux.listeners.get? which = some listener ∧
      pending ∈ mux.host.waitingAt listener.socket := by
  cases found : mux.listeners.get? which with
  | none => simp [waiters, found] at waits
  | some listener => exact ⟨listener, rfl, waiters_of_found found ▸ waits⟩

theorem queued_of_found (found : mux.listeners.get? which = some listener) :
    mux.queued which = mux.host.queuedAt listener.socket := by
  unfold queued
  rw [found]
  rfl

theorem mem_waiters {pending : Nat} {isReleased : Bool} {state : ListeningSocket}
    (found : mux.listeners.get? which = some listener)
    (tends : mux.host.Tends listener.socket isReleased state)
    (waits : pending ∈ mux.waiters which) :
    pending ∈ mux.host.waitingAt listener.socket ∧ pending ∈ state.waiting := by
  rw [waiters_of_found found] at waits
  exact ⟨waits, tends.waitingAt ▸ waits⟩

/-- What is not about a listener leaves it open or closed. -/
theorem Leaves.hasClosed {after : Multiplexer} (leaves : mux.Leaves which after) :
    after.hasClosed which = mux.hasClosed which := by
  cases found : mux.listeners.get? which with
  | some listener => rw [hasClosed_of_found found, hasClosed_of_found (leaves.kept _ found).1]
  | none =>
    have before : mux.hasClosed which = false := by
      simp [Multiplexer.hasClosed, found]
    rw [before]
    cases present : after.listeners.get? which with
    | none => simp [Multiplexer.hasClosed, present]
    | some listener => rw [hasClosed_of_found present, (leaves.made found listener present).1]

/-- What is not about a listener leaves those who wait there alone. -/
theorem Leaves.waiters {after : Multiplexer} (leaves : mux.Leaves which after) :
    after.waiters which = mux.waiters which := by
  cases found : mux.listeners.get? which with
  | some listener =>
    obtain ⟨present, sockets, -⟩ := leaves.kept listener found
    rw [waiters_of_found found, waiters_of_found present, Host.waitingAt, Host.waitingAt, sockets]
  | none =>
    cases present : after.listeners.get? which with
    | none => simp [Multiplexer.waiters, found, present]
    | some listener =>
      obtain ⟨-, spot, listens⟩ := leaves.made found listener present
      simp [Multiplexer.waiters, found, present, Host.waitingAt, listens]

/-- What is not about a listener leaves its queue alone. -/
theorem Leaves.queued {after : Multiplexer} (leaves : mux.Leaves which after) :
    after.queued which = mux.queued which := by
  cases found : mux.listeners.get? which with
  | some listener =>
    obtain ⟨present, sockets, -⟩ := leaves.kept listener found
    rw [queued_of_found found, queued_of_found present, Host.queuedAt, Host.queuedAt, sockets]
  | none =>
    cases present : after.listeners.get? which with
    | none => simp [Multiplexer.queued, found, present]
    | some listener =>
      obtain ⟨-, spot, listens⟩ := leaves.made found listener present
      simp [Multiplexer.queued, found, present, Host.queuedAt, listens]

end Multiplexer

namespace ListenerPoint

open Multiplexer

variable {point : ListenerPoint} {which : Nat} {listener : MuxListener} {turn : ListenerTurn}

/-- A turn at a listener works at its socket, and marks the listener if that is the turn. -/
theorem mux_take (found : point.mux.listeners.get? which = some listener)
    (here : turn.isHere = true) :
    (point.take which turn).mux =
      { point.mux with
        host := turn.work point point.mux.host listener.socket
        listeners := point.mux.listeners.modify which fun listener =>
          { listener with isClosed := listener.isClosed || turn.marks } } := by
  cases turn with
  | elsewhere after => cases here
  | _ => simp only [take, muxAfter, found]

theorem found_take (found : point.mux.listeners.get? which = some listener)
    (here : turn.isHere = true) :
    (point.take which turn).mux.listeners.get? which =
      some { listener with isClosed := listener.isClosed || turn.marks } := by
  rw [mux_take found here]
  simp [found]

theorem mux_take_of_unmarked (found : point.mux.listeners.get? which = some listener)
    (here : turn.isHere = true) (unmarked : turn.marks = false) :
    (point.take which turn).mux =
      { point.mux with host := turn.work point point.mux.host listener.socket } := by
  have same : point.mux.listeners.modify which (fun listener =>
      { listener with isClosed := listener.isClosed || turn.marks }) = point.mux.listeners := by
    refine Table.modify_eq_self _ _ _ fun row _ => ?_
    rw [unmarked, Bool.or_false]
  rw [mux_take found here, same]

/-- What turns keep of a listener: its socket is open as long as somebody holds it, the steps of
its close follow each other, and accepts that are to try the queue hold the socket. -/
structure Tended (point : ListenerPoint) (which : Nat) : Prop where
  socket : ∀ listener, point.mux.listeners.get? which = some listener →
    ∃ state, point.mux.host.Tends listener.socket point.isReleased state
  announced : point.isAnnounced = true → point.mux.hasClosed which = true
  released : point.isReleased = true → point.isAnnounced = true
  looking : ∀ pending ∈ point.looking, pending ∈ point.mux.waiters which

namespace Tended

/-- Whoever has his turn at a socket that he holds is among those who hold it. -/
theorem holds (tended : point.Tended which) (allowed : turn.Allowed which point) {pending : Nat}
    (holder : turn.holder? = some pending) : pending ∈ point.mux.waiters which := by
  cases turn with
  | look | giveUp =>
    cases holder
    exact allowed.1
  | take =>
    cases holder
    exact tended.looking _ allowed
  | _ => cases holder

/-- An accept that holds the socket of a listener has not returned. -/
theorem waits (tended : point.Tended which)
    (found : point.mux.listeners.get? which = some listener) {pending : Nat}
    (holds : pending ∈ point.mux.waiters which) :
    pending ∈ point.mux.host.waitingAt listener.socket ∧
      point.mux.host.accepts.get? pending = some .waiting := by
  obtain ⟨state, tends⟩ := tended.socket listener found
  obtain ⟨there, among⟩ := mem_waiters found tends holds
  exact ⟨there, tends.waits pending among⟩

/-- Turns at a listener leave all other sockets alone. -/
theorem worksAt (tended : point.Tended which) (allowed : turn.Allowed which point)
    (found : point.mux.listeners.get? which = some listener) :
    point.mux.host.WorksAt listener.socket
      (turn.work point point.mux.host listener.socket) := by
  have there : ∀ pending, turn.holder? = some pending →
      pending ∈ point.mux.host.waitingAt listener.socket :=
    fun pending holder => (tended.waits found (tended.holds allowed holder)).1
  cases turn with
  | arrive => exact Host.queueAt_worksAt _ _
  | call =>
    simp only [ListenerTurn.work]
    split
    · exact Host.noteAccept_worksAt _ _ _
    · exact .refl _ _
  | hold =>
    simp only [ListenerTurn.work]
    split
    · exact Host.noteAccept_worksAt _ _ _
    · exact Host.holdAt_worksAt _ _
  | look pending =>
    simp only [ListenerTurn.work]
    split
    · exact Host.refuseAccept_worksAt (there pending rfl) _
    · exact .refl _ _
  | take pending =>
    exact (Host.retryAccept_worksAt (there pending rfl)).trans (Host.settle_worksAt _ _ _)
  | giveUp pending => exact Host.refuseAccept_worksAt (there pending rfl) _
  | release => exact Host.letGo_worksAt _ _
  | mark | announce | elsewhere => exact .refl _ _

/-- Turns keep the socket open just as long as somebody holds it. -/
theorem tends_work (tended : point.Tended which) (allowed : turn.Allowed which point)
    (found : point.mux.listeners.get? which = some listener) :
    ∃ state, (turn.work point point.mux.host listener.socket).Tends listener.socket
      (point.isReleased || turn.releases) state := by
  obtain ⟨state, tends⟩ := tended.socket listener found
  have among : ∀ pending, turn.holder? = some pending → pending ∈ state.waiting :=
    fun pending holder => (mem_waiters found tends (tended.holds allowed holder)).2
  cases turn with
  | arrive =>
    obtain ⟨other, row, present, there, isOpen⟩ := allowed
    cases found.symm.trans present
    cases tends.found.symm.trans there
    simp only [ListenerTurn.releases, Bool.or_false]
    exact ⟨_, tends.queueAt isOpen⟩
  | call =>
    simp only [ListenerTurn.work, ListenerTurn.releases, Bool.or_false]
    split
    · exact ⟨state, tends.noteAccept _⟩
    · exact ⟨state, tends⟩
  | hold =>
    simp only [ListenerTurn.work, ListenerTurn.releases, Bool.or_false]
    split
    · exact ⟨state, tends.noteAccept _⟩
    · next held =>
      rw [Bool.not_eq_true] at held
      rw [held] at tends ⊢
      exact ⟨_, tends.holdAt⟩
  | look pending =>
    simp only [ListenerTurn.work, ListenerTurn.releases, Bool.or_false]
    split
    · exact tends.endAccept (among pending rfl) _
    · exact ⟨state, tends⟩
  | take pending =>
    simp only [ListenerTurn.releases, Bool.or_false]
    exact tends.retryAccept (among pending rfl)
  | giveUp pending =>
    simp only [ListenerTurn.releases, Bool.or_false]
    exact tends.endAccept (among pending rfl) _
  | release =>
    rw [ListenerTurn.releases, Bool.or_true]
    have isOpen : state.isOpen = true := tends.isOpen.mpr (.inl allowed.2)
    exact Host.Tends.letGo tends.found tends.waits tends.distinct isOpen tends.known
  | mark | announce | elsewhere =>
    simp only [ListenerTurn.work, ListenerTurn.releases, Bool.or_false]
    exact ⟨state, tends⟩

section Returns

/-- The answer to an accept that is called or polled is on record at the socket. -/
theorem returned?_eq (found : point.mux.listeners.get? which = some listener) {pending : Nat}
    (polled : point.polled? turn = some pending) :
    point.returned? which turn = ((turn.work point point.mux.host listener.socket).accepts.get?
      pending).bind PendingAccept.returned? := by
  have here : turn.isHere = true := by
    cases turn with
    | elsewhere => cases polled
    | _ => rfl
  rw [returned?, polled, mux_take found here]
  rfl

theorem returned?_call (found : point.mux.listeners.get? which = some listener) :
    point.returned? which .call = if point.isAnnounced then some (.error .closed) else none := by
  rw [returned?_eq found rfl, ListenerTurn.work]
  split
  · simp [Host.noteAccept, PendingAccept.returned?]
  · have absent : point.mux.host.accepts.get? point.mux.host.accepts.size = none :=
      List.getElem?_eq_none (Nat.le_refl _)
    rw [absent]
    rfl

theorem returned?_hold (found : point.mux.listeners.get? which = some listener) :
    point.returned? which .hold = if point.isReleased then some (.error .closed) else none := by
  rw [returned?_eq found rfl, ListenerTurn.work]
  split
  · simp [Host.noteAccept, PendingAccept.returned?]
  · simp [Host.holdAt, PendingAccept.returned?]

theorem returned?_look (found : point.mux.listeners.get? which = some listener) {pending : Nat}
    (waits : point.mux.host.accepts.get? pending = some .waiting) :
    point.returned? which (.look pending) =
      if point.isAnnounced then some (.error .closed) else none := by
  rw [returned?_eq found rfl, ListenerTurn.work]
  split
  · rw [Host.refuseAccept_outcome waits]
    rfl
  · rw [waits]
    rfl

/-- An accept that tries the queue waits on there, or returns a connection. -/
theorem returned?_take (found : point.mux.listeners.get? which = some listener) {pending : Nat}
    (there : pending ∈ point.mux.host.waitingAt listener.socket)
    (waits : point.mux.host.accepts.get? pending = some .waiting) :
    point.returned? which (.take pending) = none ∧
        pending ∈ (ListenerTurn.work (.take pending) point point.mux.host
          listener.socket).waitingAt listener.socket ∨
      ∃ connection, point.returned? which (.take pending) = some (.ok connection) := by
  rw [returned?_eq found rfl, ListenerTurn.work, Host.settle_accepts]
  obtain ⟨still, waiting⟩ | ⟨connection, accepted⟩ := Host.retryAccept_outcome there waits
  · rw [waiting, Host.settle_of_waits still]
    exact .inl ⟨rfl, still⟩
  · rw [accepted]
    exact .inr ⟨connection, rfl⟩

/-- A listener is there where accepts are called or polled. -/
theorem found_of_polled (tended : point.Tended which) (allowed : turn.Allowed which point)
    {pending : Nat} (polled : point.polled? turn = some pending) :
    ∃ listener, point.mux.listeners.get? which = some listener := by
  cases turn with
  | call => exact Option.isSome_iff_exists.mp allowed
  | hold => exact Option.isSome_iff_exists.mp allowed.2
  | look other | take other =>
    obtain ⟨listener, found, -⟩ := found_of_mem_waiters (tended.holds allowed rfl)
    exact ⟨listener, found⟩
  | _ => cases polled

/-- An accept that looks returns that the listener is closed exactly if that was announced. -/
theorem returned?_eq_closed_iff (tended : point.Tended which)
    (allowed : turn.Allowed which point) (looks : turn.looks = true) :
    point.returned? which turn = some (.error .closed) ↔ point.isAnnounced = true := by
  cases turn with
  | call =>
    obtain ⟨listener, found⟩ := tended.found_of_polled allowed rfl
    rw [returned?_call found]
    split <;> simp [*]
  | look pending =>
    obtain ⟨listener, found⟩ := tended.found_of_polled allowed rfl
    rw [returned?_look found (tended.waits found (tended.holds allowed rfl)).2]
    split <;> simp [*]
  | _ => cases looks

/-- Accepts return that a listener is closed only if that was announced. -/
theorem announced_of_refused (tended : point.Tended which) (allowed : turn.Allowed which point)
    (refused : point.returned? which turn = some (.error .closed)) : point.isAnnounced = true := by
  cases turn with
  | call | look => exact (tended.returned?_eq_closed_iff allowed rfl).mp refused
  | hold =>
    obtain ⟨listener, found⟩ := tended.found_of_polled allowed rfl
    rw [returned?_hold found] at refused
    split at refused
    · next released => exact tended.released released
    · cases refused
  | take pending =>
    obtain ⟨listener, found⟩ := tended.found_of_polled allowed rfl
    obtain ⟨there, waiting⟩ := tended.waits found (tended.holds allowed rfl)
    obtain ⟨none, -⟩ | ⟨connection, accepted⟩ := returned?_take found there waiting
    · rw [none] at refused
      cases refused
    · rw [accepted] at refused
      cases refused
  | _ => cases refused

/-- Only accepts that have looked in vain return a connection. -/
theorem take_of_accepted (tended : point.Tended which) (allowed : turn.Allowed which point)
    {connection : Nat} (accepted : point.returned? which turn = some (.ok connection)) :
    ∃ pending ∈ point.looking, turn = .take pending := by
  cases turn with
  | call =>
    obtain ⟨listener, found⟩ := tended.found_of_polled allowed rfl
    rw [returned?_call found] at accepted
    split at accepted <;> cases accepted
  | hold =>
    obtain ⟨listener, found⟩ := tended.found_of_polled allowed rfl
    rw [returned?_hold found] at accepted
    split at accepted <;> cases accepted
  | look pending =>
    obtain ⟨listener, found⟩ := tended.found_of_polled allowed rfl
    rw [returned?_look found (tended.waits found (tended.holds allowed rfl)).2] at accepted
    split at accepted <;> cases accepted
  | take pending => exact ⟨pending, allowed, rfl⟩
  | _ => cases accepted

end Returns

end Tended

end ListenerPoint

/-- A turn together with the point at which it is taken. -/
structure ListenerInstant where
  point : ListenerPoint
  turn : ListenerTurn

namespace ListenerInstant

/-- The point after a turn. -/
def after (instant : ListenerInstant) (which : Nat) : ListenerPoint :=
  instant.point.take which instant.turn

/-- What an accept returns in a turn. -/
def returned? (instant : ListenerInstant) (which : Nat) : Option (Except MuxError Nat) :=
  instant.point.returned? which instant.turn

/-- Whether an accept is given up, or polled and returns. -/
def Ends (instant : ListenerInstant) (which pending : Nat) : Prop :=
  instant.turn = .giveUp pending ∨
    instant.point.polled? instant.turn = some pending ∧ (instant.returned? which).isSome

end ListenerInstant

namespace ListenerPoint.Tended

open Multiplexer

variable {point : ListenerPoint} {which : Nat} {listener : MuxListener} {turn : ListenerTurn}

/-- A turn at a listener ends no accept but the one that is polled or given up. -/
theorem waits_work (tended : point.Tended which) (allowed : turn.Allowed which point)
    (found : point.mux.listeners.get? which = some listener) {pending : Nat}
    (waits : pending ∈ point.mux.waiters which) :
    pending ∈ (turn.work point point.mux.host listener.socket).waitingAt listener.socket ∨
      ListenerInstant.Ends ⟨point, turn⟩ which pending := by
  obtain ⟨there, waiting⟩ := tended.waits found waits
  cases turn with
  | arrive =>
    rw [ListenerTurn.work, Host.waitingAt_queueAt]
    exact .inl there
  | call =>
    simp only [ListenerTurn.work]
    split
    · exact .inl there
    · exact .inl there
  | hold =>
    simp only [ListenerTurn.work]
    split
    · exact .inl there
    · exact .inl (Host.waitingAt_holdAt _ _ there)
  | look other =>
    simp only [ListenerTurn.work]
    split
    · next announced =>
      by_cases same : pending = other
      · subst same
        have refused := (tended.returned?_eq_closed_iff allowed rfl).mpr announced
        exact .inr (.inr ⟨rfl, Option.isSome_of_eq_some refused⟩)
      · exact .inl (Host.mem_waitingAt_refuseAccept there same _)
    · exact .inl there
  | take other =>
    by_cases same : pending = other
    · subst same
      obtain ⟨-, still⟩ | ⟨connection, accepted⟩ := returned?_take found there waiting
      · exact .inl still
      · exact .inr (.inr ⟨rfl, Option.isSome_of_eq_some accepted⟩)
    · have still := Host.mem_waitingAt_retryAccept there same
      rw [ListenerTurn.work, Host.settle_of_waits still]
      exact .inl still
  | giveUp other =>
    by_cases same : pending = other
    · exact .inr (.inl (same ▸ rfl))
    · exact .inl (Host.mem_waitingAt_refuseAccept there same _)
  | release =>
    rw [ListenerTurn.work, Host.letGo_of_waits there]
    exact .inl there
  | mark | announce | elsewhere => exact .inl there

/-- A turn at a listener takes nothing from its queue but what it resets or an accept takes. -/
theorem queued_work (tended : point.Tended which) (allowed : turn.Allowed which point)
    (found : point.mux.listeners.get? which = some listener) {connection : Nat}
    (queued : connection ∈ point.mux.host.queuedAt listener.socket) :
    let host := turn.work point point.mux.host listener.socket
    connection ∈ host.queuedAt listener.socket ∨ host.HasReset connection ∨
      point.returned? which turn = some (.ok connection) := by
  obtain ⟨state, tends⟩ := tended.socket listener found
  have known := tends.queued_known
  have orReset : ∀ {host : Host}, point.mux.host.KeepsOrResets listener.socket host →
      connection ∈ host.queuedAt listener.socket ∨ host.HasReset connection ∨
        point.returned? which turn = some (.ok connection) :=
    fun keeps => (keeps connection queued).imp_right .inl
  cases turn with
  | arrive =>
    refine orReset (.of_subset ?_)
    simp [Host.queuedAt, ListenerTurn.work, Host.queueAt, tends.found]
  | call =>
    simp only [ListenerTurn.work]
    split <;> exact .inl queued
  | hold =>
    simp only [ListenerTurn.work]
    split
    · exact .inl queued
    · refine orReset (.of_subset ?_)
      simp [Host.queuedAt, Host.holdAt, tends.found]
  | look pending =>
    simp only [ListenerTurn.work]
    split
    · exact orReset (Host.refuseAccept_keepsOrResets _ known)
    · exact .inl queued
  | take pending =>
    have waiting := (tended.waits found (tended.holds allowed rfl)).2
    obtain still | accepted := Host.queuedAt_retryAccept waiting queued
    · have settles := Host.settle_keepsOrResets point.isReleased
        (Host.known_retryAccept pending known)
      exact (settles connection still).imp_right .inl
    · refine .inr (.inr ?_)
      rw [returned?_eq found rfl, ListenerTurn.work, Host.settle_accepts, accepted]
      rfl
  | giveUp pending => exact orReset (Host.refuseAccept_keepsOrResets _ known)
  | release => exact orReset (Host.letGo_keepsOrResets known)
  | mark | announce | elsewhere => exact .inl queued

/-- Once a listener has let go of its socket, nobody takes hold of it any more. -/
theorem waiters_work_subset (tended : point.Tended which) (allowed : turn.Allowed which point)
    (found : point.mux.listeners.get? which = some listener)
    (released : point.isReleased = true) :
    (turn.work point point.mux.host listener.socket).waitingAt listener.socket ⊆
      point.mux.host.waitingAt listener.socket := by
  cases turn with
  | arrive =>
    rw [ListenerTurn.work, Host.waitingAt_queueAt]
    exact List.Subset.refl _
  | call =>
    simp only [ListenerTurn.work]
    split <;> exact List.Subset.refl _
  | hold =>
    simp only [ListenerTurn.work, released, if_true]
    exact List.Subset.refl _
  | look pending =>
    simp only [ListenerTurn.work]
    split
    · exact Host.waitingAt_refuseAccept_subset _ _ _ _
    · exact List.Subset.refl _
  | take pending =>
    have there := (tended.waits found (tended.holds allowed rfl)).1
    exact List.Subset.trans (Host.waitingAt_settle_subset _ _ _)
      (Host.waitingAt_retryAccept_subset there)
  | giveUp pending => exact Host.waitingAt_refuseAccept_subset _ _ _ _
  | release =>
    cases allowed.2.symm.trans released
  | mark | announce | elsewhere => exact List.Subset.refl _

/-- A turn ends no accept but the one that is polled or given up. -/
theorem waiters_take (tended : point.Tended which) (allowed : turn.Allowed which point)
    {pending : Nat} (waits : pending ∈ point.mux.waiters which) :
    pending ∈ (point.take which turn).mux.waiters which ∨
      ListenerInstant.Ends ⟨point, turn⟩ which pending := by
  rcases Bool.eq_false_or_eq_true turn.isHere with here | away
  · obtain ⟨listener, found, -⟩ := found_of_mem_waiters waits
    rw [waiters_of_found (found_take found here), mux_take found here]
    exact tended.waits_work allowed found waits
  · obtain ⟨after, rfl⟩ := ListenerTurn.eq_elsewhere away
    have same : (point.take which (.elsewhere after)).mux.waiters which =
        point.mux.waiters which := allowed.waiters
    exact .inl (same ▸ waits)

/-- A turn takes nothing from the queue but what it resets or an accept takes. -/
theorem queued_take (tended : point.Tended which) (allowed : turn.Allowed which point)
    {connection : Nat} (queued : connection ∈ point.mux.queued which) :
    connection ∈ (point.take which turn).mux.queued which ∨
      (point.take which turn).mux.host.HasReset connection ∨
      point.returned? which turn = some (.ok connection) := by
  rcases Bool.eq_false_or_eq_true turn.isHere with here | away
  · cases found : point.mux.listeners.get? which with
    | none => simp [Multiplexer.queued, found] at queued
    | some listener =>
      rw [queued_of_found found] at queued
      rw [queued_of_found (found_take found here), mux_take found here]
      exact tended.queued_work allowed found queued
  · obtain ⟨after, rfl⟩ := ListenerTurn.eq_elsewhere away
    have same : (point.take which (.elsewhere after)).mux.queued which =
        point.mux.queued which := allowed.queued
    exact .inl (same ▸ queued)

/-- A listener that has let go of its socket was made. -/
theorem made (tended : point.Tended which) (released : point.isReleased = true) :
    ∃ listener, point.mux.listeners.get? which = some listener := by
  obtain ⟨listener, found, -⟩ :=
    found_of_hasClosed (tended.announced (tended.released released))
  exact ⟨listener, found⟩

/-- Once a listener has let go of its socket, nobody takes hold of it any more. -/
theorem waiters_take_subset (tended : point.Tended which) (allowed : turn.Allowed which point)
    (released : point.isReleased = true) :
    (point.take which turn).mux.waiters which ⊆ point.mux.waiters which := by
  rcases Bool.eq_false_or_eq_true turn.isHere with here | away
  · obtain ⟨listener, found⟩ := tended.made released
    rw [waiters_of_found (found_take found here), mux_take found here, waiters_of_found found]
    exact tended.waiters_work_subset allowed found released
  · obtain ⟨after, rfl⟩ := ListenerTurn.eq_elsewhere away
    have same : (point.take which (.elsewhere after)).mux.waiters which =
        point.mux.waiters which := allowed.waiters
    rw [same]
    exact List.Subset.refl _

/-- What happens elsewhere leaves the socket of a listener in order. A new one is in order. -/
theorem socket_elsewhere (tended : point.Tended which) {after : Multiplexer}
    (leaves : point.mux.Leaves which after) (found : after.listeners.get? which = some listener) :
    ∃ state, after.host.Tends listener.socket point.isReleased state := by
  cases before : point.mux.listeners.get? which with
  | none =>
    have fresh : point.isReleased = false := by
      by_contra released
      obtain ⟨other, present⟩ := tended.made (by simpa using released)
      cases before.symm.trans present
    obtain ⟨-, spot, listens⟩ := leaves.made before listener found
    rw [fresh]
    exact ⟨_, .of_listening listens⟩
  | some earlier =>
    obtain ⟨state, tends⟩ := tended.socket earlier before
    obtain ⟨present, sockets, accepts⟩ := leaves.kept earlier before
    cases found.symm.trans present
    rw [tends.waitingAt] at accepts
    exact ⟨state, tends.of_same sockets accepts leaves.connections⟩

/-- The socket of a listener is in order after each turn. -/
theorem socket_take (tended : point.Tended which) (allowed : turn.Allowed which point)
    (found : (point.take which turn).mux.listeners.get? which = some listener) :
    ∃ state, (point.take which turn).mux.host.Tends listener.socket
      (point.take which turn).isReleased state := by
  rcases Bool.eq_false_or_eq_true turn.isHere with here | away
  · cases before : point.mux.listeners.get? which with
    | none =>
      have absent : (point.take which turn).mux = point.mux := by
        cases turn with
        | elsewhere => cases here
        | _ => simp only [take, muxAfter, before]
      rw [absent, before] at found
      cases found
    | some earlier =>
      cases found.symm.trans (found_take before here)
      rw [mux_take before here]
      exact tended.tends_work allowed before
  · obtain ⟨after, rfl⟩ := ListenerTurn.eq_elsewhere away
    have same : (point.take which (.elsewhere after)).isReleased = point.isReleased :=
      Bool.or_false _
    rw [same]
    exact tended.socket_elsewhere allowed found

/-- An accept that is to try the queue after a turn was to try it before, or has just looked. -/
theorem looking_take {pending : Nat} (member : pending ∈ (point.take which turn).looking) :
    pending ∈ point.looking ∧ turn ≠ .take pending ∨
      turn = .look pending ∧ point.isAnnounced = false := by
  cases turn with
  | look other =>
    simp only [take] at member
    split at member
    · exact .inl ⟨member, nofun⟩
    · next unannounced =>
      obtain rfl | member := List.mem_cons.mp member
      · exact .inr ⟨rfl, by simpa using unannounced⟩
      · exact .inl ⟨member, nofun⟩
  | take other =>
    obtain ⟨member, differs⟩ := List.mem_filter.mp member
    refine .inl ⟨member, fun same => ?_⟩
    cases same
    simp at differs
  | _ => exact .inl ⟨member, nofun⟩

/-- A turn undoes no step of a close. -/
theorem closesOn (tended : point.Tended which) (allowed : turn.Allowed which point) :
    ClosesOn which point (point.take which turn) := by
  refine ⟨fun marked => ?_, fun announced => ?_, fun released => ?_,
    fun announced pending member => ?_, tended.waiters_take_subset allowed⟩
  · obtain ⟨listener, found, isClosed⟩ := found_of_hasClosed marked
    cases turn with
    | elsewhere after => exact allowed.hasClosed.trans marked
    | _ =>
      rw [hasClosed_of_found (found_take found rfl)]
      exact Bool.or_eq_true_iff.mpr (.inl isClosed)
  · exact Bool.or_eq_true_iff.mpr (.inl announced)
  · exact Bool.or_eq_true_iff.mpr (.inl released)
  · obtain ⟨before, -⟩ | ⟨-, unannounced⟩ := looking_take member
    · exact before
    · cases announced.symm.trans unannounced

/-- An accept that ends was not about to try the queue, unless it did. -/
theorem take_of_ends (tended : point.Tended which) (allowed : turn.Allowed which point)
    {pending : Nat} (member : pending ∈ point.looking)
    (ends : ListenerInstant.Ends ⟨point, turn⟩ which pending) : turn = .take pending := by
  obtain ⟨listener, found, -⟩ := found_of_mem_waiters (tended.looking pending member)
  have waiting := (tended.waits found (tended.looking pending member)).2
  have bounded : pending < point.mux.host.accepts.size :=
    (List.getElem?_eq_some_iff.mp waiting).1
  obtain rfl | ⟨polled, -⟩ := ends
  · exact absurd member allowed.2
  · cases turn with
    | call | hold =>
      cases polled
      exact absurd bounded (Nat.lt_irrefl _)
    | look other =>
      cases polled
      exact absurd member allowed.2
    | take other =>
      cases polled
      rfl
    | _ => cases polled

/-- Every turn keeps a listener tended. -/
theorem take (tended : point.Tended which) (allowed : turn.Allowed which point) :
    (point.take which turn).Tended which := by
  have closes := tended.closesOn allowed
  refine ⟨fun listener found => tended.socket_take allowed found, fun announced => ?_,
    fun released => ?_, fun pending member => ?_⟩
  · obtain before | now := Bool.or_eq_true_iff.mp announced
    · exact closes.marked (tended.announced before)
    · cases turn with
      | announce => exact closes.marked allowed
      | _ => cases now
  · obtain before | now := Bool.or_eq_true_iff.mp released
    · exact closes.announced (tended.released before)
    · cases turn with
      | release => exact closes.announced allowed.1
      | _ => cases now
  · obtain ⟨before, apart⟩ | ⟨rfl, unannounced⟩ := looking_take member
    · refine (tended.waiters_take allowed (tended.looking pending before)).resolve_right ?_
      exact fun ends => apart (tended.take_of_ends allowed before ends)
    · refine (tended.waiters_take allowed allowed.1).resolve_right ?_
      rintro (given | ⟨-, returns⟩)
      · cases given
      · obtain ⟨listener, found, -⟩ := found_of_mem_waiters allowed.1
        have none := returned?_look found (tended.waits found allowed.1).2
        rw [unannounced] at none
        simp only [ListenerInstant.returned?, none] at returns
        cases returns

/-- An accept that ends does not hold the socket any more. -/
theorem released_of_ends (tended : point.Tended which) (allowed : turn.Allowed which point)
    {pending : Nat} (ends : ListenerInstant.Ends ⟨point, turn⟩ which pending) :
    pending ∉ (point.take which turn).mux.waiters which := by
  intro holds
  obtain ⟨later, present, -⟩ := found_of_mem_waiters holds
  have waiting := ((tended.take allowed).waits present holds).2
  obtain rfl | ⟨polled, returns⟩ := ends
  · obtain ⟨listener, found, -⟩ := found_of_mem_waiters allowed.1
    have waited := (tended.waits found allowed.1).2
    rw [mux_take found rfl] at waiting
    have refused := @Host.refuseAccept_outcome point.mux.host listener.socket pending _ waited
      point.isReleased
    cases waiting.symm.trans refused
  · have none : point.returned? which turn = none := by
      rw [returned?, polled, Option.bind_some, waiting]
      rfl
    simp only [ListenerInstant.returned?, none] at returns
    cases returns

/-- Nobody reaches a listener that has let go of its socket, once nobody else holds that. -/
theorem isShut (tended : point.Tended which) (released : point.isReleased = true)
    (nobody : point.mux.waiters which = []) : point.mux.IsShut which := by
  obtain ⟨listener, found⟩ := tended.made released
  obtain ⟨state, tends⟩ := tended.socket listener found
  rw [waiters_of_found found, tends.waitingAt] at nobody
  have shut : state.isOpen = false := by
    have held := tends.isOpen
    simpa [released, nobody] using held
  have unreached : ¬∃ row, point.mux.host.sockets.get? listener.socket = some row ∧
      row.isOpen = true := by
    rintro ⟨row, there, isOpen⟩
    cases tends.found.symm.trans there
    rw [shut] at isOpen
    cases isOpen
  refine ⟨fun other row present there => ?_, ?_, fun other present path reached => ?_,
    fun other present name reached => ?_⟩
  · cases found.symm.trans present
    cases tends.found.symm.trans there
    exact shut
  · rw [queued_of_found found, Host.queuedAt, tends.found]
    exact tends.empty shut
  · cases found.symm.trans present
    exact unreached (Host.isOpen_of_reach reached)
  · cases found.symm.trans present
    exact unreached (Host.isOpen_of_reachName reached)

end ListenerPoint.Tended

end SocketMux
