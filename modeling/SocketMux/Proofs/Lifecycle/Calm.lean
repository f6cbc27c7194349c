import SocketMux.Proofs.Lifecycle.Calls
import SocketMux.Proofs.Lifecycle.SocketSteps

/-!
# Between two actions

Between two actions of a multiplexer all its listeners are at rest, and an accept that waits on one
of them waits nowhere else (`Multiplexer.Calm`). From such a state every step is a course of turns
at each listener, and leads to such a state again (`Multiplexer.Calm.step`): it is taken at one
listener, whose accepts are polled in turn, or beside all of them (`Multiplexer.Beside`).
-/

namespace SocketMux

namespace Multiplexer

/-- The state between two actions: everything that listens has its own socket, all accepts that
were woken have been polled, those that wait on a listener wait nowhere else, and nobody waits for
authorities. -/
structure Calm (mux : Multiplexer) : Prop where
  distinct : mux.ownSockets.Nodup
  listeners : ∀ which listener, mux.listeners.get? which = some listener →
    mux.host.RestsAt listener.socket listener.isClosed
  authorities : ∀ authority ∈ mux.authorities.rows, mux.host.UnawaitedAt authority.socket
  alone : ∀ which listener, mux.listeners.get? which = some listener →
    ∀ pending ∈ mux.host.waitingAt listener.socket, ∀ socket,
      pending ∈ mux.host.waitingAt socket → socket = listener.socket
  known : ∀ socket, ∀ pending ∈ mux.host.waitingAt socket, pending < mux.host.accepts.size

/-- Whether something happens that is not about listeners: their sockets stay as they are, and so
do the accepts that wait there. Nobody waits for authorities afterwards, and only new accepts begin
to wait anywhere. -/
structure Beside (before after : Multiplexer) : Prop where
  listeners : after.listeners = before.listeners
  distinct : after.ownSockets.Nodup
  sockets : ∀ which listener, before.listeners.get? which = some listener →
    after.host.sockets.get? listener.socket = before.host.sockets.get? listener.socket
  authorities : ∀ authority ∈ after.authorities.rows, after.host.UnawaitedAt authority.socket
  accepts : ∀ which, ∀ pending ∈ before.waiters which,
    after.host.accepts.get? pending = before.host.accepts.get? pending
  waiting : ∀ socket, before.host.WaitsAnew socket after.host
  grows : before.host.Grows after.host

variable {mux after : Multiplexer} {which other : Nat} {listener : MuxListener}
  {authority : AuthorityServer}

theorem Beside.leaves (beside : mux.Beside after) (which : Nat) : mux.Leaves which after where
  made absent listener found := by
    rw [beside.listeners, absent] at found
    cases found
  kept listener found := by
    refine ⟨by rw [beside.listeners, found], beside.sockets which listener found, ?_⟩
    rw [← waiters_of_found found]
    exact beside.accepts which
  connections := beside.grows.connections

theorem mem_ownSockets (found : mux.listeners.get? which = some listener) :
    listener.socket ∈ mux.ownSockets :=
  List.mem_append_left _ (List.mem_map_of_mem (List.mem_of_getElem? found))

theorem mem_ownSockets_authority (member : authority ∈ mux.authorities.rows) :
    authority.socket ∈ mux.ownSockets :=
  List.mem_append_right _ (List.mem_map_of_mem member)

namespace Calm

theorem initial {host : Host} (own : PeerCredentials)
    (known : ∀ socket, ∀ pending ∈ host.waitingAt socket, pending < host.accepts.size) :
    (Multiplexer.initial host own).Calm where
  distinct := List.nodup_nil
  listeners _ _ found := by cases found
  authorities _ := nofun
  alone _ _ found := by cases found
  known := known

/-- Two listeners have two sockets. -/
theorem apart (calm : mux.Calm) {one : MuxListener}
    (found : mux.listeners.get? which = some listener)
    (foundToo : mux.listeners.get? other = some one) (differs : other ≠ which) :
    one.socket ≠ listener.socket := fun same =>
  differs (Table.number_unique (List.nodup_append.mp calm.distinct).1 foundToo found same)

theorem apart_authority (calm : mux.Calm) (found : mux.listeners.get? which = some listener)
    (member : authority ∈ mux.authorities.rows) : authority.socket ≠ listener.socket := fun same =>
  (List.nodup_append.mp calm.distinct).2.2 _ (List.mem_map_of_mem (List.mem_of_getElem? found)) _
    (List.mem_map_of_mem member) same.symm

/-- A listener of which no close is under way is tended. -/
theorem tended (calm : mux.Calm) (which : Nat) : (mux.atRest which).Tended which where
  socket listener found := by
    obtain ⟨state, tends⟩ := (calm.listeners which listener found).tends
    rw [← hasClosed_of_found found] at tends
    exact ⟨state, tends⟩
  announced := id
  released := id
  looking := nofun

/-- A listener that is closed is waited for by nobody. -/
theorem nobody (calm : mux.Calm) (closed : mux.hasClosed which = true) :
    mux.waiters which = [] := by
  obtain ⟨listener, found, isClosed⟩ := found_of_hasClosed closed
  rw [waiters_of_found found]
  exact (calm.listeners which listener found).shut isClosed

/-- Accepts that wait have not ended. -/
theorem waits_of_mem (calm : mux.Calm) {pending : Nat} (waits : pending ∈ mux.waiters which) :
    mux.host.accepts.get? pending = some .waiting := by
  obtain ⟨listener, found, -⟩ := found_of_mem_waiters waits
  obtain ⟨state, tends⟩ := (calm.listeners which listener found).tends
  exact tends.waits pending (mem_waiters found tends waits).2

/-- Whatever is done at one socket leaves the accepts on all other listeners alone. -/
theorem accepts_same (calm : mux.Calm) {host : Host} {socket : Nat}
    (works : mux.host.WorksAt socket host) (found : mux.listeners.get? which = some listener)
    (apart : socket ≠ listener.socket) : ∀ pending ∈ mux.host.waitingAt listener.socket,
      host.accepts.get? pending = mux.host.accepts.get? pending := by
  intro pending waits
  refine works.accepts pending (fun member => ?_) (calm.known _ pending waits)
  exact apart (calm.alone which listener found pending waits socket member)

/-- An accept that waits on a listener begins to wait nowhere else. -/
theorem alone_anew (calm : mux.Calm) {host : Host} (anew : ∀ socket, mux.host.WaitsAnew socket host)
    (found : mux.listeners.get? which = some listener) {pending socket : Nat}
    (waits : pending ∈ mux.host.waitingAt listener.socket)
    (member : pending ∈ host.waitingAt socket) : socket = listener.socket := by
  obtain before | ⟨fresh, -⟩ := anew socket pending member
  · exact calm.alone which listener found pending waits socket before
  · exact absurd (calm.known _ pending waits) (Nat.not_lt_of_le fresh)

/-- An accept that is new after something was done at one socket waits there, if anywhere. -/
theorem fresh_at (calm : mux.Calm) {host : Host} {socket : Nat}
    (works : mux.host.WorksAt socket host) {pending other : Nat}
    (fresh : mux.host.accepts.size ≤ pending) (waits : pending ∈ host.waitingAt other) :
    other = socket := by
  by_contra apart
  unfold Host.waitingAt at waits
  rw [works.sockets other apart] at waits
  exact Nat.not_lt_of_le fresh (calm.known other pending waits)

theorem known_anew (calm : mux.Calm) {host : Host} (anew : ∀ socket, mux.host.WaitsAnew socket host)
    (grows : mux.host.Grows host) :
    ∀ socket, ∀ pending ∈ host.waitingAt socket, pending < host.accepts.size := by
  intro socket pending member
  obtain before | ⟨-, known⟩ := anew socket pending member
  · exact Nat.lt_of_lt_of_le (calm.known socket pending before) grows.accepts
  · exact known

theorem of_beside (calm : mux.Calm) (beside : mux.Beside after) : after.Calm := by
  refine ⟨beside.distinct, fun which listener found => ?_, beside.authorities,
    fun which listener found pending waits socket => ?_,
    calm.known_anew beside.waiting beside.grows⟩
  · rw [beside.listeners] at found
    refine (calm.listeners which listener found).of_same (beside.sockets which listener found) ?_
      beside.grows.connections
    rw [← waiters_of_found found]
    exact beside.accepts which
  · rw [beside.listeners] at found
    unfold Host.waitingAt at waits
    rw [beside.sockets which listener found] at waits
    exact calm.alone_anew beside.waiting found waits

/-- Turns at one listener leave all others alone. -/
theorem leaves (calm : mux.Calm) {isClosed : Bool}
    (changes : ChangesAt which listener mux after isClosed)
    (found : mux.listeners.get? which = some listener) (differs : other ≠ which) :
    mux.Leaves other after := by
  have same := changes.elsewhere differs
  refine ⟨fun absent one there => ?_, fun one there => ?_, changes.works.grows.connections⟩
  · rw [same, absent] at there
    cases there
  · have apart := calm.apart found there differs
    exact ⟨same.trans there, changes.works.sockets _ apart,
      calm.accepts_same changes.works there apart.symm⟩

/-- A change at one listener leads to a calm state if all accepts that were woken have been
polled. -/
theorem of_changesAt (calm : mux.Calm) {isClosed : Bool}
    (changes : ChangesAt which listener mux after isClosed)
    (found : mux.listeners.get? which = some listener)
    (rests : after.host.RestsAt listener.socket isClosed) : after.Calm := by
  have anew : ∀ socket, mux.host.WaitsAnew socket after.host := changes.works.waitsAnew
  refine ⟨?_, fun other one present => ?_, fun authority member => ?_,
    fun other one present pending waits socket member => ?_,
    calm.known_anew anew changes.works.grows⟩
  · rw [changes.ownSockets]
    exact calm.distinct
  · by_cases here : other = which
    · subst here
      cases (changes.found found).symm.trans present
      exact rests
    · rw [changes.elsewhere here] at present
      obtain ⟨-, sockets, accepts⟩ := (calm.leaves changes found here).kept one present
      exact (calm.listeners other one present).of_same sockets accepts
        changes.works.grows.connections
  · rw [changes.authorities] at member
    obtain ⟨state, present, nobody⟩ := calm.authorities authority member
    exact ⟨state, (changes.works.sockets _ (calm.apart_authority found member)).trans present,
      nobody⟩
  · have before : ∃ one', mux.listeners.get? other = some one' ∧ one'.socket = one.socket := by
      by_cases here : other = which
      · subst here
        cases (changes.found found).symm.trans present
        exact ⟨listener, found, rfl⟩
      · exact ⟨one, (changes.elsewhere here).symm.trans present, rfl⟩
    obtain ⟨one', there, same⟩ := before
    rw [← same] at waits ⊢
    -- Whoever begins to wait is new, and so waits nowhere but where something was done.
    obtain waited | ⟨fresh, -⟩ := anew _ pending waits
    · exact calm.alone_anew anew there waited member
    · exact (calm.fresh_at changes.works fresh member).trans
        (calm.fresh_at changes.works fresh waits).symm

end Calm

/-- Whether something leads to a calm state, by turns at each listener. -/
structure Settles (before after : Multiplexer) : Prop where
  calm : after.Calm
  courses : ∀ which, ∃ instants,
    ListenerCourse which (before.atRest which) instants (after.atRest which)

namespace Settles

variable {between : Multiplexer}

theorem refl (calm : mux.Calm) : mux.Settles mux := ⟨calm, fun _ => ⟨[], .nothing⟩⟩

theorem trans (early : mux.Settles between) (late : between.Settles after) :
    mux.Settles after := by
  refine ⟨late.calm, fun which => ?_⟩
  obtain ⟨earlier, first⟩ := early.courses which
  obtain ⟨later, second⟩ := late.courses which
  exact ⟨_, first.trans second⟩

/-- What is about no listener is one turn at each of them. -/
theorem of_leaves (calm : after.Calm) (leaves : ∀ which, mux.Leaves which after) :
    mux.Settles after :=
  ⟨calm, fun which => ⟨_, (leaves which).course⟩⟩

theorem of_beside (calm : mux.Calm) (beside : mux.Beside after) : mux.Settles after :=
  of_leaves (calm.of_beside beside) beside.leaves

/-- Turns at one listener are a turn at each other one, in which something happens elsewhere. -/
theorem of_changesAt (calm : mux.Calm) (found : mux.listeners.get? which = some listener)
    {isClosed : Bool} (changes : ChangesAt which listener mux after isClosed)
    (rests : after.host.RestsAt listener.socket isClosed) {instants : List ListenerInstant}
    (course : ListenerCourse which (mux.atRest which) instants (after.atRest which)) :
    mux.Settles after := by
  refine ⟨calm.of_changesAt changes found rests, fun other => ?_⟩
  by_cases here : other = which
  · exact ⟨instants, here ▸ course⟩
  · exact ⟨_, (calm.leaves changes found here).course⟩

/-- Turns that lead from rest to rest. -/
theorem of_polled (calm : mux.Calm) (found : mux.listeners.get? which = some listener)
    (polled : (mux.atRest which).Polled which (after.atRest which))
    (eased : after.host.EasedAt listener.socket)
    (shut : after.hasClosed which = true → after.host.waitingAt listener.socket = []) :
    mux.Settles after := by
  obtain ⟨isClosed, changes⟩ := polled.changes found (calm.tended which)
  have present := changes.found found
  obtain ⟨instants, course, -⟩ := polled
  have tends := (course.tended (calm.tended which)).1.socket _ present
  have marked : after.hasClosed which = isClosed := hasClosed_of_found present
  exact of_changesAt calm found changes ⟨marked ▸ tends, eased, marked ▸ shut⟩ course

/-- At an open listener nothing is left to do if nobody waits while something is queued. -/
theorem of_open (calm : mux.Calm) (found : mux.listeners.get? which = some listener)
    (isOpen : listener.isClosed = false) {host : Host}
    (polled : ListenerPoint.Polled which ⟨mux, false, false, 0, []⟩
      ⟨{ mux with host }, false, false, 0, []⟩)
    (eased : host.EasedAt listener.socket) :
    mux.Settles { mux with host } := by
  rw [← atRest_of_open mux found isOpen,
    ← atRest_of_open { mux with host } found isOpen] at polled
  have still : ({ mux with host } : Multiplexer).hasClosed which = false := by
    rw [← isOpen]
    exact hasClosed_of_found found
  refine of_polled calm found polled eased fun closed => ?_
  rw [still] at closed
  cases closed

end Settles

namespace Calm

/-- Sockets of listeners and authorities are there. -/
theorem bounded (calm : mux.Calm) : ∀ socket ∈ mux.ownSockets, socket < mux.host.sockets.size := by
  intro socket member
  have there : ∃ state, mux.host.sockets.get? socket = some state := by
    obtain listens | serves := List.mem_append.mp member
    · obtain ⟨listener, among, rfl⟩ := List.mem_map.mp listens
      obtain ⟨which, found⟩ := List.getElem?_of_mem among
      obtain ⟨state, tends⟩ := (calm.listeners which listener found).tends
      exact ⟨state, tends.found⟩
    · obtain ⟨authority, among, rfl⟩ := List.mem_map.mp serves
      obtain ⟨state, found, -⟩ := calm.authorities authority among
      exact ⟨state, found⟩
  obtain ⟨state, found⟩ := there
  exact (List.getElem?_eq_some_iff.mp found).1

/-- The number of the next socket is one of no listener and no authority. -/
theorem fresh (calm : mux.Calm) : mux.host.sockets.size ∉ mux.ownSockets := fun member =>
  Nat.lt_irrefl _ (calm.bounded _ member)

/-- Something that leaves all sockets of listeners and authorities alone. -/
theorem settles_of_spares (calm : mux.Calm) (spares : mux.Spares after) : mux.Settles after := by
  refine .of_beside calm ⟨spares.listeners, ?_, fun which listener found => ?_,
    fun authority member => ?_, spares.accepts, spares.waiting, spares.grows⟩
  · rw [ownSockets, spares.listeners, spares.authorities]
    exact calm.distinct
  · exact spares.sockets _ (mem_ownSockets found)
  · obtain ⟨earlier, there, same⟩ :=
      List.mem_map.mp (spares.authorities ▸ List.mem_map_of_mem member)
    obtain ⟨state, found, nobody⟩ := calm.authorities earlier there
    rw [← same]
    exact ⟨state, (spares.sockets _ (mem_ownSockets_authority there)).trans found, nobody⟩

/-- Something that is done at a socket of no listener, at which nobody waits if it is one of an
authority. -/
theorem settles_of_worksAt (calm : mux.Calm) {socket : Nat}
    (works : mux.host.WorksAt socket after.host)
    (apart : ∀ which listener, mux.listeners.get? which = some listener → socket ≠ listener.socket)
    (unawaited : (∃ authority ∈ mux.authorities.rows, authority.socket = socket) →
      after.host.UnawaitedAt socket)
    (listeners : after.listeners = mux.listeners)
    (authorities : after.authorities = mux.authorities) : mux.Settles after := by
  refine .of_beside calm ⟨listeners, ?_, fun which listener found => ?_, fun authority member => ?_,
    fun which pending waits => ?_, works.waitsAnew, works.grows⟩
  · rw [ownSockets, listeners, authorities]
    exact calm.distinct
  · exact works.sockets _ (apart which listener found).symm
  · rw [authorities] at member
    by_cases here : authority.socket = socket
    · rw [here]
      exact unawaited ⟨authority, member, here⟩
    · obtain ⟨state, found, nobody⟩ := calm.authorities authority member
      exact ⟨state, (works.sockets _ here).trans found, nobody⟩
  · obtain ⟨listener, found, waits⟩ := found_of_mem_waiters waits
    exact calm.accepts_same works found (apart which listener found) pending waits

/-- A listener whose socket is open is open: nobody waits on it any more once it is closed. -/
theorem isOpen_of_held (calm : mux.Calm) (found : mux.listeners.get? which = some listener)
    {state : ListeningSocket} (there : mux.host.sockets.get? listener.socket = some state)
    (held : state.isOpen = true) : listener.isClosed = false := by
  have rests := calm.listeners which listener found
  obtain ⟨row, tends⟩ := rests.tends
  cases tends.found.symm.trans there
  by_contra closed
  have nobody := rests.shut (by simpa using closed)
  rw [tends.waitingAt] at nobody
  exact (tends.isOpen.mp held).elim closed fun waits => waits nobody

theorem settles_arrival (calm : mux.Calm) {socket : Nat} {state : ListeningSocket}
    (found : mux.host.sockets.get? socket = some state) (isOpen : state.isOpen = true) :
    mux.Settles { mux with host := (mux.host.connectTo socket).2 } := by
  by_cases owned : ∃ which listener, mux.listeners.get? which = some listener ∧
      listener.socket = socket
  · obtain ⟨which, listener, present, rfl⟩ := owned
    have rests := calm.listeners which listener present
    have stands := calm.isOpen_of_held present found isOpen
    obtain ⟨row, tends⟩ := rests.tends
    cases tends.found.symm.trans found
    have allowed : ListenerTurn.arrive.Allowed which ⟨mux, false, false, 0, []⟩ :=
      ⟨listener, state, present, found, isOpen⟩
    have arrived := ListenerPoint.Polled.single allowed rfl
    rw [ListenerPoint.take_of_unmarked present rfl rfl] at arrived
    have waiting : (mux.host.queueAt listener.socket).waitingAt listener.socket = state.waiting :=
      (mux.host.waitingAt_queueAt listener.socket).trans tends.waitingAt
    have eased := rests.eased.connectTo
    rw [Host.connectTo_eq found ((Host.EasedAt.iff_of_found found).mp rests.eased) tends.distinct]
      at eased ⊢
    refine .of_open calm present stands (arrived.trans ?_) eased
    refine ListenerPoint.Polled.retries present (fun pending member => ?_) tends.distinct
    exact waiting.symm ▸ member
  · refine calm.settles_of_worksAt (mux.host.connectTo_worksAt socket) ?_ ?_ rfl rfl
    · exact fun which listener present same => owned ⟨which, listener, present, same.symm⟩
    · rintro ⟨authority, member, rfl⟩
      obtain ⟨row, there, nobody⟩ := calm.authorities authority member
      cases found.symm.trans there
      refine ⟨{ state with backlog := state.backlog ++ [mux.host.connections.size] }, ?_, nobody⟩
      simp [Host.connectTo, found, nobody, Table.add, Table.size]

theorem settles_attempt (calm : mux.Calm) (which : Nat) : mux.Settles (mux.acceptOn which).2 := by
  cases found : mux.listeners.get? which with
  | none =>
    simp only [acceptOn, found]
    exact .refl calm
  | some listener =>
    have rests := calm.listeners which listener found
    obtain ⟨state, tends⟩ := rests.tends
    rcases Bool.eq_false_or_eq_true listener.isClosed with closed | isOpen
    · rw [acceptOn_of_closed found closed]
      exact .refl calm
    · obtain ⟨instants, isCall⟩ := acceptOn_isCall found tends
      rw [acceptOn_of_open found isOpen] at isCall ⊢
      have stands : state.isOpen = true := tends.isOpen.mpr (.inl isOpen)
      have changes := ChangesAt.of_worksAt found (mux.host.accept_worksAt listener.socket)
      refine .of_changesAt calm found changes ⟨⟨_, tends.accept stands⟩, rests.eased.accept, ?_⟩
        isCall.course
      exact fun closed => absurd (isOpen.symm.trans closed) Bool.false_ne_true

theorem settles_call (calm : mux.Calm) (which : Nat) :
    mux.Settles (mux.beginAcceptOn which).2 := by
  cases found : mux.listeners.get? which with
  | none =>
    simp only [beginAcceptOn, found]
    have noted := mux.host.noteAccept_worksAt mux.host.sockets.size .closed
    refine calm.settles_of_worksAt noted ?_ ?_ rfl rfl
    · exact fun other listener there same => calm.fresh (same ▸ mem_ownSockets there)
    · rintro ⟨authority, member, same⟩
      exact absurd (same ▸ mem_ownSockets_authority member) calm.fresh
  | some listener =>
    have rests := calm.listeners which listener found
    obtain ⟨state, tends⟩ := rests.tends
    rcases Bool.eq_false_or_eq_true listener.isClosed with closed | isOpen
    · rw [beginAcceptOn_of_closed found closed]
      have changes := ChangesAt.of_worksAt found
        (mux.host.noteAccept_worksAt listener.socket .closed)
      have isCall := isCall_of_closed found closed
      exact .of_changesAt calm found changes
        ⟨⟨state, tends.noteAccept _⟩, rests.eased, rests.shut⟩ isCall.course
    · rw [beginAcceptOn_of_open found isOpen]
      refine .of_open calm found isOpen ⟨_, ListenerPoint.callInstants_course found tends.found, ?_⟩
        rests.eased.beginAccept
      simp [ListenerPoint.callInstants, ListenerTurn.isHere]

/-- An accept that waits on no listener is given up. -/
theorem beside_giveUp (calm : mux.Calm) {pending : Nat}
    (absent : ∀ which, pending ∉ mux.waiters which) :
    mux.Beside { mux with host := mux.host.cancelAccept pending } := by
  have waiting : ∀ socket, (mux.host.cancelAccept pending).waitingAt socket =
      (mux.host.waitingAt socket).erase pending := by
    intro socket
    cases found : mux.host.sockets.get? socket <;>
      simp [Host.waitingAt, Host.cancelAccept, found]
  refine ⟨rfl, calm.distinct, fun which listener found => ?_, fun authority member => ?_,
    fun which other waits => ?_, fun socket other member => ?_, ?_⟩
  · have absent := absent which
    rw [waiters_of_found found] at absent
    obtain ⟨state, tends⟩ := (calm.listeners which listener found).tends
    rw [tends.waitingAt] at absent
    simp [Host.cancelAccept, tends.found, List.erase_of_not_mem absent]
  · obtain ⟨state, found, nobody⟩ := calm.authorities authority member
    exact ⟨{ state with waiting := state.waiting.erase pending },
      by simp [Host.cancelAccept, found], by simp [nobody]⟩
  · have differs : pending ≠ other := fun same => absent which (same ▸ waits)
    exact (Table.get?_modify _ _ _ _).trans (if_neg differs)
  · rw [waiting] at member
    exact .inl (List.mem_of_mem_erase member)
  · exact ⟨Nat.le_of_eq (Table.size_modify _ _ _).symm, Nat.le_refl _⟩

theorem settles_giveUp (calm : mux.Calm) (pending : Nat) :
    mux.Settles { mux with host := mux.host.cancelAccept pending } := by
  by_cases waits : ∃ which, pending ∈ mux.waiters which
  · obtain ⟨which, waits⟩ := waits
    obtain ⟨listener, found, -⟩ := found_of_mem_waiters waits
    have rests := calm.listeners which listener found
    obtain ⟨state, tends⟩ := rests.tends
    obtain ⟨-, among⟩ := mem_waiters found tends waits
    have isOpen := calm.isOpen_of_held found tends.found (tends.open_of_waits among)
    have allowed : (ListenerTurn.giveUp pending).Allowed which ⟨mux, false, false, 0, []⟩ :=
      ⟨waits, List.not_mem_nil⟩
    have polled := ListenerPoint.Polled.single allowed rfl
    rw [ListenerPoint.take_giveUp found] at polled
    -- The accept ends at its listener first, and is then given up wherever else it may wait.
    have ended := Settles.of_open calm found isOpen polled (rests.eased.endAccept _)
    refine ended.trans ?_
    rw [← Host.cancelAccept_endAccept tends]
    refine .of_beside ended.calm (ended.calm.beside_giveUp fun other waits => ?_)
    have waiting := ended.calm.waits_of_mem waits
    simp [Host.endAccept, tends.waits pending among] at waiting
  · exact .of_beside calm (calm.beside_giveUp (not_exists.mp waits))

/-- A close marks the listener, announces itself to all accepts, and lets go of the socket. All who
wait there are then refused in turn. -/
theorem settles_shut (calm : mux.Calm) (found : mux.listeners.get? which = some listener)
    (isOpen : listener.isClosed = false) :
    mux.Settles
      { mux with
        host := mux.host.closeSocket listener.socket
        listeners := mux.listeners.modify which MuxListener.closed } := by
  obtain ⟨state, tends⟩ := (calm.listeners which listener found).tends
  let marked := { mux with listeners := mux.listeners.modify which MuxListener.closed }
  have present : marked.listeners.get? which = some listener.closed := by simp [marked, found]
  have closing := ListenerPoint.Polled.closing found
  have nobody := mux.host.waitingAt_closeSocket listener.socket
  refine .of_polled calm found ?_ (.inl nobody) fun _ => nobody
  have rested := atRest_of_closed { marked with host := mux.host.closeSocket listener.socket }
    present rfl
  rw [atRest_of_open mux found isOpen, rested]
  unfold Host.letGo at closing
  rw [tends.waitingAt] at closing
  cases waiting : state.waiting with
  | nil => simpa only [waiting] using closing
  | cons first others =>
    simp only [waiting] at closing
    refine closing.trans ?_
    rw [← Host.closeSocket_eq tends.found waiting]
    have refused := ListenerPoint.Polled.refusals present (tends.waitingAt.trans waiting)
    exact refused

/-- An authority stops to listen. -/
theorem settles_retire (calm : mux.Calm) (member : authority ∈ mux.authorities.rows) :
    mux.Settles { mux with host := mux.host.closeSocket authority.socket } := by
  refine calm.settles_of_worksAt (mux.host.closeSocket_worksAt authority.socket)
    (fun which listener found => calm.apart_authority found member) (fun _ => ?_) rfl rfl
  obtain ⟨state, found, -⟩ := calm.authorities authority member
  exact ⟨state.shut, by simp [Host.closeSocket, found, ListeningSocket.shut], rfl⟩

/-- An authority accepts all that is queued for it. -/
theorem settles_serve (calm : mux.Calm) (member : authority ∈ mux.authorities.rows) :
    mux.Settles (mux.acceptServed authority) := by
  obtain ⟨state, found, nobody⟩ := calm.authorities authority member
  have works : mux.host.WorksAt authority.socket (mux.acceptServed authority).host := by
    simp only [acceptServed, found]
    exact .of_modify rfl (fun _ _ _ => rfl) (fun _ _ _ => .inl) ⟨Nat.le_refl _, Nat.le_refl _⟩
  refine calm.settles_of_worksAt works
    (fun which listener found => calm.apart_authority found member) (fun _ => ?_) ?_
    (mux.acceptServed_authorities authority)
  · exact ⟨{ state with backlog := [] }, by simp [acceptServed, found], nobody⟩
  · simp only [acceptServed, found]

/-- A new socket leaves all others as they are. -/
theorem kept_listens (calm : mux.Calm) {spot : SocketSpot}
    (listens : mux.host.ListensAt after.host spot) {socket : Nat}
    (member : socket ∈ mux.ownSockets) :
    after.host.sockets.get? socket = mux.host.sockets.get? socket := by
  rw [listens.sockets]
  exact Table.get?_add_of_lt _ _ (calm.bounded _ member)

/-- An authority begins to listen. -/
theorem settles_start (calm : mux.Calm) {spot : SocketSpot}
    (listens : mux.host.ListensAt after.host spot)
    (socket : authority.socket = mux.host.sockets.size)
    (listeners : after.listeners = mux.listeners)
    (authorities : after.authorities = (mux.authorities.add authority).2) : mux.Settles after := by
  refine .of_beside calm ⟨listeners, ?_, fun which listener found => ?_, fun other member => ?_,
    fun _ _ _ => by rw [listens.accepts], fun other => listens.waitsAnew other, listens.grows⟩
  · have owners : after.ownSockets = mux.ownSockets ++ [mux.host.sockets.size] := by
      simp [ownSockets, listeners, authorities, Table.add, socket]
    rw [owners]
    exact List.nodup_append_comm.mp (List.nodup_cons.mpr ⟨calm.fresh, calm.distinct⟩)
  · exact calm.kept_listens listens (mem_ownSockets found)
  · simp only [authorities, Table.add, List.mem_append, List.mem_singleton] at member
    obtain earlier | rfl := member
    · obtain ⟨state, found, nobody⟩ := calm.authorities other earlier
      exact ⟨state, (calm.kept_listens listens (mem_ownSockets_authority earlier)).trans found,
        nobody⟩
    · exact ⟨_, by rw [listens.sockets, socket, Table.get?_add_size], rfl⟩

/-- A listener is made. -/
theorem settles_listen (calm : mux.Calm) {spot : SocketSpot}
    (listens : mux.host.ListensAt after.host spot)
    (socket : listener.socket = mux.host.sockets.size) (isOpen : listener.isClosed = false)
    (listeners : after.listeners = (mux.listeners.add listener).2)
    (authorities : after.authorities = mux.authorities) : mux.Settles after := by
  have made : after.host.sockets.get? listener.socket = some ⟨spot, [], [], true⟩ := by
    rw [listens.sockets, socket, Table.get?_add_size]
  have present : ∀ which one, after.listeners.get? which = some one →
      mux.listeners.get? which = some one ∨ mux.listeners.get? which = none ∧ one = listener := by
    intro which one found
    rw [listeners, Table.get?_add] at found
    split at found
    · next last =>
      cases found
      exact .inr ⟨last ▸ List.getElem?_eq_none (Nat.le_refl _), rfl⟩
    · exact .inl found
  have calmAfter : after.Calm := by
    refine ⟨?_, fun which one found => ?_, fun authority member => ?_,
      fun which one found pending waits other member => ?_,
      calm.known_anew listens.waitsAnew listens.grows⟩
    · simp only [ownSockets, listeners, authorities, Table.add, List.map_append, List.map_cons,
        List.map_nil, List.append_assoc, List.singleton_append, socket]
      exact List.nodup_middle.mpr (List.nodup_cons.mpr ⟨calm.fresh, calm.distinct⟩)
    · obtain earlier | ⟨-, rfl⟩ := present which one found
      · exact (calm.listeners which one earlier).of_same
          (calm.kept_listens listens (mem_ownSockets earlier)) (fun _ _ => by rw [listens.accepts])
          listens.grows.connections
      · have nobody := Host.waitingAt_of_found made
        have tends := Host.Tends.of_listening made
        rw [← isOpen] at tends
        exact ⟨⟨_, tends⟩, .inl nobody, fun _ => nobody⟩
    · rw [authorities] at member
      obtain ⟨state, found, nobody⟩ := calm.authorities authority member
      exact ⟨state, (calm.kept_listens listens (mem_ownSockets_authority member)).trans found,
        nobody⟩
    · obtain earlier | ⟨-, rfl⟩ := present which one found
      · rw [listens.waitingAt] at waits member
        exact calm.alone which one earlier pending waits other member
      · rw [Host.waitingAt_of_found made] at waits
        cases waits
  refine .of_leaves calmAfter fun which =>
    ⟨fun absent one found => ?_, fun one found => ?_, listens.grows.connections⟩
  · obtain earlier | ⟨-, rfl⟩ := present which one found
    · rw [absent] at earlier
      cases earlier
    · exact ⟨isOpen, spot, made⟩
  · refine ⟨?_, calm.kept_listens listens (mem_ownSockets found),
      fun _ _ => by rw [listens.accepts]⟩
    rw [listeners, Table.get?_add_of_lt _ _ (List.getElem?_eq_some_iff.mp found).1, found]

/-- Every step leads from one calm state to another, by turns at each listener. -/
theorem step (calm : mux.Calm) (step : SocketStep mux after) : mux.Settles after := by
  cases step with
  | aside spares => exact calm.settles_of_spares spares
  | arrival found isOpen => exact calm.settles_arrival found isOpen
  | attempt number => exact calm.settles_attempt number
  | call number => exact calm.settles_call number
  | giveUp pending => exact calm.settles_giveUp pending
  | shut found isOpen => exact calm.settles_shut found isOpen
  | retire found => exact calm.settles_retire (List.mem_of_getElem? found)
  | serve member => exact calm.settles_serve member
  | listen listens socket isOpen listeners authorities =>
    exact calm.settles_listen listens socket isOpen listeners authorities
  | start listens socket listeners authorities =>
    exact calm.settles_start listens socket listeners authorities

theorem steps (calm : mux.Calm) (steps : SocketSteps mux after) : mux.Settles after := by
  induction steps with
  | refl => exact .refl calm
  | tail _ last inductionHypothesis =>
    exact inductionHypothesis.trans (inductionHypothesis.calm.step last)

end Calm

end Multiplexer

end SocketMux
