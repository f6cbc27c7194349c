import Mathlib.Logic.Relation
import SocketMux.Proofs.Lifecycle.Polling
import SocketMux.Proofs.Lifecycle.Sockets

/-!
# What actions do to sockets and accepts

Whatever happens to a multiplexer, few kinds of steps reach its sockets and the accepts that wait
there: connections arrive, accepts are called and given up, listeners and authorities begin to
listen and stop, and authorities accept what is queued. `SocketStep` lists them, and every action
is made of them (`Multiplexer.perform_steps`), as long as whoever else is on the host leaves
listeners alone, but for connecting to them and for giving accepts up (`Moment.Approaches`).
-/

namespace SocketMux

namespace Host

/-- Two states of a host with the same sockets and accepts, in which no connection vanishes. -/
structure SameQueues (before after : Host) : Prop where
  sockets : after.sockets = before.sockets
  accepts : after.accepts = before.accepts
  connections : before.connections.size ≤ after.connections.size

/-- Two states of a host, in the later of which one more socket listens. -/
structure ListensAt (before after : Host) (spot : SocketSpot) : Prop where
  sockets : after.sockets = (before.sockets.add ⟨spot, [], [], true⟩).2
  accepts : after.accepts = before.accepts
  connections : after.connections = before.connections

/-- What binding a socket does: it makes the next socket, or none if it fails. -/
def Binds (before : Host) : Except MuxError Nat → Host → Prop
  | .ok socket, after => socket = before.sockets.size ∧ ∃ spot, before.ListensAt after spot
  | .error _, after => before.SameQueues after

variable {host between after : Host} {path : Path} {socket : Nat}

theorem SameQueues.refl (host : Host) : host.SameQueues host := ⟨rfl, rfl, Nat.le_refl _⟩

theorem SameQueues.trans (early : host.SameQueues between) (late : between.SameQueues after) :
    host.SameQueues after :=
  ⟨late.sockets.trans early.sockets, late.accepts.trans early.accepts,
    Nat.le_trans early.connections late.connections⟩

theorem SameQueues.grows (same : host.SameQueues after) : host.Grows after :=
  ⟨by rw [same.accepts], same.connections⟩

theorem SameQueues.waitsAnew (same : host.SameQueues after) : host.WaitsAnew socket after := by
  intro pending waits
  unfold waitingAt at waits
  rw [same.sockets] at waits
  exact .inl waits

/-- Nobody waits at a socket that begins to listen. -/
theorem ListensAt.waitingAt {spot : SocketSpot} (listens : host.ListensAt after spot)
    (socket : Nat) : after.waitingAt socket = host.waitingAt socket := by
  unfold Host.waitingAt
  rw [listens.sockets, Table.get?_add]
  split
  · next last =>
    have absent : host.sockets.get? socket = none :=
      List.getElem?_eq_none (Nat.le_of_eq last.symm)
    rw [absent]
    rfl
  · rfl

theorem ListensAt.grows {spot : SocketSpot} (listens : host.ListensAt after spot) :
    host.Grows after :=
  ⟨by rw [listens.accepts], by rw [listens.connections]⟩

theorem ListensAt.waitsAnew {spot : SocketSpot} (listens : host.ListensAt after spot)
    (socket : Nat) : host.WaitsAnew socket after := by
  intro pending waits
  rw [listens.waitingAt] at waits
  exact .inl waits

theorem modifyConnection_sameQueues (host : Host) (connection : Nat)
    (change : Connection → Connection) :
    host.SameQueues (host.modifyConnection connection change) :=
  ⟨rfl, rfl, by simp [modifyConnection]⟩

theorem release_sameQueues (host : Host) (connection : Nat) (side : Side) :
    host.SameQueues (host.release connection side) := host.modifyConnection_sameQueues _ _

/-- Removing a file changes nothing but files. -/
theorem removeIfPresent_eq (removed : host.removeIfPresent path = .ok after) :
    ∃ files, after = { host with files } := by
  unfold removeIfPresent at removed
  split at removed
  · next unlinked =>
    obtain ⟨files, -, same⟩ := Outcome.bind_eq_ok_iff.mp unlinked
    cases same
    cases removed
    exact ⟨files, rfl⟩
  · split at removed
    · cases removed
      exact ⟨host.files, rfl⟩
    · cases removed

theorem listenUnder_listens {name : List UInt8}
    (listened : host.listenUnder name = .ok (socket, after)) :
    socket = host.sockets.size ∧ ∃ spot, host.ListensAt after spot := by
  unfold listenUnder at listened
  split at listened
  · cases listened
  · split at listened <;> cases listened
    exact ⟨rfl, _, rfl, rfl, rfl⟩

/-- Whoever listens makes the next socket. -/
theorem listen_listens (listened : host.listen path = .ok (socket, after)) :
    socket = host.sockets.size ∧ ∃ spot, host.ListensAt after spot := by
  unfold listen at listened
  split at listened
  · exact listenUnder_listens listened
  · obtain ⟨-, -, listened⟩ := Outcome.bind_eq_ok_iff.mp listened
    split at listened
    · cases listened
      exact ⟨rfl, _, rfl, rfl, rfl⟩
    · obtain ⟨⟨number, files⟩, -, listened⟩ := Outcome.bind_eq_ok_iff.mp listened
      cases listened
      exact ⟨rfl, _, rfl, rfl, rfl⟩

/-- How binding a socket ends: files may have gone out of its way, and then the next socket
listens, or there is an error and nothing else is changed. -/
inductive BindEnds (before : Host) : Except MuxError Nat → Host → Prop where
  | made {files : FileTree} {spot : SocketSpot} {after : Host}
      (listens : { before with files }.ListensAt after spot) :
      BindEnds before (.ok before.sockets.size) after
  | failed (files : FileTree) (err : MuxError) :
      BindEnds before (.error err) { before with files }

theorem BindEnds.of_listens {files : FileTree}
    (listened : socket = host.sockets.size ∧ ∃ spot, { host with files }.ListensAt after spot) :
    host.BindEnds (.ok socket) after := by
  obtain ⟨rfl, _, listens⟩ := listened
  exact .made listens

theorem BindEnds.binds {outcome : Except MuxError Nat} (ends : host.BindEnds outcome after) :
    host.Binds outcome after := by
  cases ends with
  | made listens => exact ⟨rfl, _, listens.sockets, listens.accepts, listens.connections⟩
  | failed files err => exact ⟨rfl, rfl, Nat.le_refl _⟩

/-- Whoever fails to bind changes nothing but files. -/
theorem BindEnds.eq_of_error {err : MuxError} (ends : host.BindEnds (.error err) after) :
    ∃ files, after = { host with files } := by
  cases ends with
  | failed files => exact ⟨files, rfl⟩

end Host

namespace Transport

variable {host after : Host} {address : LocalAddress}

theorem bindPlainly_ends {reuse : Bool} {outcome : Except MuxError Nat}
    (bound : bindPlainly host address reuse = (outcome, after)) : host.BindEnds outcome after := by
  simp only [bindPlainly] at bound
  split at bound
  · split at bound
    · next listened =>
      cases bound
      exact .of_listens (Host.listenUnder_listens listened)
    · cases bound
      exact .failed host.files _
  · split at bound
    · split at bound
      · cases bound
        exact .failed host.files _
      · next removed =>
        obtain ⟨files, rfl⟩ := Host.removeIfPresent_eq removed
        split at bound
        · next listened =>
          cases bound
          have made := Host.listen_listens listened
          exact .of_listens made
        · cases bound
          exact .failed files _
    · split at bound
      · next listened =>
        cases bound
        exact .of_listens (Host.listen_listens listened)
      · cases bound
        exact .failed host.files _

theorem bind_ends (transport : Transport) {reuse : Bool} {outcome : Except MuxError Nat}
    (bound : transport.bind host address reuse = (outcome, after)) :
    host.BindEnds outcome after := by
  unfold bind at bound
  split at bound
  · cases bound
    exact .failed host.files _
  · exact bindPlainly_ends bound
  · split at bound
    · cases bound
      exact .failed host.files _
    · exact bindPlainly_ends bound

/-- A connection is made to an open socket. -/
theorem connect_arrives {transport : Transport} {connection : Nat}
    (made : transport.connect host address = .ok (connection, after)) :
    ∃ socket state, host.sockets.get? socket = some state ∧ state.isOpen = true ∧
      after = (host.connectTo socket).2 := by
  unfold connect at made
  split at made
  · cases made
  · simp only [connectPlainly] at made
    split at made
    · cases made
    · next socket reached =>
      have isOpen : ∃ state, host.sockets.get? socket = some state ∧ state.isOpen = true := by
        split at reached
        · exact Host.isOpen_of_reachName reached
        · exact Host.isOpen_of_reach reached
      obtain ⟨state, found, isOpen⟩ := isOpen
      have made := Except.ok.inj made
      exact ⟨socket, state, found, isOpen, (congrArg Prod.snd made).symm⟩

end Transport

theorem Factory.bindFile_ends {factory : Factory} {host after : Host} {port : Port}
    {outcome : Except MuxError Nat} (bound : factory.bindFile host port = (outcome, after)) :
    host.BindEnds outcome after := by
  unfold bindFile at bound
  split at bound
  · cases bound
    exact .failed host.files _
  · exact factory.transport.bind_ends bound

/-- Binding the file of a port makes the next socket, or none. -/
theorem Factory.bindFile_binds {factory : Factory} {host after : Host} {port : Port}
    {outcome : Except MuxError Nat} (bound : factory.bindFile host port = (outcome, after)) :
    host.Binds outcome after := (bindFile_ends bound).binds

namespace Multiplexer

/-- Whether listeners and authorities keep their sockets as they are in what happens, and the
accepts that wait on listeners go on to wait. Only new accepts begin to wait anywhere. -/
structure Spares (before after : Multiplexer) : Prop where
  listeners : after.listeners = before.listeners
  authorities : after.authorities.rows.map AuthorityServer.socket =
    before.authorities.rows.map AuthorityServer.socket
  sockets : ∀ socket ∈ before.ownSockets,
    after.host.sockets.get? socket = before.host.sockets.get? socket
  accepts : ∀ which, ∀ pending ∈ before.waiters which,
    after.host.accepts.get? pending = before.host.accepts.get? pending
  waiting : ∀ socket, before.host.WaitsAnew socket after.host
  grows : before.host.Grows after.host

/-- What whoever else is on a host may do to it: anything that leaves listeners and authorities
alone, but also connect to open sockets and give accepts up. -/
inductive Approached (mux : Multiplexer) : Host → Prop where
  | spared {host : Host} (spares : mux.Spares { mux with host }) : Approached mux host
  | connected {socket : Nat} {state : ListeningSocket}
      (found : mux.host.sockets.get? socket = some state) (isOpen : state.isOpen = true) :
      Approached mux (mux.host.connectTo socket).2
  | givenUp (pending : Nat) : Approached mux (mux.host.cancelAccept pending)

end Multiplexer

/-- Whether whoever else is on the host leaves listeners and authorities alone, but for connecting
to them and giving accepts up. -/
def Moment.Approaches (moment : Moment) : Prop :=
  ∀ host, moment.action = .outside host → moment.state.Approached host

/-- Whether an action is one of the multiplexer, and not of whoever else is on the host. -/
def Action.isInside : Action → Bool
  | outside _ => false
  | _ => true

theorem Moment.approaches_of_inside {moment : Moment} (inside : moment.action.isInside = true) :
    moment.Approaches := by
  intro host same
  rw [same] at inside
  cases inside

/-- One thing that happens to sockets and to the accepts that wait there. -/
inductive SocketStep (before : Multiplexer) : Multiplexer → Prop where
  | aside {after : Multiplexer} (spares : before.Spares after) : SocketStep before after
  | arrival {socket : Nat} {state : ListeningSocket}
      (found : before.host.sockets.get? socket = some state) (isOpen : state.isOpen = true) :
      SocketStep before { before with host := (before.host.connectTo socket).2 }
  | attempt (number : Nat) : SocketStep before (before.acceptOn number).2
  | call (number : Nat) : SocketStep before (before.beginAcceptOn number).2
  | giveUp (pending : Nat) :
      SocketStep before { before with host := before.host.cancelAccept pending }
  | shut {number : Nat} {listener : MuxListener}
      (found : before.listeners.get? number = some listener) (isOpen : listener.isClosed = false) :
      SocketStep before
        { before with
          host := before.host.closeSocket listener.socket
          listeners := before.listeners.modify number MuxListener.closed }
  | retire {number : Nat} {authority : AuthorityServer}
      (found : before.authorities.get? number = some authority) :
      SocketStep before { before with host := before.host.closeSocket authority.socket }
  | serve {authority : AuthorityServer} (member : authority ∈ before.authorities.rows) :
      SocketStep before (before.acceptServed authority)
  | listen {after : Multiplexer} {listener : MuxListener} {spot : SocketSpot}
      (listens : before.host.ListensAt after.host spot)
      (socket : listener.socket = before.host.sockets.size) (isOpen : listener.isClosed = false)
      (listeners : after.listeners = (before.listeners.add listener).2)
      (authorities : after.authorities = before.authorities) : SocketStep before after
  | start {after : Multiplexer} {authority : AuthorityServer} {spot : SocketSpot}
      (listens : before.host.ListensAt after.host spot)
      (socket : authority.socket = before.host.sockets.size)
      (listeners : after.listeners = before.listeners)
      (authorities : after.authorities = (before.authorities.add authority).2) :
      SocketStep before after

/-- What happens to sockets and accepts in several steps. -/
abbrev SocketSteps : Multiplexer → Multiplexer → Prop := Relation.ReflTransGen SocketStep

namespace SocketSteps

variable {start mux after : Multiplexer}

/-- A change of anything but sockets and accepts is one step, or none. -/
theorem aside (steps : SocketSteps start mux) (same : mux.host.SameQueues after.host)
    (listeners : after.listeners = mux.listeners)
    (authorities : after.authorities.rows.map AuthorityServer.socket =
      mux.authorities.rows.map AuthorityServer.socket) : SocketSteps start after :=
  steps.tail <| .aside
    { listeners
      authorities
      sockets := fun _ _ => by rw [same.sockets]
      accepts := fun _ _ _ => by rw [same.accepts]
      waiting := fun _ => same.waitsAnew
      grows := same.grows }

/-- A socket that closes together with its listener, and whatever else that changes. -/
theorem shut (steps : SocketSteps start mux) {number : Nat} {listener : MuxListener}
    (found : mux.listeners.get? number = some listener) (isOpen : listener.isClosed = false)
    (host : after.host = mux.host.withoutListener listener)
    (listeners : after.listeners = mux.listeners.modify number MuxListener.closed)
    (authorities : after.authorities = mux.authorities) : SocketSteps start after := by
  refine aside (steps.tail (.shut found isOpen)) ?_ listeners (by rw [authorities])
  rw [host, Host.withoutListener_eq]
  exact ⟨rfl, rfl, Nat.le_refl _⟩

/-- Closing endpoints and factories takes steps. -/
theorem keptByClosing (start : Multiplexer) : Multiplexer.KeptByClosing (SocketSteps start) where
  listener {mux} number steps := by
    obtain ⟨-, unchanged⟩ | ⟨listener, pools, assigners, found, isOpen, after⟩ :=
      mux.closeListener_cases number
    · rw [unchanged]
      exact steps
    · rw [after]
      exact steps.shut found isOpen rfl rfl rfl
  client {mux} number steps := by
    obtain ⟨-, unchanged⟩ | ⟨client, -, -, after⟩ := mux.closeClient_cases number
    · rw [unchanged]
      exact steps
    · rw [after]
      exact steps.aside (Host.modifyConnection_sameQueues _ _ _) rfl rfl
  factory _ _ _ steps := steps.aside (.refl _) rfl rfl
  coordinators _ steps := steps.aside (.refl _) rfl rfl

end SocketSteps

namespace Multiplexer

variable {start mux after : Multiplexer}

theorem Creates.steps {number : Nat} {factory : Factory} {creation : Option Creation}
    (creates : Creates mux number factory creation after) (steps : SocketSteps start mux) :
    SocketSteps start after := by
  cases creates with
  | nothing remembers => exact steps.aside ⟨rfl, rfl, Nat.le_refl _⟩ rfl rfl
  | @failed port bound issuer ready err host prepared unbound =>
    obtain ⟨pools, assigners, remember, remembers, rfl⟩ := ready_eq prepared
    obtain ⟨morePools, moreAssigners, refunded⟩ := refund_eq
      { mux with host, pools, assigners, factories := mux.factories.modify number remember }
      issuer bound
    rw [refunded]
    have same : mux.host.SameQueues host := Factory.bindFile_binds unbound
    exact steps.aside same rfl rfl
  | @made port bound issuer ready socket host prepared bind =>
    obtain ⟨pools, assigners, remember, remembers, rfl⟩ := ready_eq prepared
    obtain ⟨last, spot, listens⟩ : socket = mux.host.sockets.size ∧ ∃ spot,
      mux.host.ListensAt host spot := Factory.bindFile_binds bind
    exact steps.tail (.listen listens last rfl rfl rfl)

/-- Whoever meets a peer connects to an open socket, if to any. -/
theorem meet_steps (steps : SocketSteps start mux) (number : Nat) (key : HostAndPort) :
    SocketSteps start { mux with host := (mux.meet number key).2 } := by
  unfold meet
  split
  · exact steps
  · next factory found =>
    split
    · split <;> exact steps
    · simp only
      split
      · exact steps
      · split
        · exact steps
        · next made =>
          obtain ⟨socket, state, there, isOpen, rfl⟩ := Transport.connect_arrives made
          have arrived : SocketSteps start _ := steps.tail (.arrival there isOpen)
          split
          · exact arrived.aside (Host.release_sameQueues _ _ _) rfl rfl
          · exact arrived

theorem createClient_steps (steps : SocketSteps start mux) (number : Nat) (key : HostAndPort)
    (shortage : Option Fault) : SocketSteps start (mux.createClient number key shortage).2 := by
  have met := meet_steps steps number key
  rw [createClient_eq]
  split
  · next err host refused =>
    rw [refused] at met
    exact met
  · next file connection credentials host known =>
    rw [known] at met
    split
    · exact met.aside (Host.release_sameQueues _ _ _) rfl rfl
    · exact met.aside (.refl _) rfl rfl

theorem acceptServed_authorities (mux : Multiplexer) (authority : AuthorityServer) :
    (mux.acceptServed authority).authorities = mux.authorities := by
  unfold acceptServed
  split <;> rfl

theorem serveAll_steps (steps : SocketSteps start mux) : SocketSteps start mux.serveAll := by
  have accepted : ∀ (authorities : List AuthorityServer) (mux : Multiplexer),
      authorities ⊆ mux.authorities.rows → SocketSteps start mux →
        SocketSteps start (authorities.foldl acceptServed mux) := by
    intro authorities
    induction authorities with
    | nil => exact fun _ _ => id
    | cons first others inductionHypothesis =>
      intro mux among steps
      obtain ⟨member, among⟩ := List.cons_subset.mp among
      refine inductionHypothesis (mux.acceptServed first) ?_ (steps.tail (.serve member))
      rw [acceptServed_authorities]
      exact among
  have taken := accepted mux.authorities.rows mux (List.Subset.refl _) steps
  unfold serveAll
  simp only
  obtain ⟨connections, pools, same, served⟩ := serveConnections_eq
    { mux.authorities.rows.foldl acceptServed mux with served := [] }
    (mux.authorities.rows.foldl acceptServed mux).served
  rw [served]
  exact SocketSteps.aside taken ⟨rfl, rfl, Nat.le_of_eq same.symm⟩ rfl rfl

theorem startAuthority_steps (steps : SocketSteps start mux) (path : Path) (pool : Nat) :
    SocketSteps start (mux.startAuthority path pool).2 := by
  unfold startAuthority
  split
  · exact steps
  · next removed =>
    obtain ⟨files, rfl⟩ := Host.removeIfPresent_eq removed
    split
    · exact steps.aside ⟨rfl, rfl, Nat.le_refl _⟩ rfl rfl
    · next listened =>
      obtain ⟨last, spot, listens⟩ := Host.listen_listens listened
      exact steps.tail (.start ⟨listens.sockets, listens.accepts, listens.connections⟩ last rfl rfl)

theorem shutDownAuthority_steps (steps : SocketSteps start mux) (number : Nat) :
    SocketSteps start (mux.shutDownAuthority number).2 := by
  have owners : (mux.authorities.modify number fun state =>
      { state with isShutDown := true }).rows.map AuthorityServer.socket =
        mux.authorities.rows.map AuthorityServer.socket :=
    mux.authorities.map_modify number _ fun _ => rfl
  unfold shutDownAuthority
  split
  · exact steps
  · next authority found =>
    split
    · exact steps
    · have retired : SocketSteps start _ := steps.tail (.retire found)
      simp only
      split
      · next removed =>
        obtain ⟨files, rfl⟩ := Host.removeIfPresent_eq removed
        exact retired.aside ⟨rfl, rfl, Nat.le_refl _⟩ rfl owners
      · exact retired.aside (.refl _) rfl owners

/-- Every action is made of steps. -/
theorem perform_steps {action : Action} (approaches : Moment.Approaches ⟨mux, action⟩) :
    SocketSteps mux (mux.perform action) := by
  have closing := SocketSteps.keptByClosing mux
  have steps : SocketSteps mux mux := .refl
  cases action with
  | makePool | closePool | makeAssigner | changeAssigner | makeCoordinator | countLive
  | makeFactory | changeTransport | changeStrangers | reorder =>
    exact steps.aside (.refl _) rfl rfl
  | ask assigner request =>
    obtain ⟨pools, assigners, after⟩ := mux.ask_eq assigner request
    simp only [Multiplexer.perform, after]
    exact steps.aside (.refl _) rfl rfl
  | findAssigner factory =>
    obtain ⟨assigners, remember, after, -⟩ := mux.assignerOf_eq factory
    simp only [Multiplexer.perform, after]
    exact steps.aside (.refl _) rfl rfl
  | createServer number port =>
    cases found : mux.factories.get? number with
    | none =>
      simp only [Multiplexer.perform, createServer, found]
      exact steps
    | some factory => exact (createServer_creates port found).steps steps
  | createClient number key => exact createClient_steps steps number key none
  | createClientShort number key shortage =>
    exact createClient_steps steps number key (some shortage)
  | accept listener => exact steps.tail (.attempt listener)
  | beginAccept listener => exact steps.tail (.call listener)
  | closeListener number => exact closing.listener number steps
  | dropListener number hasTasks =>
    obtain ⟨-, unchanged⟩ | ⟨listener, found, isOpen, after⟩ :=
      mux.dropListener_cases number hasTasks
    · simp only [Multiplexer.perform, unchanged]
      exact steps
    · simp only [Multiplexer.perform, after]
      exact steps.shut found isOpen rfl rfl rfl
  | closeClient number => exact closing.client number steps
  | dropClient number =>
    have closed := closing.client number steps
    simp only [Multiplexer.perform, dropClient]
    split
    · exact closed
    · exact closed.aside (Host.release_sameQueues _ _ _) rfl rfl
  | closeFactory number => exact closing.closeFactory steps number
  | dropFactory number => exact closing.dropFactory steps number
  | shutDownAll coordinator => exact closing.shutDownAll steps coordinator
  | startAuthority path pool => exact startAuthority_steps steps path pool
  | shutDownAuthority number => exact shutDownAuthority_steps steps number
  | dropAuthority number =>
    simp only [Multiplexer.perform, dropAuthority]
    split
    · exact steps
    · next found => exact steps.tail (.retire found)
  | returnOne index =>
    obtain unchanged | ⟨entry, pools, assigners, -, after⟩ := mux.returnOne_cases index
    · simp only [Multiplexer.perform, unchanged]
      exact steps
    · simp only [Multiplexer.perform, after]
      exact steps.aside (.refl _) rfl rfl
  | serve => exact serveAll_steps steps
  | outside host =>
    have approached : mux.Approached host := approaches host rfl
    cases approached with
    | spared spares => exact steps.tail (.aside spares)
    | connected found isOpen => exact steps.tail (.arrival found isOpen)
    | givenUp pending => exact steps.tail (.giveUp pending)

end Multiplexer

end SocketMux
