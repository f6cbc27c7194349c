import SocketMux.Proofs.Layout
import SocketMux.Proofs.Lifecycle.SharedPool
import SocketMux.Proofs.Lifecycle.SocketFiles

/-!
# A socket directory that factories share

Factories that share a pool and a directory never get into each other's way: the pool tells
their open listeners apart by their ports, and the layout gives different ports different
entries. So every open listener holds the entry of its port (`Multiplexer.Housed`), the
pool's snapshot tells which ports are open, and every factory reaches every open listener
by its port (`Run.openListeners`).
-/

namespace SocketMux

namespace Multiplexer

/-- Every open listener has the file of its port. Unless this is an abstract name, the
listener holds the entry to which it leads. -/
def Housed (start : Host) (layout : SocketLayout) (mux : Multiplexer) : Prop :=
  ∀ number listener, mux.listeners.get? number = some listener → listener.isClosed = false →
    listener.file = layout.fileFor listener.port ∧
      (listener.file.contains 0 = false →
        ∃ place file, Holds start mux.host place listener file)

namespace Housed

variable {start : Host} {layout : SocketLayout} {mux after : Multiplexer}

/-- Whatever keeps the listeners and what they hold keeps them housed. -/
theorem move (housed : mux.Housed start layout) (listeners : after.listeners = mux.listeners)
    (kept : ∀ {number listener place file}, mux.listeners.get? number = some listener →
      listener.isClosed = false → Holds start mux.host place listener file →
        Holds start after.host place listener file) : after.Housed start layout := by
  intro number listener found isOpen
  rw [listeners] at found
  obtain ⟨named, holds⟩ := housed _ _ found isOpen
  refine ⟨named, fun isPath => ?_⟩
  obtain ⟨place, file, held⟩ := holds isPath
  exact ⟨place, file, kept found isOpen held⟩

/-- Traffic keeps the sockets settled and the listeners housed. -/
theorem keptByTraffic (start : Host) (layout : SocketLayout) :
    KeptByTraffic fun mux => mux.Settled start ∧ mux.Housed start layout where
  same both same := by
    obtain ⟨settled, housed⟩ := both
    refine ⟨(Settled.keptByTraffic start).same settled same, ?_⟩
    exact housed.move same.listeners fun _ _ holds => holds.same same.host
  ended {mux number ending} endingFound isOpen both := by
    obtain ⟨settled, housed⟩ := both
    refine ⟨(Settled.keptByTraffic start).ended endingFound isOpen settled, ?_⟩
    intro other listener found stillOpen
    rw [Table.get?_modify] at found
    split at found
    · obtain ⟨former, -, rfl⟩ := Option.map_eq_some_iff.mp found
      cases stillOpen
    · next apart =>
      obtain ⟨named, holds⟩ := housed _ _ found stillOpen
      refine ⟨named, fun isPath => ?_⟩
      obtain ⟨place, file, held⟩ := holds isPath
      exact ⟨place, file, settled.otherEnded found endingFound apart held⟩

end Housed

/-- A creation for a port that no open listener has clears no entry that is held. -/
theorem Settled.apart {start : Host} {layout : SocketLayout} {mux : Multiplexer}
    (settled : mux.Settled start) (divided : layout.IsDivided) {listener : MuxListener}
    {place : Place} {file : Nat} {bound : Port} {factory : Factory}
    (sameLayout : factory.profile.layout = layout)
    (named : listener.file = layout.fileFor listener.port) (fresh : listener.port ≠ bound)
    (holds : Holds start mux.host place listener file) :
    factory.clearedPlace? mux.host bound ≠ some place := by
  intro cleared
  have located := Factory.locateEntry_of_clearedPlace? cleared
  have before := settled.evolves.erodes.locateEntry located
  unfold FactoryProfile.fileFor at before
  have led := holds.led
  rw [named] at led
  rw [sameLayout] at before
  exact fresh (divided.port_unique led before)

/-- A call for a server on a port that no open listener has keeps the listeners housed. -/
theorem Creates.housed {start : Host} {layout : SocketLayout} {mux after : Multiplexer}
    {number : Nat} {factory : Factory} {creation : Option Creation}
    (creates : Creates mux number factory creation after)
    (inPlace : factory.transport.bindsInPlace = true)
    (sameLayout : factory.profile.layout = layout) (divided : layout.IsDivided)
    (settled : mux.Settled start)
    (fresh : ∀ made ∈ creation, ∀ {number listener}, mux.listeners.get? number = some listener →
      listener.isClosed = false → listener.port ≠ made.port)
    (housed : mux.Housed start layout) : after.Housed start layout := by
  cases creates with
  | nothing remembers => exact housed.move rfl fun _ _ holds => holds.same (.of_eq rfl rfl)
  | @failed port bound issuer ready err host prepared unbound =>
    obtain ⟨pools, assigners, remember, remembers, rfl⟩ := ready_eq prepared
    obtain ⟨morePools, moreAssigners, refunded⟩ := refund_eq
      { mux with host, pools, assigners, factories := mux.factories.modify number remember }
      issuer bound
    rw [refunded]
    refine housed.move rfl fun found isOpen holds => holds.bindFile inPlace unbound ?_
    exact settled.apart divided sameLayout (housed _ _ found isOpen).1
      (fresh _ rfl found isOpen) holds
  | @made port bound issuer ready socket host prepared bind =>
    obtain ⟨pools, assigners, remember, remembers, rfl⟩ := ready_eq prepared
    intro other listener found isOpen
    simp only [enlist, Table.get?_add] at found
    split at found
    · injection found with same
      subst same
      refine ⟨congrArg (fun layout => layout.fileFor bound) sameLayout, fun isPath => ?_⟩
      obtain ⟨-, -, only⟩ | ⟨place, there, -⟩ := Factory.bindFile_cases inPlace bind
      · obtain ⟨-, -, zero⟩ := only socket rfl
        exact absurd zero (by simpa [listenerFor] using isPath)
      · exact ⟨place, _, .made inPlace settled.evolves bind there _ _ _⟩
    · obtain ⟨named, holds⟩ := housed _ _ found isOpen
      refine ⟨named, fun isPath => ?_⟩
      obtain ⟨place, file, held⟩ := holds isPath
      have apart := settled.apart divided sameLayout named (fresh _ rfl found isOpen) held
      exact ⟨place, file, held.bindFile inPlace bind apart⟩

/-- Every action of a shared moment keeps the listeners housed. -/
theorem Housed.perform {start : Host} {layout : SocketLayout} {mux : Multiplexer}
    {pool count : Nat} {elsewhere : List Port} (housed : mux.Housed start layout)
    (settled : mux.Settled start) (shared : mux.Shared pool count elsewhere)
    (more : count < PortPool.capacity) (divided : layout.IsDivided) {action : Action}
    (shares : Moment.Shares pool layout ⟨mux, action⟩) :
    (mux.perform action).Housed start layout := by
  by_cases traffic : action.isTraffic = true
  · exact ((keptByTraffic start layout).perform traffic ⟨settled, housed⟩).2
  have noAuthority : ∀ number, mux.authorities.get? number = none := by
    intro number
    simp [Table.get?, shared.noAuthority]
  have spares := shares.spares
  cases action with
  | createServer number port =>
    have anonymous : port = Port.anonymous := by simpa [Action.sparesPool] using spares
    subst anonymous
    cases found : mux.factories.get? number with
    | none =>
      simp only [Multiplexer.perform, createServer, found]
      exact housed
    | some factory =>
      obtain ⟨registryPort, named, naming, pooled⟩ := shares.pooled found
      refine (createServer_creates Port.anonymous found).housed (shares.inPlace found)
        (shares.sameLayout found) divided settled ?_ housed
      intro creation made other listener other_found isOpen same
      have next := shared.port_of_creation more found naming pooled made
      have below := shared.issued.above more _ (shared.mem_held other_found isOpen)
      rw [same, next] at below
      exact Int32.lt_irrefl below
  | startAuthority path pool => cases spares
  | shutDownAuthority number =>
    simp only [Multiplexer.perform, shutDownAuthority, noAuthority]
    exact housed
  | dropAuthority number =>
    simp only [Multiplexer.perform, dropAuthority, noAuthority]
    exact housed
  | outside host => exact housed.move rfl fun _ _ holds => holds.same (shares.outside rfl)
  | _ => exact absurd rfl traffic

/-- A client for the port of an open listener reaches that listener. -/
theorem createClient_of_holds {start : Host} {mux : Multiplexer} {number : Nat}
    {listener : MuxListener} {factory : Factory} {place : Place} {file : Nat}
    (settled : mux.Settled start) (holds : Holds start mux.host place listener file)
    (isOpen : listener.isClosed = false)
    (located : mux.host.files.locateEntry listener.file = .ok place)
    (multiplexed : listener.port.isMultiplexed = true)
    (found : mux.factories.get? number = some factory)
    (named : factory.profile.fileFor listener.port = listener.file)
    (connects : factory.transport.connects = true) (name : String) :
    ∃ after, mux.createClient number ⟨name, listener.port⟩ = (.ok mux.clients.size, after) ∧
      after.host = (mux.host.connectTo listener.socket).2 ∧
      (after.clients.get? mux.clients.size).map MuxClient.connection =
        some (mux.host.connectTo listener.socket).1 := by
  obtain ⟨present, listens⟩ := holds.whileOpen isOpen
  have connected : factory.transport.connect mux.host ⟨listener.file, listener.port⟩ =
      .ok (mux.host.connectTo listener.socket) := by
    rw [Transport.connect_of_connects connects]
    exact Transport.connectPlainly_of_entry located holds.noSlash holds.fits present
      settled.sound listens
  obtain ⟨credentials, known⟩ := Transport.peer_of_connects connects mux.own
  have address := LocalAddress.ofBytes_of_isMultiplexed
    (FileTree.ne_nil_of_locateEntry located) multiplexed
  simp only [createClient, found, multiplexed, Bool.true_eq_false, false_and, if_false,
    connectClient, named, address, connected, known]
  refine ⟨_, rfl, rfl, ?_⟩
  simp [modifyFactory]

end Multiplexer

/-- Every shared run keeps the sockets settled, the pool balanced and the listeners housed. -/
theorem Run.housed {host : Host} {own : PeerCredentials} {history : History}
    {mux : Multiplexer} (run : Run (.initial host own) history mux) (sound : host.Sound)
    {pool : Nat} {layout : SocketLayout} (divided : layout.IsDivided)
    (shares : ∀ moment ∈ history, moment.Shares pool layout)
    (few : history.creations.length < PortPool.capacity) :
    mux.Settled host ∧
      mux.Shared pool history.creations.length (history.lost.map Prod.snd) ∧
      mux.Housed host layout := by
  revert few
  apply run.induction
    (motive := fun history mux => history.creations.length < PortPool.capacity →
      mux.Settled host ∧
        mux.Shared pool history.creations.length (history.lost.map Prod.snd) ∧
        mux.Housed host layout) shares
  · exact fun _ => ⟨.initial own sound, .initial host own pool, nofun⟩
  · intro history mux action shares before few
    rw [History.creations_cons, List.length_append] at few ⊢
    have fewer : history.creations.length < PortPool.capacity := by omega
    obtain ⟨settled, shared, housed⟩ := before fewer
    refine ⟨settled.perform shares.toIsOrderly, ?_, ?_⟩
    · rw [History.lost_cons, List.map_append]
      exact shared.perform fewer shares
    · exact housed.perform settled shared fewer divided shares

/-- What a socket directory is like that factories share with their pool. -/
structure Multiplexer.SharedDirectory (start : Host) (pool : Nat) (layout : SocketLayout)
    (lost : List Port) (mux : Multiplexer) : Prop where
  /-- The pool's snapshot lists the ports of all open listeners and those that were lost. -/
  snapshot : ∀ {state}, mux.pools.get? pool = some state →
    ∃ ports, state.snapshot = .ok ports ∧ ports.Pairwise (· < ·) ∧
      ∀ port, port ∈ ports ↔
        (∃ number listener, mux.listeners.get? number = some listener ∧
          listener.isClosed = false ∧ listener.port = port) ∨ port ∈ lost
  /-- No two open listeners have one port. -/
  distinct : ∀ {first second former latter}, mux.listeners.get? first = some former →
    former.isClosed = false → mux.listeners.get? second = some latter →
    latter.isClosed = false → former.port = latter.port → first = second
  /-- The file of an open listener's port is its own, if its path can be looked up. -/
  ownFile : ∀ {number listener place}, mux.listeners.get? number = some listener →
    listener.isClosed = false →
    mux.host.files.locateEntry (layout.fileFor listener.port) = .ok place →
      ∃ file, listener.fileNumber = some file ∧
        mux.host.files.find true (layout.fileFor listener.port) = .ok ⟨file, .socket⟩
  /-- Then a client for the port of any factory connects to the listener. -/
  reached : ∀ {number listener place which factory} (name : String),
    mux.listeners.get? number = some listener → listener.isClosed = false →
    mux.host.files.locateEntry (layout.fileFor listener.port) = .ok place →
    mux.factories.get? which = some factory → factory.profile.layout = layout →
    factory.transport.connects = true →
      ∃ client after, mux.createClient which ⟨name, listener.port⟩ = (.ok client, after) ∧
        after.host = (mux.host.connectTo listener.socket).2 ∧
        (after.clients.get? client).map MuxClient.connection =
          some (mux.host.connectTo listener.socket).1
  /-- Paths that could be looked up at the start still can be while all links stand. -/
  lookedUp : start.files.KeepsLinks mux.host.files → ∀ {port place},
    start.files.locateEntry (layout.fileFor port) = .ok place →
      mux.host.files.locateEntry (layout.fileFor port) = .ok place

namespace Multiplexer

/-- An open listener whose path can be looked up holds the entry there. -/
theorem Housed.holds {start : Host} {layout : SocketLayout} {mux : Multiplexer}
    (housed : mux.Housed start layout) (settled : mux.Settled start) {number : Nat}
    {listener : MuxListener} {place : Place} (found : mux.listeners.get? number = some listener)
    (isOpen : listener.isClosed = false)
    (located : mux.host.files.locateEntry (layout.fileFor listener.port) = .ok place) :
    listener.file = layout.fileFor listener.port ∧
      ∃ file, Holds start mux.host place listener file := by
  obtain ⟨named, holds⟩ := housed number listener found isOpen
  rw [← named] at located
  obtain ⟨there, file, held⟩ := holds (FileTree.no_zero_of_locateEntry located)
  have led := settled.evolves.erodes.locateEntry located
  rw [held.led] at led
  injection led with same
  exact ⟨named, file, same ▸ held⟩

/-- The ports of open listeners are multiplexed ones. -/
theorem Shared.isMultiplexed {pool count : Nat} {elsewhere : List Port} {mux : Multiplexer}
    (shared : mux.Shared pool count elsewhere) {number : Nat} {listener : MuxListener}
    (found : mux.listeners.get? number = some listener) (isOpen : listener.isClosed = false) :
    listener.port.isMultiplexed = true := by
  have range := shared.issued.range _ (shared.mem_held found isOpen)
  have base : Port.multiplexedBase.toInt = 100000 := by decide
  refine decide_eq_true (Int32.le_iff_toInt_le.mpr ?_)
  omega

end Multiplexer

/-- Whatever factories that share a pool and a directory do, and in whatever order: once
background tasks are idle, the pool tells which ports are open, and all factories connect
to all open listeners. A port is lost if its listener is let go of without background
tasks. -/
theorem Run.sharedDirectory {host : Host} {own : PeerCredentials} {history : History}
    {mux : Multiplexer} (run : Run (.initial host own) history mux) (sound : host.Sound)
    {pool : Nat} {layout : SocketLayout} (divided : layout.IsDivided)
    (shares : ∀ moment ∈ history, moment.Shares pool layout)
    (few : history.creations.length < PortPool.capacity) (idle : mux.due = []) :
    mux.SharedDirectory host pool layout (history.lost.map Prod.snd) := by
  obtain ⟨settled, shared, housed⟩ := run.housed sound divided shares few
  constructor
  · intro state found
    have state_eq : mux.poolAt pool = state := by simp [Multiplexer.poolAt, found]
    obtain ⟨ports, listed, ascending, members⟩ := shared.issued.snapshot
    rw [state_eq] at listed
    refine ⟨ports, listed, ascending, fun port => ?_⟩
    rw [members, shared.mem_held_iff idle, Multiplexer.mem_listenedPorts]
  · exact shared.port_injective
  · intro number listener place found isOpen located
    obtain ⟨named, file, holds⟩ := housed.holds settled found isOpen located
    obtain ⟨present, -⟩ := holds.whileOpen isOpen
    rw [← named] at located ⊢
    have found := FileTree.find_of_entry located holds.noSlash present (by rintro _ ⟨⟩) true
    exact ⟨file, holds.numbered, found⟩
  · intro number listener place which factory name found isOpen located factory_found
      sameLayout connects
    obtain ⟨named, file, holds⟩ := housed.holds settled found isOpen located
    rw [← named] at located
    have file_eq : factory.profile.fileFor listener.port = listener.file := by
      rw [named, ← sameLayout]
      rfl
    exact ⟨_, Multiplexer.createClient_of_holds settled holds isOpen located
      (shared.isMultiplexed found isOpen) factory_found file_eq connects name⟩
  · intro links port place located
    exact (settled.evolves.erodes.locateEntry_iff links).mpr located

/-- Two factories share the directory at the root. One of their listeners is closed, one is
dropped without background tasks, and one is open. -/
theorem Run.sharedDirectory_of_two :
    let actions := [.makePool, .makeAssigner (.pooled 0), .makeRootFactory, .makeRootFactory,
      .createServer 0 Port.anonymous, .createServer 1 Port.anonymous,
      .createServer 0 Port.anonymous, .closeListener 0, .dropListener 1 false]
    let mux := Multiplexer.blank.after actions
    mux.listenedPorts = [110002] ∧
      mux.SharedDirectory .bare 0 ⟨[Path.separator], "", ".rmi", false⟩ [110001] := by
  intro actions mux
  let history := Multiplexer.blank.momentsOf actions []
  let layout : SocketLayout := ⟨[Path.separator], "", ".rmi", false⟩
  have share : history.all (Moment.sharesPool 0 layout) = true := by decide +kernel
  have shares : ∀ moment ∈ history, moment.Shares 0 layout :=
    fun moment member => .of_sharesPool (List.all_eq_true.mp share moment member)
  have lost : history.lost.map Prod.snd = [110001] := by decide +kernel
  have few : history.creations.length < PortPool.capacity := by decide +kernel
  refine ⟨by decide +kernel, ?_⟩
  rw [← lost]
  exact (Run.ofActions _ actions).sharedDirectory .bare
    ⟨by decide +kernel, by decide +kernel, rfl⟩ shares few (by decide +kernel)

/-- A host with a link to its root, named like the file of the pool's second port. -/
def Host.looped : Host :=
  let entries := [([Text.Utf8.bytesOf "110001.rmi"], ⟨1, .link [Path.dot]⟩)]
  { Host.bare with files := ⟨entries, 2⟩ }

/-- The snapshot of the pool may list ports of which no listener is open, as a listener that
is let go of without background tasks loses its port. Nor need the file of an open listener
be found, as the socket directory may be reached through a link that the next creation
clears. -/
theorem Run.not_sharedDirectory :
    (¬∀ (host : Host) (own : PeerCredentials) (history : History) (mux : Multiplexer)
        (pool : Nat) (layout : SocketLayout) (state : PortPool) (ports : List Port),
      Run (.initial host own) history mux → host.Sound → layout.IsDivided →
      (∀ moment ∈ history, moment.Shares pool layout) →
      history.creations.length < PortPool.capacity → mux.due = [] →
      mux.pools.get? pool = some state → state.snapshot = .ok ports →
        ∀ port, port ∈ ports ↔ ∃ number listener, mux.listeners.get? number = some listener ∧
          listener.isClosed = false ∧ listener.port = port) ∧
    ¬∀ (host : Host) (own : PeerCredentials) (history : History) (mux : Multiplexer)
        (pool : Nat) (layout : SocketLayout) (number : Nat) (listener : MuxListener),
      Run (.initial host own) history mux → host.Sound → layout.IsDivided →
      (∀ moment ∈ history, moment.Shares pool layout) →
      history.creations.length < PortPool.capacity → mux.due = [] →
      mux.listeners.get? number = some listener → listener.isClosed = false →
        ∃ node, mux.host.files.find true (layout.fileFor listener.port) = .ok node := by
  constructor
  · intro always
    let actions : List Action := [.makePool, .makeAssigner (.pooled 0), .makeRootFactory,
      .createServer 0 Port.anonymous, .dropListener 0 false]
    let mux := Multiplexer.blank.after actions
    let history := Multiplexer.blank.momentsOf actions []
    let layout : SocketLayout := ⟨[Path.separator], "", ".rmi", false⟩
    have share : history.all (Moment.sharesPool 0 layout) = true := by decide +kernel
    have shares : ∀ moment ∈ history, moment.Shares 0 layout :=
      fun moment member => .of_sharesPool (List.all_eq_true.mp share moment member)
    have listed := (always .bare ⟨none, 0, 0⟩ history mux 0 layout
      ⟨[110000], 110001, false⟩ [110000] (.ofActions _ actions) .bare
      ⟨by decide +kernel, by decide +kernel, rfl⟩ shares (by decide +kernel) (by decide +kernel)
      (by decide +kernel) rfl 110000).mp List.mem_cons_self
    have nobody : mux.listenedPorts = [] := by decide +kernel
    have member := Multiplexer.mem_listenedPorts.mpr listed
    rw [nobody] at member
    cases member
  · intro always
    let start := Multiplexer.initial .looped ⟨none, 0, 0⟩
    let directory := Text.Utf8.bytesOf "/110001.rmi"
    let actions : List Action := [.makePool, .makeAssigner (.pooled 0),
      .makeFactoryAt directory Port.defaultRegistry, .createServer 0 Port.anonymous,
      .createServer 0 Port.anonymous]
    let mux := start.after actions
    let history := start.momentsOf actions []
    let layout : SocketLayout := ⟨directory, "", ".rmi", false⟩
    have share : history.all (Moment.sharesPool 0 layout) = true := by decide +kernel
    have shares : ∀ moment ∈ history, moment.Shares 0 layout :=
      fun moment member => .of_sharesPool (List.all_eq_true.mp share moment member)
    have opened : (mux.listeners.get? 0).map (fun listener =>
        (listener.isClosed, listener.port)) = some (false, 110000) := by decide +kernel
    obtain ⟨listener, found, same⟩ := Option.map_eq_some_iff.mp opened
    obtain ⟨isOpen, port⟩ := Prod.mk.inj same
    obtain ⟨node, stands⟩ := always .looped ⟨none, 0, 0⟩ history mux 0 layout 0 listener
      (.ofActions _ actions) (.of_noSockets rfl) ⟨by decide +kernel, by decide +kernel, rfl⟩ shares
      (by decide +kernel) (by decide +kernel) found isOpen
    have astray : (mux.host.files.find true (layout.fileFor 110000)).isOk = false := by
      decide +kernel
    rw [← port, stands] at astray
    cases astray

end SocketMux
