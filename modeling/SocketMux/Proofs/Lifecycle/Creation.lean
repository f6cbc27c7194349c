import SocketMux.Proofs.Lifecycle.Frame

/-!
# Creations in a history

A `Creation` is what is remembered of one call that was to make a multiplexed listener:
which port it came by and from which assigner, at which place its file was to stand, and
the listener that it made, if it made one. `Multiplexer.createServer_eq` and
`Moment.creation?` read a creation in the same two steps: `Multiplexer.prepare` comes by
the port and `Multiplexer.bindPrepared` binds it. `History.creations` lists all creations
of a run, the latest first, and `History.madeClients` all clients.
-/

namespace SocketMux

namespace Host

/-- The entry of a path, if it can be cleared. -/
def clearedPlace? (host : Host) (path : Path) : Option Place :=
  match host.removeIfPresent path with
  | .ok _ => (host.files.locateEntry path).toOption
  | .error _ => none

end Host

namespace Factory

/-- The place at which a factory clears the entry for the socket file of a port. Abstract
names have no entry. Addresses that are refused clear nothing, nor does a transport that
fails. -/
def clearedPlace? (factory : Factory) (host : Host) (port : Port) : Option Place :=
  match LocalAddress.ofBytes (factory.profile.fileFor port) port with
  | .error _ => none
  | .ok address =>
    if address.isAbstract || factory.transport.bindFailure.isSome then none
    else host.clearedPlace? address.bytes

/-- Bind the socket file of a port. -/
def bindFile (factory : Factory) (host : Host) (port : Port) : Except MuxError Nat × Host :=
  match LocalAddress.ofBytes (factory.profile.fileFor port) port with
  | .error err => (.error (.address err), host)
  | .ok address => factory.transport.bind host address true

end Factory

namespace Multiplexer

/-- Add a listener that was bound, and register it if it is to be registered. -/
def enlist (mux : Multiplexer) (host : Host) (listener : MuxListener) : Multiplexer :=
  { mux with
    host
    listeners := (mux.listeners.add listener).2
    factories :=
      if listener.registered then
        mux.factories.modify listener.factory fun factory =>
          factory.registerServer listener.port mux.listeners.size
      else mux.factories }

/-- The listener that a factory makes of a socket which it bound for a port. -/
def listenerFor (number : Nat) (factory : Factory) (issuer : Option Nat) (port : Port)
    (registered : Bool) (socket : Nat) (host : Host) : MuxListener :=
  let file := factory.profile.fileFor port
  ⟨number, port, file, socket, (host.fileNumber file).toOption, registered, issuer, false⟩

theorem bindListener_eq (mux : Multiplexer) (number : Nat) (factory : Factory) (port : Port)
    (issuer : Option Nat) (registered : Bool) :
    mux.bindListener number factory port issuer registered =
      match factory.bindFile mux.host port with
      | (.error err, host) => (.error err, { mux with host })
      | (.ok socket, host) => (.ok mux.listeners.size,
          mux.enlist host (listenerFor number factory issuer port registered socket host)) := by
  simp only [bindListener, Factory.bindFile]
  cases LocalAddress.ofBytes (factory.profile.fileFor port) port with
  | error err => rfl
  | ok address =>
    simp only
    obtain ⟨outcome, host⟩ := factory.transport.bind mux.host address true
    cases outcome with
    | error err => rfl
    | ok socket => cases registered <;> rfl

/-- Come by the port that a creation is to bind, with its assigner if it is anonymous. A
conventional creation binds no socket file. -/
def prepare (mux : Multiplexer) (number : Nat) (factory : Factory) (port : Port) :
    Option (Option Nat × Port) × Multiplexer :=
  if port = Port.anonymous then
    match mux.assignerOf number with
    | (.error _, mux) => (none, mux)
    | (.ok assigner, mux) =>
      match mux.newPort assigner with
      | (.error _, mux) => (none, mux)
      | (.ok port, mux) => (some (some assigner, port), mux)
  else if port.isMultiplexed = false ∧ factory.profile.serverHost.isSome then
    (none, (mux.createConventional port).2)
  else (some (none, port), mux)

/-- Give a port back to the assigner that it came from, if it came from one. -/
def refund (mux : Multiplexer) (issuer : Option Nat) (port : Port) : Multiplexer :=
  match issuer with
  | none => mux
  | some assigner => (mux.returnPort assigner port).2

/-- Bind the port of a creation. An anonymous one goes back if that fails. -/
def bindPrepared (mux : Multiplexer) (number : Nat) (factory : Factory) (issuer : Option Nat)
    (port : Port) : Option Nat × Multiplexer :=
  match factory.bindFile mux.host port with
  | (.error _, host) => (none, { mux with host }.refund issuer port)
  | (.ok socket, host) => (some mux.listeners.size, mux.enlist host
      (listenerFor number factory issuer port (issuer.isNone || port.isMultiplexed) socket host))

/-- The listener that a creation has made. -/
def listenerOf? : Except MuxError Server → Option Nat
  | .ok (.multiplexed listener) => some listener
  | _ => none

/-- A creation comes by its port and binds it. -/
theorem createServer_eq {mux : Multiplexer} {number : Nat} {factory : Factory} (port : Port)
    (found : mux.factories.get? number = some factory) :
    (listenerOf? (mux.createServer number port).1, (mux.createServer number port).2) =
      (mux.prepare number factory port).1.elim (none, (mux.prepare number factory port).2)
        fun chosen =>
          (mux.prepare number factory port).2.bindPrepared number factory chosen.1 chosen.2 := by
  -- Wherever a port is come by, both sides bind the same file for it.
  simp only [createServer, found, prepare]
  split
  · simp only [createAnonymous]
    obtain ⟨outcome, ready⟩ := mux.assignerOf number
    cases outcome with
    | error err => rfl
    | ok assigner =>
      simp only
      obtain ⟨outcome, ready⟩ := ready.newPort assigner
      cases outcome with
      | error err => rfl
      | ok bound =>
        simp only [Option.elim_some, bindListener_eq, bindPrepared]
        obtain ⟨outcome, host⟩ := factory.bindFile ready.host bound
        cases outcome <;> rfl
  · split
    · simp only [createConventional]
      cases Conventional.networkPort port with
      | error err => rfl
      | ok networkPort =>
        simp only
        cases mux.host.takeNetworkPort networkPort <;> rfl
    · simp only [Option.elim_some, bindListener_eq, bindPrepared]
      obtain ⟨outcome, host⟩ := factory.bindFile mux.host port
      cases outcome <;> rfl

/-- A change that at most makes a factory remember another assigner. -/
def Remembers (change : Factory → Factory) : Prop :=
  ∀ factory, ∃ authority, change factory = { factory with authority }

/-- Coming by a port changes no listener and no socket. -/
theorem prepare_eq (mux : Multiplexer) (number : Nat) (factory : Factory) (port : Port) :
    ∃ networkPorts pools assigners remember, Remembers remember ∧
      (mux.prepare number factory port).2 =
        { mux with
          host := { mux.host with networkPorts }
          pools
          assigners
          factories := mux.factories.modify number remember } ∧
      ((mux.prepare number factory port).1.isSome → networkPorts = mux.host.networkPorts) := by
  have same : mux.factories.modify number id = mux.factories :=
    Table.modify_eq_self _ _ _ fun _ _ => rfl
  have plain : Remembers id := fun factory => ⟨factory.authority, rfl⟩
  unfold prepare
  split
  · obtain ⟨assigners, remember, looked, remembers⟩ := mux.assignerOf_eq number
    split
    · next outcome =>
      rw [outcome] at looked
      exact ⟨_, mux.pools, assigners, remember, remembers, looked, fun _ => rfl⟩
    · next assigner ready outcome =>
      rw [outcome] at looked
      have ready_is : ready = _ := looked
      obtain ⟨pools, assigners', asked⟩ := ready.ask_eq assigner .newPort
      rw [← newPort_snd, ready_is] at asked
      rw [ready_is]
      split
      · next refused =>
        rw [refused] at asked
        exact ⟨_, pools, assigners', remember, remembers, asked, fun _ => rfl⟩
      · next granted =>
        rw [granted] at asked
        exact ⟨_, pools, assigners', remember, remembers, asked, fun _ => rfl⟩
  · split
    · have conventional : ∃ networkPorts, (mux.createConventional port).2 =
          { mux with host := { mux.host with networkPorts } } := by
        unfold createConventional
        split
        · exact ⟨_, rfl⟩
        · next networkPort _ =>
          split
          · exact ⟨_, rfl⟩
          · next host taken =>
            unfold Host.takeNetworkPort at taken
            split at taken
            · cases taken
            · injection taken with taken
              exact ⟨_, by rw [← taken]⟩
      obtain ⟨networkPorts, after⟩ := conventional
      exact ⟨networkPorts, mux.pools, mux.assigners, id, plain, by rw [same]; exact after,
        fun bound => by cases bound⟩
    · exact ⟨_, mux.pools, mux.assigners, id, plain, by rw [same], fun _ => rfl⟩

/-- A refund is noted down. -/
theorem refund_eq (mux : Multiplexer) (issuer : Option Nat) (port : Port) :
    ∃ pools assigners, mux.refund issuer port =
      { mux with
        pools
        assigners
        returned := (issuer.map fun assigner => (assigner, port)).toList ++ mux.returned } := by
  unfold refund
  cases issuer with
  | none => exact ⟨_, _, rfl⟩
  | some assigner => exact mux.returnPort_eq assigner port

end Multiplexer

/-- A call that came by a port to bind. -/
structure Creation where
  factory : Nat
  port : Port
  /-- The assigner of an anonymous port. -/
  issuer : Option Nat
  /-- Where the socket file was to stand, if the entry there was cleared. -/
  place : Option Place
  /-- The listener, if one was made. -/
  listener : Option Nat
deriving DecidableEq, Repr

namespace Creation

/-- The anonymous port of a creation with the assigner that issued it. -/
def issued? (creation : Creation) : Option (Nat × Port) :=
  creation.issuer.map fun assigner => (assigner, creation.port)

/-- Whether the factory lists a listener that was made. -/
def isRegistered (creation : Creation) : Bool :=
  creation.issuer.isNone || creation.port.isMultiplexed

end Creation

namespace Moment

/-- The creation at a moment. -/
def creation? (moment : Moment) : Option Creation :=
  match moment.action with
  | .createServer number port =>
    (moment.state.factories.get? number).bind fun factory =>
      (moment.state.prepare number factory port).1.map fun (issuer, bound) =>
        ⟨number, bound, issuer,
          factory.clearedPlace? moment.state.host bound,
          Multiplexer.listenerOf? (moment.state.createServer number port).1⟩
  | _ => none

/-- The client that is made at a moment, with its factory. -/
def madeClient? (moment : Moment) : Option (Nat × Nat) :=
  match moment.action with
  | .createClient number key =>
    ((moment.state.createClient number key).1.toOption).map fun client => (number, client)
  | _ => none

end Moment

namespace History

/-- The creations of a history, the latest first. -/
def creations (history : History) : List Creation := history.filterMap Moment.creation?

/-- The clients of a history with their factories, the latest first. -/
def madeClients (history : History) : List (Nat × Nat) := history.filterMap Moment.madeClient?

theorem creations_cons (moment : Moment) (history : History) :
    creations (moment :: history) = moment.creation?.toList ++ creations history := by
  unfold creations
  rw [List.filterMap_cons]
  cases moment.creation? <;> rfl

theorem madeClients_cons (moment : Moment) (history : History) :
    madeClients (moment :: history) = moment.madeClient?.toList ++ madeClients history := by
  unfold madeClients
  rw [List.filterMap_cons]
  cases moment.madeClient? <;> rfl

end History

namespace Multiplexer

/-- What a call that is to make a server may come to: no port to bind, a port that cannot
be bound, or a listener. -/
inductive Creates (mux : Multiplexer) (number : Nat) (factory : Factory) :
    Option Creation → Multiplexer → Prop where
  | nothing {networkPorts : List Nat} {pools : Table PortPool} {assigners : Table Assigner}
      {remember : Factory → Factory} (remembers : Remembers remember) :
      Creates mux number factory none
        { mux with
          host := { mux.host with networkPorts }
          pools
          assigners
          factories := mux.factories.modify number remember }
  | failed {port bound : Port} {issuer : Option Nat} {ready : Multiplexer} {err : MuxError}
      {host : Host} (prepared : mux.prepare number factory port = (some (issuer, bound), ready))
      (unbound : factory.bindFile mux.host bound = (.error err, host)) :
      Creates mux number factory
        (some ⟨number, bound, issuer,
          factory.clearedPlace? mux.host bound, none⟩)
        ({ ready with host }.refund issuer bound)
  | made {port bound : Port} {issuer : Option Nat} {ready : Multiplexer} {socket : Nat}
      {host : Host} (prepared : mux.prepare number factory port = (some (issuer, bound), ready))
      (bind : factory.bindFile mux.host bound = (.ok socket, host)) :
      Creates mux number factory
        (some ⟨number, bound, issuer,
          factory.clearedPlace? mux.host bound, some mux.listeners.size⟩)
        (ready.enlist host (listenerFor number factory issuer bound
          (issuer.isNone || bound.isMultiplexed) socket host))

/-- A prepared state only differs in what hands out ports. -/
theorem ready_eq {mux ready : Multiplexer} {number : Nat} {factory : Factory}
    {port bound : Port} {issuer : Option Nat}
    (prepared : mux.prepare number factory port = (some (issuer, bound), ready)) :
    ∃ pools assigners remember, Remembers remember ∧
      ready = { mux with pools, assigners, factories := mux.factories.modify number remember } := by
  obtain ⟨networkPorts, pools, assigners, remember, remembers, after, same⟩ :=
    mux.prepare_eq number factory port
  rw [prepared] at after same
  have ports : networkPorts = mux.host.networkPorts := same rfl
  subst ports
  exact ⟨pools, assigners, remember, remembers, after⟩

/-- Every call that is to make a server comes to one of these ends. -/
theorem createServer_creates {mux : Multiplexer} {number : Nat} {factory : Factory}
    (port : Port) (found : mux.factories.get? number = some factory) :
    Creates mux number factory (Moment.creation? ⟨mux, .createServer number port⟩)
      (mux.createServer number port).2 := by
  have both := createServer_eq port found
  have listener_eq := congrArg Prod.fst both
  have after_eq := congrArg Prod.snd both
  simp only at listener_eq after_eq
  simp only [Moment.creation?, found, Option.bind_some, listener_eq, after_eq]
  cases prepared : mux.prepare number factory port with
  | mk port? ready =>
    cases port? with
    | none =>
      obtain ⟨networkPorts, pools, assigners, remember, remembers, after, -⟩ :=
        mux.prepare_eq number factory port
      rw [prepared] at after
      simp only [Option.map_none, Option.elim_none]
      rw [show ready = _ from after]
      exact .nothing remembers
    | some chosen =>
      obtain ⟨issuer, bound⟩ := chosen
      obtain ⟨pools, assigners, remember, remembers, ready_is⟩ := ready_eq prepared
      have host_eq : ready.host = mux.host := by rw [ready_is]
      have size_eq : ready.listeners.size = mux.listeners.size := by rw [ready_is]
      simp only [Option.map_some, Option.elim_some, bindPrepared, host_eq, size_eq]
      cases bind : factory.bindFile mux.host bound with
      | mk outcome host =>
        cases outcome with
        | error err => exact .failed prepared bind
        | ok socket => exact .made prepared bind

/-- A transport that connects changes nothing but the traffic. -/
theorem connect_listening {transport : Transport} {address : LocalAddress} {before after : Host}
    {connection : Nat} (made : transport.connect before address = .ok (connection, after)) :
    before.SameListening after := by
  unfold Transport.connect Transport.connectPlainly at made
  split at made
  · cases made
  · simp only at made
    split at made
    · cases made
    · next socket _ =>
      injection made with made
      have host_eq : (before.connectTo socket).2 = after := congrArg Prod.snd made
      exact host_eq ▸ Host.connectTo_listening before socket

/-- Who a factory is told that the peers of its connections are. -/
def reported? (mux : Multiplexer) (number : Nat) : Option PeerCredentials :=
  (mux.factories.get? number).bind fun factory => (factory.transport.peer mux.own).toOption

/-- Connect to the file of a port for a client and ask who the peer is. A connection whose
peer is not known is let go of. -/
def meet (mux : Multiplexer) (number : Nat) (key : HostAndPort) :
    Except MuxError (Path × Nat × PeerCredentials) × Host :=
  match mux.factories.get? number with
  | none => (.error .closed, mux.host)
  | some factory =>
    if key.port.isMultiplexed = false ∧ factory.profile.clientHost.isSome then
      match Conventional.networkPort key.port with
      | .error err => (.error err, mux.host)
      | .ok _ => (.error (.fault .conventional (.system Errno.networkUnreachable)), mux.host)
    else
      let file := factory.profile.fileFor key.port
      match LocalAddress.ofBytes file key.port with
      | .error err => (.error (.address err), mux.host)
      | .ok address =>
        match factory.transport.connect mux.host address with
        | .error err => (.error err, mux.host)
        | .ok (connection, host) =>
          match factory.transport.peer mux.own with
          | .error err => (.error err, host.release connection .caller)
          | .ok credentials => (.ok (file, connection, credentials), host)

/-- A client that is asked for meets its peer, and is registered unless descriptors are
short. -/
theorem createClient_eq (mux : Multiplexer) (number : Nat) (key : HostAndPort)
    (shortage : Option Fault) :
    mux.createClient number key shortage =
      match mux.meet number key with
      | (.error err, host) => (.error err, { mux with host })
      | (.ok (file, connection, credentials), host) =>
        match shortage with
        | some fault => (.error (.fault .connect fault),
            { mux with
              host := host.release connection .caller
              factories := mux.factories.modify number fun factory =>
                factory.forgetPeer key credentials })
        | none => (.ok mux.clients.size,
            { mux with
              host
              clients := (mux.clients.add ⟨number, key, credentials, file, connection, false⟩).2
              factories := mux.factories.modify number fun factory =>
                factory.registerClient mux.clients.size key credentials }) := by
  simp only [createClient, meet, connectClient]
  cases mux.factories.get? number with
  | none => rfl
  | some factory =>
    by_cases conventional : key.port.isMultiplexed = false ∧ factory.profile.clientHost.isSome
    · simp only [if_pos conventional]
      cases Conventional.networkPort key.port <;> rfl
    · simp only [if_neg conventional]
      cases LocalAddress.ofBytes (factory.profile.fileFor key.port) key.port with
      | error err => rfl
      | ok address =>
        simp only
        cases factory.transport.connect mux.host address with
        | error err => rfl
        | ok made =>
          cases factory.transport.peer mux.own with
          | error err => rfl
          | ok credentials => cases shortage <;> rfl

/-- Meeting a peer leaves at most traces in the traffic, and tells who the peer is as the
transport of the factory does. -/
theorem meet_cases (mux : Multiplexer) (number : Nat) (key : HostAndPort) :
    (∃ err host, mux.host.SameListening host ∧ mux.meet number key = (.error err, host)) ∨
    ∃ file connection credentials host, mux.host.SameListening host ∧
      mux.reported? number = some credentials ∧
      mux.meet number key = (.ok (file, connection, credentials), host) := by
  unfold meet
  split
  · exact .inl ⟨_, mux.host, .refl _, rfl⟩
  · next factory found =>
    split
    · split <;> exact .inl ⟨_, mux.host, .refl _, rfl⟩
    · simp only
      split
      · exact .inl ⟨_, mux.host, .refl _, rfl⟩
      · split
        · exact .inl ⟨_, mux.host, .refl _, rfl⟩
        · next connection host made =>
          have same := connect_listening made
          split
          · exact .inl ⟨_, _, same.trans (Host.release_listening _ _ _), rfl⟩
          · next credentials known =>
            refine .inr ⟨_, _, _, _, same, ?_, rfl⟩
            simp [reported?, found, known, Except.toOption]

/-- Only a factory that exists is told who its peers are. -/
theorem lt_size_of_reported? {mux : Multiplexer} {number : Nat} {credentials : PeerCredentials}
    (reported : mux.reported? number = some credentials) : number < mux.factories.size := by
  obtain ⟨factory, found, -⟩ := Option.bind_eq_some_iff.mp reported
  exact (List.getElem?_eq_some_iff.mp found).1

/-- A client that cannot be made leaves at most traces in the traffic; one that is made is
registered. -/
theorem createClient_cases (mux : Multiplexer) (number : Nat) (key : HostAndPort) :
    (∃ err host, mux.host.SameListening host ∧
      mux.createClient number key = (.error err, { mux with host })) ∨
    ∃ credentials file connection host, mux.host.SameListening host ∧
      number < mux.factories.size ∧
      mux.createClient number key = (.ok mux.clients.size,
        { mux with
          host
          clients := (mux.clients.add ⟨number, key, credentials, file, connection, false⟩).2
          factories := mux.factories.modify number fun factory =>
            factory.registerClient mux.clients.size key credentials }) := by
  rw [createClient_eq]
  obtain ⟨err, host, same, met⟩ | ⟨file, connection, credentials, host, same, reported, met⟩ :=
    mux.meet_cases number key
  · exact .inl ⟨err, host, same, by rw [met]⟩
  · exact .inr ⟨credentials, file, connection, host, same, lt_size_of_reported? reported,
      by rw [met]⟩

/-- A change that at most makes a factory forget credentials. -/
def Forgets (change : Factory → Factory) : Prop :=
  ∀ factory, ∃ credentials, change factory = { factory with credentials } ∧
    credentials.entries ⊆ factory.peers

/-- What is remembered of a peer in vain is forgotten with all that was remembered under
the same host and port. -/
theorem forgets_forgetPeer (key : HostAndPort) (credentials : PeerCredentials) :
    Forgets fun factory => factory.forgetPeer key credentials := by
  refine fun factory => ⟨_, rfl, fun entry kept => ?_⟩
  obtain ⟨inserted, differs⟩ := Keyed.mem_erase.mp kept
  obtain rfl | earlier := List.mem_cons.mp inserted
  · exact absurd rfl differs
  · exact (Keyed.mem_erase.mp earlier).1

/-- While descriptors are short no client is made, but credentials may be forgotten. -/
theorem createClient_short (mux : Multiplexer) (number : Nat) (key : HostAndPort)
    (shortage : Fault) :
    ∃ host forget, Forgets forget ∧ mux.host.SameListening host ∧
      (mux.createClient number key (some shortage)).2 =
        { mux with host, factories := mux.factories.modify number forget } := by
  have kept : mux.factories.modify number id = mux.factories :=
    Table.modify_eq_self _ _ _ fun _ _ => rfl
  rw [createClient_eq]
  obtain ⟨err, host, same, met⟩ | ⟨file, connection, credentials, host, same, -, met⟩ :=
    mux.meet_cases number key
  · exact ⟨host, id, fun factory => ⟨factory.credentials, rfl, fun _ => id⟩, same,
      by rw [met, kept]⟩
  · exact ⟨host.release connection .caller, _, forgets_forgetPeer key credentials,
      same.trans (Host.release_listening _ _ _), by rw [met]⟩

end Multiplexer

end SocketMux
