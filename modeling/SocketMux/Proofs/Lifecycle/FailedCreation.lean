import SocketMux.Proofs.Lifecycle.Returns
import SocketMux.Proofs.Lifecycle.SocketSteps

/-!
# Creations that fail

A creation that fails, wherever it does, leaves the registries of all factories as they were and
closes nothing (`Multiplexer.LeavesNoTrace`). A port that it came by from a pool at hand is in no
use afterwards (`Multiplexer.snapshots_createServer`). If the port cannot be bound, the reason is
the error of the creation, whatever comes of giving the port back
(`Multiplexer.createServer_of_unbound`).
-/

namespace SocketMux

open SocketMux.Authority

namespace PortPool

/-- A port that a pool hands out and takes back leaves the ports in use as they were. -/
theorem snapshot_returned {pool after : PortPool} {port : Port}
    (granted : pool.allocate = .ok (port, after)) :
    ((Request.returnPort port).after after).snapshot = pool.snapshot := by
  obtain ⟨unclosed, -, still, held⟩ := allocate_ok granted
  rw [Request.after_returnPort, if_neg (still ▸ Bool.false_ne_true), snapshot, snapshot,
    held, erase_insertHeld, still, unclosed]

end PortPool

namespace Host

/-- No socket opens or closes, and nothing happens on a connection that is there. -/
structure KeepsEnds (before after : Host) : Prop where
  spots : after.spots = before.spots
  connections : ∀ number connection, before.connections.get? number = some connection →
    after.connections.get? number = some connection

variable {before after : Host}

theorem KeepsEnds.of_eq (sockets : after.sockets = before.sockets)
    (connections : after.connections = before.connections) : before.KeepsEnds after where
  spots := by rw [Host.spots, Host.spots, sockets]
  connections number connection found := by rw [connections, found]

theorem KeepsEnds.refl (host : Host) : host.KeepsEnds host := .of_eq rfl rfl

/-- A connection is made next to those that are there. -/
theorem keepsEnds_connectTo (host : Host) (socket : Nat) :
    host.KeepsEnds (host.connectTo socket).2 ∧
      (host.connectTo socket).1 = host.connections.size := by
  have added : ∀ number connection, host.connections.get? number = some connection →
      (host.connections.add .fresh).2.get? number = some connection := by
    intro number connection found
    rw [host.connections.get?_add_of_lt _ (List.getElem?_eq_some_iff.mp found).1, found]
  simp only [connectTo]
  split
  · exact ⟨⟨spots_modify host _ _ _ fun _ => rfl, added⟩, rfl⟩
  · exact ⟨⟨spots_modify host _ _ _ fun _ => rfl, added⟩, rfl⟩

/-- A connection that was not there before may be let go of. -/
theorem KeepsEnds.release_new (keeps : before.KeepsEnds after) {connection : Nat}
    (new : connection = before.connections.size) (side : Side) :
    before.KeepsEnds (after.release connection side) where
  spots := keeps.spots
  connections number state found := by
    have bounded : number < before.connections.size := (List.getElem?_eq_some_iff.mp found).1
    have apart : connection ≠ number := by omega
    rw [release, modifyConnection, Table.get?_modify, if_neg apart]
    exact keeps.connections number state found

end Host

namespace Transport

variable {host after : Host} {address : LocalAddress}

/-- A transport that connects makes a connection next to those that are there. -/
theorem keepsEnds_connect {transport : Transport} {connection : Nat}
    (made : transport.connect host address = .ok (connection, after)) :
    host.KeepsEnds after ∧ connection = host.connections.size := by
  simp only [connect, connectPlainly] at made
  split at made
  · cases made
  · split at made
    · cases made
    · next socket _ =>
      obtain ⟨keeps, new⟩ := host.keepsEnds_connectTo socket
      have same := Except.ok.inj made
      rw [same] at keeps new
      exact ⟨keeps, new⟩

end Transport

namespace Multiplexer

/-- Every factory reports what it did before, and nothing opens or closes that was there. -/
structure LeavesNoTrace (before after : Multiplexer) : Prop where
  serverPorts : ∀ number, (after.factories.get? number).map Factory.serverPorts =
    (before.factories.get? number).map Factory.serverPorts
  clientCount : ∀ number, (after.factories.get? number).map Factory.clientCount =
    (before.factories.get? number).map Factory.clientCount
  peers : ∀ number key,
    (after.factories.get? number).map (fun factory => factory.credentials.get? key) =
      (before.factories.get? number).map fun factory => factory.credentials.get? key
  listeners : after.listeners = before.listeners
  clients : after.clients = before.clients
  ends : before.host.KeepsEnds after.host

section Traces

variable {before after : Multiplexer} {number : Nat} {remember : Factory → Factory}

/-- The assigner that a factory remembers is in none of its reports. -/
theorem LeavesNoTrace.of_remembers (remembers : Remembers remember)
    (factories : after.factories = before.factories.modify number remember)
    (listeners : after.listeners = before.listeners) (clients : after.clients = before.clients)
    (ends : before.host.KeepsEnds after.host) : before.LeavesNoTrace after := by
  have unseen : ∀ {α : Type} (report : Factory → α),
      (∀ factory authority, report { factory with authority } = report factory) → ∀ other,
        (after.factories.get? other).map report = (before.factories.get? other).map report := by
    intro α report blind other
    rw [factories, Table.get?_modify]
    split
    · have same : report ∘ remember = report := by
        funext factory
        obtain ⟨authority, same⟩ := remembers factory
        rw [Function.comp_apply, same, blind]
      rw [Option.map_map, same]
    · rfl
  exact ⟨unseen _ fun _ _ => rfl, unseen _ fun _ _ => rfl,
    fun other key => unseen (fun factory => factory.credentials.get? key) (fun _ _ => rfl) other,
    listeners, clients, ends⟩

theorem LeavesNoTrace.of_host {mux : Multiplexer} {host : Host}
    (ends : mux.host.KeepsEnds host) : mux.LeavesNoTrace { mux with host } :=
  ⟨fun _ => rfl, fun _ => rfl, fun _ _ => rfl, rfl, rfl, ends⟩

end Traces

section Servers

variable {mux : Multiplexer} {number : Nat} {factory : Factory} {port : Port} {err : MuxError}

/-- A server that is not made leaves no trace, wherever its creation fails. -/
theorem createServer_leavesNoTrace (failed : (mux.createServer number port).1 = .error err) :
    mux.LeavesNoTrace (mux.createServer number port).2 := by
  cases found : mux.factories.get? number with
  | none =>
    have untouched : (mux.createServer number port).2 = mux := by
      unfold createServer
      rw [found]
    rw [untouched]
    exact .of_host (.refl mux.host)
  | some factory =>
    have both := createServer_eq port found
    rw [failed] at both
    have after_is := congrArg Prod.snd both
    have noListener := congrArg Prod.fst both
    simp only at after_is noListener
    rw [after_is]
    cases prepared : mux.prepare number factory port with
    | mk port? ready =>
      rw [prepared] at noListener
      cases port? with
      | none =>
        obtain ⟨networkPorts, pools, assigners, remember, remembers, ready_is, -⟩ :=
          mux.prepare_eq number factory port
        rw [prepared] at ready_is
        have ready_is : ready = _ := ready_is
        rw [Option.elim_none, ready_is]
        exact .of_remembers remembers rfl rfl rfl (.of_eq rfl rfl)
      | some chosen =>
        obtain ⟨issuer, bound⟩ := chosen
        obtain ⟨pools, assigners, remember, remembers, rfl⟩ := ready_eq prepared
        simp only [Option.elim_some, bindPrepared] at noListener ⊢
        cases bind : factory.bindFile mux.host bound with
        | mk outcome host =>
          rw [bind] at noListener
          cases outcome with
          | ok socket => cases noListener
          | error cause =>
            obtain ⟨files, rfl⟩ := (Factory.bindFile_ends bind).eq_of_error
            dsimp only
            obtain ⟨poolsLeft, assignersLeft, refunded⟩ := refund_eq _ issuer bound
            rw [refunded]
            exact .of_remembers remembers rfl rfl rfl (.of_eq rfl rfl)

/-- A creation for an anonymous port looks its assigner up, comes by a port and binds it. A port
that cannot be bound goes back before the reason is reported. -/
theorem createServer_anonymous (found : mux.factories.get? number = some factory) :
    mux.createServer number Port.anonymous =
      match mux.assignerOf number with
      | (.error err, looked) => (.error err, looked)
      | (.ok assigner, looked) =>
        match looked.newPort assigner with
        | (.error err, ready) => (.error err, ready)
        | (.ok port, ready) =>
          match factory.bindFile ready.host port with
          | (.error err, host) => (.error err, (returnPort { ready with host } assigner port).2)
          | (.ok socket, host) => (.ok (.multiplexed ready.listeners.size),
              ready.enlist host (listenerFor number factory (some assigner) port
                port.isMultiplexed socket host)) := by
  simp only [createServer, found, if_true, createAnonymous, bindListener_eq]
  obtain ⟨outcome, looked⟩ := mux.assignerOf number
  cases outcome with
  | error err => rfl
  | ok assigner =>
    simp only
    obtain ⟨outcome, ready⟩ := looked.newPort assigner
    cases outcome with
    | error err => rfl
    | ok port =>
      simp only
      obtain ⟨outcome, host⟩ := factory.bindFile ready.host port
      cases outcome <;> rfl

/-- The reason why an anonymous port cannot be bound is the error of the creation, and the port
goes back, whatever its assigner answers to that. -/
theorem createServer_of_unbound {assigner : Nat} {looked ready : Multiplexer}
    (found : mux.factories.get? number = some factory)
    (asked : mux.assignerOf number = (.ok assigner, looked))
    (granted : looked.newPort assigner = (.ok port, ready))
    (unbound : (factory.bindFile ready.host port).1 = .error err) :
    (mux.createServer number Port.anonymous).1 = .error err ∧
      (mux.createServer number Port.anonymous).2.returned = (assigner, port) :: mux.returned := by
  have ready_returned : ready.returned = mux.returned := by
    obtain ⟨_, _, looked_is, -⟩ := mux.assignerOf_eq number
    obtain ⟨_, _, ready_is⟩ := looked.ask_eq assigner .newPort
    rw [← newPort_snd, granted] at ready_is
    rw [asked] at looked_is
    rw [show ready = _ from ready_is, show looked = _ from looked_is]
  rw [createServer_anonymous found, asked]
  simp only [granted]
  cases bind : factory.bindFile ready.host port with
  | mk outcome host =>
    rw [bind] at unbound
    cases unbound
    refine ⟨rfl, ?_⟩
    simp only [returnPort_after, ready_returned]

end Servers

section AtHand

variable {mux : Multiplexer} {number assigner : Nat}

/-- Whether the assigner that a factory asks for a port is not behind a socket. -/
def AsksAtHand (mux : Multiplexer) (number : Nat) : Prop :=
  ∀ assigner path, (mux.assignerOf number).1 = .ok assigner →
    (mux.assignerOf number).2.assigners.get? assigner ≠ some (.remote path)

/-- The ports in use in each pool. -/
def snapshots (mux : Multiplexer) (pool : Nat) : Option (Except MuxError (List Port)) :=
  (mux.pools.get? pool).map PortPool.snapshot

theorem snapshots_assignerOf (mux : Multiplexer) (number : Nat) :
    (mux.assignerOf number).2.snapshots = mux.snapshots := by
  obtain ⟨assigners, remember, looked, -⟩ := mux.assignerOf_eq number
  rw [looked]
  rfl

/-- Without a socket in between, a port that was obtained goes back to where it came from,
whatever happens on the host meanwhile. -/
theorem snapshots_newPort (atHand : ∀ path, mux.assigners.get? assigner ≠ some (.remote path)) :
    (∃ err ready, mux.newPort assigner = (.error err, ready) ∧ ready.snapshots = mux.snapshots) ∨
      ∃ port ready, mux.newPort assigner = (.ok port, ready) ∧
        ∀ host, (returnPort { ready with host } assigner port).2.snapshots = mux.snapshots := by
  cases assigned : mux.assigners.get? assigner with
  | none => exact .inl ⟨.closed, mux, by simp [newPort, ask, assigned], rfl⟩
  | some state =>
    cases state with
    | remote path => exact absurd assigned (atHand path)
    | pooled pool =>
      cases found : mux.pools.get? pool with
      | none =>
        exact .inl ⟨.unavailable .poolClosed, mux,
          by simp only [newPort, ask, assigned, serveFrom, found], rfl⟩
      | some state =>
        cases granted : state.allocate with
        | error err =>
          refine .inl ⟨err, mux, ?_, rfl⟩
          simp only [newPort, ask, assigned, serveFrom, found, Request.serve, granted, Except.map]
        | ok taken =>
          obtain ⟨port, after⟩ := taken
          refine .inr ⟨port, mux.setPool pool after, ?_, fun host => funext fun other => ?_⟩
          · simp only [newPort, ask, assigned, serveFrom, found, Request.serve, granted,
              Except.map]
          · simp only [returnPort_after, snapshots, poolOf?, setPool, assigned, takenBack,
              Option.elim_some, Table.get?_modify]
            split
            · next same =>
              subst same
              simp only [found, Option.map_some, PortPool.snapshot_returned granted]
            · rfl
    | scripted ports refusal =>
      cases ports with
      | nil =>
        exact .inl ⟨.unavailable (.stated "script exhausted"),
          { mux with assigners := mux.assigners.modify assigner fun _ => .scripted [] refusal },
          by simp only [newPort, ask, assigned, followScript], rfl⟩
      | cons port ports =>
        refine .inr ⟨port,
          { mux with assigners := mux.assigners.modify assigner fun _ => .scripted ports refusal },
          by simp only [newPort, ask, assigned, followScript], fun host => ?_⟩
        simp only [returnPort_after, poolOf?, Table.get?_modify, if_true, assigned,
          Option.map_some, takenBack_none]
        rfl

/-- A creation that fails leaves the ports in use as they were if its assigner is at hand. -/
theorem snapshots_createServer {err : MuxError} (atHand : mux.AsksAtHand number)
    (failed : (mux.createServer number Port.anonymous).1 = .error err) :
    (mux.createServer number Port.anonymous).2.snapshots = mux.snapshots := by
  cases found : mux.factories.get? number with
  | none =>
    unfold createServer
    rw [found]
  | some factory =>
    have kept := mux.snapshots_assignerOf number
    unfold AsksAtHand at atHand
    rw [createServer_anonymous found] at failed ⊢
    cases asked : mux.assignerOf number with
    | mk outcome looked =>
      simp only [asked] at atHand kept failed ⊢
      cases outcome with
      | error cause => exact kept
      | ok assigner =>
        obtain ⟨cause, ready, refused, same⟩ | ⟨port, ready, granted, returned⟩ :=
          snapshots_newPort fun path => atHand assigner path rfl
        · simp only [refused]
          exact same.trans kept
        · simp only [granted] at failed ⊢
          cases bind : factory.bindFile ready.host port with
          | mk outcome host =>
            rw [bind] at failed
            cases outcome with
            | ok socket => cases failed
            | error cause => exact (returned host).trans kept

end AtHand

section Clients

variable {mux : Multiplexer} {number : Nat} {key : HostAndPort} {err : MuxError}

/-- Meeting a peer in vain is at most seen in the traffic. -/
theorem meet_failed {host : Host} (failed : mux.meet number key = (.error err, host)) :
    mux.host.KeepsEnds host := by
  simp only [meet] at failed
  split at failed
  · cases failed
    exact .refl mux.host
  · split at failed
    · split at failed <;> cases failed <;> exact .refl mux.host
    · split at failed
      · cases failed
        exact .refl mux.host
      · split at failed
        · cases failed
          exact .refl mux.host
        · next made =>
          obtain ⟨keeps, new⟩ := Transport.keepsEnds_connect made
          split at failed
          · cases failed
            exact keeps.release_new new .caller
          · cases failed

/-- A client that is not made leaves no trace. It fails in the same way while descriptors are
short. -/
theorem createClient_leavesNoTrace (failed : (mux.createClient number key).1 = .error err) :
    mux.LeavesNoTrace (mux.createClient number key).2 ∧
      ∀ shortage, mux.createClient number key shortage = mux.createClient number key := by
  cases met : mux.meet number key with
  | mk outcome host =>
    cases outcome with
    | error cause =>
      have fails : ∀ shortage,
          mux.createClient number key shortage = (.error cause, { mux with host }) := by
        intro shortage
        rw [createClient_eq, met]
      rw [fails none]
      exact ⟨.of_host (meet_failed met), fails⟩
    | ok peer =>
      rw [createClient_eq, met] at failed
      cases failed

end Clients

/-- Creations that fail leave no trace, in whatever state and for whatever reason. A server for an
anonymous port leaves the ports in use as they were unless its assigner is behind a socket. When
the address or the binding of such a port is refused, this is what is reported, and the port goes
back to its assigner, whatever the assigner answers. -/
theorem creations_in_vain (mux : Multiplexer) (number : Nat) :
    (∀ port err, (mux.createServer number port).1 = .error err →
      mux.LeavesNoTrace (mux.createServer number port).2) ∧
    (∀ key err, (mux.createClient number key).1 = .error err →
      mux.LeavesNoTrace (mux.createClient number key).2 ∧
        ∀ shortage, mux.createClient number key shortage = mux.createClient number key) ∧
    (mux.AsksAtHand number → ∀ err, (mux.createServer number Port.anonymous).1 = .error err →
      (mux.createServer number Port.anonymous).2.snapshots = mux.snapshots) ∧
    ∀ factory assigner looked port ready err, mux.factories.get? number = some factory →
      mux.assignerOf number = (.ok assigner, looked) →
      looked.newPort assigner = (.ok port, ready) →
      (factory.bindFile ready.host port).1 = .error err →
      (mux.createServer number Port.anonymous).1 = .error err ∧
        (mux.createServer number Port.anonymous).2.returned = (assigner, port) :: mux.returned :=
  ⟨fun _ _ => createServer_leavesNoTrace, fun _ _ => createClient_leavesNoTrace,
    fun atHand _ => snapshots_createServer atHand,
    fun _ _ _ _ _ _ => createServer_of_unbound⟩

/-- Next to two listeners and a client of one file, a server that cannot be bound and a client whose
peer cannot be told, and elsewhere a server for a port that its assigner does not take back. -/
theorem creations_in_vain_among_open :
    let key : HostAndPort := ⟨"localhost", 100005⟩
    let refusal := Action.changeTransport 0 { Transport.plain with
      bindFailure := some .closed, credentialsFailure := some .closed }
    let mux := blank.after [.makePool, .makeAssigner (.pooled 0),
      .makeFactoryAt [Path.separator, 97] Port.plainFile,
      .createServer 0 100005, .createServer 0 Port.anonymous, .createClient 0 key, refusal]
    let stubborn := blank.after
      [.makeAssigner (.scripted [110000] fun _ => some (.unsupported "return")), .makeRootFactory,
        refusal]
    ((mux.createServer 0 Port.anonymous).1 = .error .closed ∧
      mux.LeavesNoTrace (mux.createServer 0 Port.anonymous).2 ∧
      mux.snapshots 0 = some (.ok [110000]) ∧
      (mux.createServer 0 Port.anonymous).2.snapshots = mux.snapshots) ∧
    ((mux.createClient 0 key).1 = .error .closed ∧
      mux.LeavesNoTrace (mux.createClient 0 key).2) ∧
    ((stubborn.newPort 0).2.returnPort 0 110000).1 = .error (.unsupported "return") ∧
      (stubborn.createServer 0 Port.anonymous).1 = .error .closed := by
  intro key refusal mux stubborn
  obtain ⟨servers, clients, atHand, -⟩ := creations_in_vain mux 0
  obtain ⟨-, -, -, unbound⟩ := creations_in_vain stubborn 0
  have failed : (mux.createServer 0 Port.anonymous).1 = .error .closed := by rfl
  have unmet : (mux.createClient 0 key).1 = .error .closed := by rfl
  have pooled : mux.AsksAtHand 0 := by
    have asked : (mux.assignerOf 0).1 = .ok 0 := by rfl
    have there : (mux.assignerOf 0).2.assigners.get? 0 = some (.pooled 0) := by rfl
    intro assigner path same remote
    cases asked.symm.trans same
    cases there.symm.trans remote
  refine ⟨⟨failed, servers _ _ failed, rfl, atHand pooled _ failed⟩,
    ⟨unmet, (clients _ _ unmet).1⟩, rfl, ?_⟩
  exact (unbound _ 0 _ 110000 _ .closed rfl rfl rfl rfl).1

end Multiplexer

end SocketMux
