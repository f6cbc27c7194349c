import SocketMux.Proofs.Lifecycle.ClientRegistry
import SocketMux.Proofs.OpenPorts

/-!
# What a factory reports of its registries

The ports, the local servers and the number of clients that a factory reports are settled
by its history and by which endpoints are open (`Run.reported`): a port is reported exactly
as long as the listener that was registered last for it is open, so the end of a listener
that was replaced is never seen.
-/

namespace SocketMux

namespace Factory

/-- The reported ports are in strictly ascending order if each is listed once. -/
theorem serverPorts_ascending {factory : Factory} (distinct : Keyed.Distinct factory.servers) :
    factory.serverPorts.Pairwise (· < ·) := by
  have ascending := Port.ascending_mergeSort (factory.servers.map Prod.fst)
  have nodup : factory.serverPorts.Nodup :=
    (List.mergeSort_perm (factory.servers.map Prod.fst) _).nodup_iff.mpr distinct
  exact (ascending.and nodup).imp fun both => Int32.lt_of_le_of_ne both.1 both.2

theorem mem_serverPorts {factory : Factory} {port : Port} :
    port ∈ factory.serverPorts ↔ ∃ listener, (port, listener) ∈ factory.servers := by
  simp [serverPorts]

theorem isLocalServer_iff {factory : Factory} {port : Port} :
    factory.isLocalServer port = true ↔
      Port.multiplexedBase ≤ port ∧ port ∈ factory.serverPorts := by
  simp [isLocalServer, Port.isMultiplexed, mem_serverPorts]

end Factory

namespace Multiplexer

/-- A factory lists one listener at most for each port. -/
theorem ListsServers.distinct {mux : Multiplexer} {creations : List Creation}
    {forgotten : List Nat} (lists : mux.ListsServers creations forgotten) {number : Nat}
    {factory : Factory} (found : mux.factories.get? number = some factory) :
    Keyed.Distinct factory.servers := by
  obtain ⟨nodup, members⟩ := lists.lists number factory found
  refine List.pairwise_map.mpr (nodup.imp_of_mem ?_)
  intro left right leftListed rightListed differs samePort
  have leftLast := ((members left).mp leftListed).1
  have rightLast := ((members right).mp rightListed).1
  rw [samePort, rightLast] at leftLast
  exact differs (Prod.ext samePort (Option.some.inj leftLast).symm)

/-- A factory lists as many clients as it made that are open. -/
theorem ListsClients.count {mux : Multiplexer} {made : List (Nat × Nat)}
    (lists : mux.ListsClients made []) {number : Nat} {factory : Factory}
    (found : mux.factories.get? number = some factory) :
    factory.clientCount =
      made.countP fun entry => entry.1 == number && mux.hasOpenClient entry.2 := by
  obtain ⟨nodup, members⟩ := lists.lists number factory found
  let isListed := fun entry : Nat × Nat => entry.1 == number && mux.hasOpenClient entry.2
  have once : (made.map Prod.snd).Nodup := by
    rw [lists.records, List.map_reverse]
    exact List.pairwise_reverse.mpr (mux.clientOrigins_numbers.imp Ne.symm)
  have demanded : ((made.filter isListed).map Prod.snd).Nodup :=
    once.sublist (List.filter_sublist.map Prod.snd)
  have perm : factory.clients.Perm ((made.filter isListed).map Prod.snd) := by
    refine (List.perm_ext_iff_of_nodup nodup demanded).mpr fun client => ?_
    rw [members]
    simp [ClientListed, isListed]
  rw [Factory.clientCount, perm.length_eq, List.length_map, List.countP_eq_length_filter]

end Multiplexer

/-- In every state of a run a factory reports, in ascending order, the ports for which the
listener that it registered last is open, and the number of its open clients. Each port is
listed with that very listener, and nothing closed is listed. -/
theorem Run.reported {host : Host} {own : PeerCredentials} {history : History}
    {mux : Multiplexer} (run : Run (.initial host own) history mux) {number : Nat}
    {factory : Factory} (found : mux.factories.get? number = some factory) :
    factory.serverPorts.Pairwise (· < ·) ∧
      (∀ port, port ∈ factory.serverPorts ↔
        ∃ listener, lastRegistered? history.creations number port = some listener ∧
          mux.hasOpen listener) ∧
      (∀ port, factory.isLocalServer port = true ↔
        Port.multiplexedBase ≤ port ∧
          ∃ listener, lastRegistered? history.creations number port = some listener ∧
            mux.hasOpen listener) ∧
      (factory.clientCount = history.madeClients.countP fun made =>
        made.1 == number && mux.hasOpenClient made.2) ∧
      (∀ port listener, (port, listener) ∈ factory.servers ↔
        lastRegistered? history.creations number port = some listener ∧
          mux.hasOpen listener) ∧
      ∀ client ∈ factory.clients, mux.hasOpenClient client := by
  have servers := run.listsServers
  have clients := run.listsClients
  have listed : ∀ port listener, (port, listener) ∈ factory.servers ↔
      lastRegistered? history.creations number port = some listener ∧ mux.hasOpen listener := by
    intro port listener
    rw [(servers.lists number factory found).2]
    simp [Multiplexer.ServerListed]
  have ports : ∀ port, port ∈ factory.serverPorts ↔
      ∃ listener, lastRegistered? history.creations number port = some listener ∧
        mux.hasOpen listener := by
    intro port
    simp only [Factory.mem_serverPorts, listed]
  refine ⟨Factory.serverPorts_ascending (servers.distinct found), ports, fun port => ?_,
    clients.count found, listed, fun client member => ?_⟩
  · rw [Factory.isLocalServer_iff, ports]
  · exact (((clients.lists number factory found).2 client).mp member).2.1

/-- Of two listeners for one port the second one is reported, also after the first one was
closed; the clients are counted without the closed one. -/
theorem Run.reported_successor :
    let key : HostAndPort := ⟨"localhost", 100005⟩
    let actions := [.makeRootFactory, .createServer 0 100005, .createServer 0 100005,
      .createClient 0 key, .createClient 0 key, .closeListener 0, .closeClient 0]
    let mux := Multiplexer.blank.after actions
    let history := Multiplexer.blank.momentsOf actions []
    ∃ factory, mux.factories.get? 0 = some factory ∧ factory.servers = [(100005, 1)] ∧
      factory.clientCount = 1 ∧
      factory.serverPorts.Pairwise (· < ·) ∧
      (∀ port, port ∈ factory.serverPorts ↔
        ∃ listener, lastRegistered? history.creations 0 port = some listener ∧
          mux.hasOpen listener) ∧
      (∀ port, factory.isLocalServer port = true ↔
        Port.multiplexedBase ≤ port ∧
          ∃ listener, lastRegistered? history.creations 0 port = some listener ∧
            mux.hasOpen listener) ∧
      (factory.clientCount = history.madeClients.countP fun made =>
        made.1 == 0 && mux.hasOpenClient made.2) ∧
      (∀ port listener, (port, listener) ∈ factory.servers ↔
        lastRegistered? history.creations 0 port = some listener ∧ mux.hasOpen listener) ∧
      ∀ client ∈ factory.clients, mux.hasOpenClient client := by
  intro key actions mux history
  have registries : (mux.factories.get? 0).map
      (fun factory => (factory.servers, factory.clientCount)) = some ([(100005, 1)], 1) := by
    decide
  obtain ⟨factory, found, same⟩ := Option.map_eq_some_iff.mp registries
  exact ⟨factory, found, congrArg Prod.fst same, congrArg Prod.snd same,
    (Run.ofActions _ _).reported found⟩

end SocketMux
