import SocketMux.Proofs.Lifecycle.PeerRegistry

/-!
# Whom a factory knows

What a factory answers when it is asked for the peer of a host and port. An answer is
never out of date: it is what the transport reported of the client that was made there last,
and that client is open (`Run.peer_of_lastClient`). An open client may be forgotten, though:
the clients for one host and port share an entry, and the first of them to be closed takes
it away (`Run.peer_of_lastContact`, `Run.peer_of_lastClient_lost`).
-/

namespace SocketMux

/-- As long as the client is open that a factory made last for a host and port, the factory
knows its peer if no contact was made there since, and if all other clients are open, too,
that the factory had for the same host and port when this one was made. If one of them was
closed since, or if descriptors were short at a later contact, the factory knows nobody. -/
theorem Run.peer_of_lastContact {host : Host} {own : PeerCredentials} {history : History}
    {mux : Multiplexer} (run : Run (.initial host own) history mux) {number : Nat}
    {factory : Factory} (found : mux.factories.get? number = some factory) {key : HostAndPort}
    {client : Nat} (made : lastClient? history.contacts number key = some client)
    (isOpen : mux.hasOpenClient client) :
    ∃ row contact, mux.clients.get? client = some row ∧
      lastContact? history.contacts number key = some contact ∧
      factory.credentials.get? key =
        if contact.client = some client ∧ contact.company.all mux.hasOpenClient then
          some row.credentials
        else none := by
  have lists := run.listsPeers
  obtain ⟨row, row_found, -⟩ := (Option.any_eq_true _ _).mp isOpen
  obtain ⟨contact, last⟩ := lastContact?_of_lastClient? made
  refine ⟨row, contact, row_found, last, ?_⟩
  split
  · next known =>
    obtain ⟨latest, companyOpen⟩ := known
    have same := lists.credentials contact (mem_of_lastContact? last).1 client latest
    rw [row_found] at same
    refine (lists.get?_iff found).mpr ⟨contact, last, by simp [latest],
      (Option.some.inj same).symm, fun party takes => ?_⟩
    obtain itself | member := List.mem_append.mp takes
    · obtain rfl : client = party := by simpa [latest, eq_comm] using itself
      exact isOpen
    · exact List.all_eq_true.mp companyOpen party member
  · next unknown =>
    cases answer : factory.credentials.get? key with
    | none => rfl
    | some credentials =>
      obtain ⟨other, other_last, someone, -, allOpen⟩ := (lists.get?_iff found).mp answer
      cases last.symm.trans other_last
      obtain ⟨another, latest⟩ := Option.isSome_iff_exists.mp someone
      -- The client of the last contact is the last client.
      obtain rfl := Option.some.inj (made.symm.trans (lastClient?_of_lastContact? last latest))
      refine absurd ⟨latest, List.all_eq_true.mpr fun party member => ?_⟩ unknown
      exact allOpen party (List.mem_append_right _ member)

/-- Two clients share a host and port, and a third one, for another host, is closed: the
peer of the second one is still known. -/
theorem Run.peer_of_lastContact_shared :
    let key : HostAndPort := ⟨"localhost", 100005⟩
    let actions := [.makeRootFactory, .createServer 0 100005, .createClient 0 key,
      .createClient 0 key, .createClient 0 ⟨"127.0.0.1", 100005⟩, .closeClient 2]
    let mux := Multiplexer.blank.after actions
    let history := Multiplexer.blank.momentsOf actions []
    lastClient? history.contacts 0 key = some 1 ∧ mux.hasOpenClient 1 ∧
      ∃ factory, mux.factories.get? 0 = some factory ∧
        ∃ row contact, mux.clients.get? 1 = some row ∧
          lastContact? history.contacts 0 key = some contact ∧
          factory.credentials.get? key =
            if contact.client = some 1 ∧ contact.company.all mux.hasOpenClient then
              some row.credentials
            else none := by
  intro key actions mux history
  have exists_factory : (mux.factories.get? 0).isSome := by decide
  have made : lastClient? history.contacts 0 key = some 1 := by decide
  have isOpen : mux.hasOpenClient 1 := by decide
  obtain ⟨factory, found⟩ := Option.isSome_iff_exists.mp exists_factory
  exact ⟨made, isOpen, factory, found,
    (Run.ofActions _ actions).peer_of_lastContact found made isOpen⟩

/-- Of two clients for one host and port the first one is closed: nobody is known there any
more, although the second one, which was made last, is open. -/
theorem Run.peer_of_lastClient_lost :
    let key : HostAndPort := ⟨"localhost", 100005⟩
    let actions := [.makeRootFactory, .createServer 0 100005, .createClient 0 key,
      .createClient 0 key, .closeClient 0]
    let mux := Multiplexer.blank.after actions
    let history := Multiplexer.blank.momentsOf actions []
    lastClient? history.contacts 0 key = some 1 ∧ mux.hasOpenClient 1 = true ∧
      (mux.clients.get? 1).map MuxClient.credentials = some ⟨none, 0, 0⟩ ∧
      (mux.factories.get? 0).map (fun factory => factory.credentials.get? key) = some none := by
  decide

/-- Whomever a factory knows for a host and port is the peer of the client that it made last
for exactly this host and port, as its transport reported it when the client was made, and
that client is open. So nobody is known by the credentials of a closed client, unless an
open client of the factory has the same ones. -/
theorem Run.peer_of_lastClient {host : Host} {own : PeerCredentials} {history : History}
    {mux : Multiplexer} (run : Run (.initial host own) history mux) {number : Nat}
    {factory : Factory} (found : mux.factories.get? number = some factory) :
    (∀ key credentials, factory.credentials.get? key = some credentials →
      ∃ client row, lastClient? history.contacts number key = some client ∧
        mux.clients.get? client = some row ∧ row.isClosed = false ∧ row.factory = number ∧
        row.key = key ∧ row.credentials = credentials ∧
        ∃ moment ∈ history, moment.action = .createClient number key ∧
          (moment.state.createClient number key).1 = .ok client ∧
          moment.state.reported? number = some credentials) ∧
    ∀ ended former, mux.clients.get? ended = some former → former.isClosed = true →
      (∀ client row, mux.clients.get? client = some row → row.isClosed = false →
        row.factory = number → row.credentials ≠ former.credentials) →
      ∀ key, factory.credentials.get? key ≠ some former.credentials := by
  have lists := run.listsPeers
  have fresh : ∀ key credentials, factory.credentials.get? key = some credentials →
      ∃ client row, lastClient? history.contacts number key = some client ∧
        mux.clients.get? client = some row ∧ row.isClosed = false ∧ row.factory = number ∧
        row.key = key ∧ row.credentials = credentials ∧
        ∃ moment ∈ history, moment.action = .createClient number key ∧
          (moment.state.createClient number key).1 = .ok client ∧
          moment.state.reported? number = some credentials := by
    intro key credentials answer
    obtain ⟨contact, last, made, rfl, allOpen⟩ := (lists.get?_iff found).mp answer
    obtain ⟨client, made⟩ := Option.isSome_iff_exists.mp made
    have takes : client ∈ contact.parties := by simp [Contact.parties, made]
    obtain ⟨member, rfl, rfl⟩ := mem_of_lastContact? last
    obtain ⟨row, row_found, place⟩ := Option.map_eq_some_iff.mp (lists.place_of_party last takes)
    obtain ⟨row_factory, row_key⟩ := Prod.mk.inj place
    have row_credentials := lists.credentials contact member client made
    rw [row_found] at row_credentials
    have isOpen : row.isClosed = false := by
      simpa [Multiplexer.hasOpenClient, row_found] using allOpen client takes
    obtain ⟨moment, happened, contacted⟩ := List.mem_filterMap.mp member
    exact ⟨client, row, lastClient?_of_lastContact? last made, row_found, isOpen, row_factory,
      row_key, Option.some.inj row_credentials, moment, happened,
      Moment.made_of_contact? contacted made⟩
  refine ⟨fresh, fun ended former _ _ unlike key answer => ?_⟩
  obtain ⟨client, row, -, row_found, isOpen, row_factory, -, same, -⟩ := fresh key _ answer
  exact unlike client row row_found isOpen row_factory same

/-- A client is closed whose peer was reported to be somebody else, and another one is made
for the same host and port: the factory knows the peer of the latter, and nobody by the
credentials of the former. -/
theorem Run.peer_of_lastClient_renewed :
    let key : HostAndPort := ⟨"localhost", 100005⟩
    let stranger : PeerCredentials := ⟨some 7, 1, 1⟩
    let actions := [.makeRootFactory, .createServer 0 100005,
      .changeTransport 0 { Transport.plain with reportedPeer := some stranger },
      .createClient 0 key, .closeClient 0, .changeTransport 0 .plain, .createClient 0 key]
    let mux := Multiplexer.blank.after actions
    let history := Multiplexer.blank.momentsOf actions []
    ∃ factory, mux.factories.get? 0 = some factory ∧
      (∃ client row, lastClient? history.contacts 0 key = some client ∧
        mux.clients.get? client = some row ∧ row.isClosed = false ∧ row.factory = 0 ∧
        row.key = key ∧ row.credentials = ⟨none, 0, 0⟩ ∧
        ∃ moment ∈ history, moment.action = .createClient 0 key ∧
          (moment.state.createClient 0 key).1 = .ok client ∧
          moment.state.reported? 0 = some ⟨none, 0, 0⟩) ∧
      (mux.clients.get? 0).map (fun former => (former.credentials, former.isClosed)) =
        some (stranger, true) ∧
      ∀ key, factory.credentials.get? key ≠ some stranger := by
  intro key stranger actions mux history
  have answer : (mux.factories.get? 0).map (fun factory => factory.credentials.get? key) =
      some (some ⟨none, 0, 0⟩) := by
    decide
  have ended : (mux.clients.get? 0).map (fun former => (former.credentials, former.isClosed)) =
      some (stranger, true) := by
    decide
  have unlike : ∀ row ∈ mux.clients.rows, row.isClosed = false → row.credentials ≠ stranger := by
    decide
  obtain ⟨factory, found, known⟩ := Option.map_eq_some_iff.mp answer
  obtain ⟨former, former_found, same⟩ := Option.map_eq_some_iff.mp ended
  obtain ⟨same_credentials, shut⟩ := Prod.mk.inj same
  obtain ⟨fresh, stale⟩ := (Run.ofActions _ actions).peer_of_lastClient found
  refine ⟨factory, found, fresh key _ known, ended, ?_⟩
  rw [← same_credentials]
  refine stale 0 former former_found shut fun client row row_found isOpen _ => ?_
  rw [same_credentials]
  exact unlike row (List.mem_of_getElem? row_found) isOpen

end SocketMux
