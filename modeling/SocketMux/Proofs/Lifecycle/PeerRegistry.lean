import SocketMux.Proofs.Lifecycle.Contacts
import SocketMux.Proofs.Lifecycle.FactoryClose

/-!
# The peers that factories remember

A factory remembers, for each host and port, the credentials of the client that it made
there last, as long as that client and all others that it kept company with are open: the
close of any of them forgets the entry they share. `Multiplexer.ListsPeers` is this
invariant, with the list of clients that a closing factory has already forgotten. Every run
keeps it (`Run.listsPeers`).
-/

namespace SocketMux

/-- A reading of a row that does not see a change is as before. -/
theorem Table.map_get?_modify {α β : Type} (table : Table α) (number other : Nat)
    {change : α → α} (reading : α → β) (unseen : ∀ row, reading (change row) = reading row) :
    ((table.modify number change).get? other).map reading = (table.get? other).map reading := by
  rw [get?_modify]
  split
  · rw [Option.map_map, show reading ∘ change = reading from funext unseen]
  · rfl

/-- What is read of a row is still read of it after another row was added. -/
theorem Table.map_get?_add {α β : Type} {table : Table α} (row : α) {number : Nat}
    {reading : α → β} {value : β} (read : (table.get? number).map reading = some value) :
    ((table.add row).2.get? number).map reading = some value := by
  obtain ⟨former, found, rfl⟩ := Option.map_eq_some_iff.mp read
  have bounded : number < table.size := (List.getElem?_eq_some_iff.mp found).1
  rw [get?_add_of_lt table row bounded, found]
  rfl

/-- The factory of a client and the host and port that it was made for. -/
def MuxClient.place (client : MuxClient) : Nat × HostAndPort := (client.factory, client.key)

namespace Multiplexer

/-- The entry that a factory should have for a host and port. -/
def PeerListed (contacts : List Contact) (isOpen : Nat → Bool) (forgotten : List Nat)
    (factory : Nat) (entry : HostAndPort × PeerCredentials) : Prop :=
  ∃ contact, lastContact? contacts factory entry.1 = some contact ∧ contact.client.isSome ∧
    contact.credentials = entry.2 ∧
    ∀ party ∈ contact.parties, isOpen party ∧ party ∉ forgotten

/-- Factories remember the peers of their last contacts whose parties are all open, but for
those that are forgotten already. -/
structure ListsPeers (mux : Multiplexer) (contacts : List Contact) (forgotten : List Nat) :
    Prop where
  makers : ∀ contact ∈ contacts, contact.factory < mux.factories.size
  /-- All parties of a contact are clients of its factory for its key. -/
  parties : ∀ contact ∈ contacts, ∀ party ∈ contact.parties,
    (mux.clients.get? party).map MuxClient.place = some (contact.factory, contact.key)
  /-- The client of a contact has the credentials of the contact. -/
  credentials : ∀ contact ∈ contacts, ∀ client ∈ contact.client,
    (mux.clients.get? client).map MuxClient.credentials = some contact.credentials
  /-- Every open client takes part in the last contact of its factory for its key. -/
  latest : ∀ client row, mux.clients.get? client = some row → row.isClosed = false →
    ∃ contact, lastContact? contacts row.factory row.key = some contact ∧
      client ∈ contact.parties
  lists : Lists Factory.peers mux.factories (PeerListed contacts mux.hasOpenClient forgotten)

namespace ListsPeers

variable {mux : Multiplexer} {contacts : List Contact} {forgotten others : List Nat}

/-- The parties of the last contact for a key are clients of the factory for the key. -/
theorem place_of_party (lists : mux.ListsPeers contacts forgotten) {factory : Nat}
    {key : HostAndPort} {contact : Contact}
    (last : lastContact? contacts factory key = some contact) {party : Nat}
    (member : party ∈ contact.parties) :
    (mux.clients.get? party).map MuxClient.place = some (factory, key) := by
  obtain ⟨listed, rfl, rfl⟩ := mem_of_lastContact? last
  exact lists.parties contact listed party member

/-- Whatever leaves the clients and the entries alone keeps the lists. -/
theorem same (lists : mux.ListsPeers contacts forgotten) {after : Multiplexer}
    (clients : after.clients = mux.clients)
    (entries : SameEntries Factory.peers mux.factories after.factories) :
    after.ListsPeers contacts forgotten := by
  have isOpen : after.hasOpenClient = mux.hasOpenClient := by
    unfold hasOpenClient
    rw [clients]
  constructor
  case makers =>
    exact fun contact member => Nat.lt_of_lt_of_le (lists.makers contact member) entries.size
  case parties => rw [clients]; exact lists.parties
  case credentials => rw [clients]; exact lists.credentials
  case latest => rw [clients]; exact lists.latest
  case lists =>
    rw [isOpen]
    refine lists.lists.same entries ?_ fun _ _ => .rfl
    rintro number entry ⟨contact, last, -⟩
    obtain ⟨listed, rfl, -⟩ := mem_of_lastContact? last
    exact lists.makers contact listed

/-- A change that leaves the entries of a factory alone. -/
theorem modifyFactory (lists : mux.ListsPeers contacts forgotten) (number : Nat)
    (change : Factory → Factory) (kept : ∀ factory, (change factory).peers = factory.peers) :
    (mux.modifyFactory number change).ListsPeers contacts forgotten :=
  lists.same rfl (.of_modify _ _ _ fun factory => .of_eq (kept factory))

/-- A client that is not there or already closed need not be forgotten. -/
theorem unchanged (lists : mux.ListsPeers contacts forgotten) {number : Nat}
    (shut : ∀ client, mux.clients.get? number = some client → client.isClosed = true)
    (apart : ∀ other, other ≠ number → (other ∈ forgotten ↔ other ∈ others)) :
    mux.ListsPeers contacts others := by
  have closed : mux.hasOpenClient number = false := by
    unfold hasOpenClient
    cases found : mux.clients.get? number with
    | none => rfl
    | some client => simp [shut client found]
  have party : ∀ party, (mux.hasOpenClient party ∧ party ∉ forgotten) ↔
      (mux.hasOpenClient party ∧ party ∉ others) := by
    intro party
    by_cases asked : party = number
    · simp [asked, closed]
    · rw [apart party asked]
  refine { lists with lists := lists.lists.congr fun factory entry => ?_ }
  simp only [PeerListed, party]

/-- A close of a client that the factory has forgotten, or of any other one. -/
theorem closeClient (lists : mux.ListsPeers contacts forgotten) (number : Nat)
    (apart : ∀ other, other ≠ number → (other ∈ forgotten ↔ other ∈ others)) :
    (mux.closeClient number).ListsPeers contacts others := by
  obtain ⟨shut, unchanged⟩ | ⟨client, found, isOpen, after⟩ := mux.closeClient_cases number
  · rw [unchanged]
    exact lists.unchanged shut apart
  have nowOpen : hasOpenClient { mux with
      clients := mux.clients.modify number MuxClient.closed } =
        fun other => mux.hasOpenClient other && number != other :=
    funext (mux.hasOpenClient_closed number)
  have placed : ∀ other, ((mux.clients.modify number MuxClient.closed).get? other).map
      MuxClient.place = (mux.clients.get? other).map MuxClient.place :=
    fun other => mux.clients.map_get?_modify number other _ fun _ => rfl
  rw [after]
  constructor
  case makers =>
    intro contact member
    rw [Table.size_modify]
    exact lists.makers contact member
  case parties =>
    intro contact member party takes
    exact (placed party).trans (lists.parties contact member party takes)
  case credentials =>
    intro contact member made has
    have kept : ((mux.clients.modify number MuxClient.closed).get? made).map
        MuxClient.credentials = (mux.clients.get? made).map MuxClient.credentials :=
      mux.clients.map_get?_modify number made _ fun _ => rfl
    exact kept.trans (lists.credentials contact member made has)
  case latest =>
    intro other row present shut
    rw [Table.get?_modify] at present
    split at present
    · obtain ⟨former, -, rfl⟩ := Option.map_eq_some_iff.mp present
      cases shut
    · exact lists.latest other row present shut
  case lists =>
    unfold hasOpenClient at nowOpen ⊢
    rw [nowOpen]
    refine lists.lists.take client.factory client.key (fun _ => rfl) ?_ ?_
    · rintro value ⟨contact, last, -, -, allOpen⟩
      obtain ⟨known, last_known, takes⟩ := lists.latest number client found isOpen
      cases last.symm.trans last_known
      simpa using (allOpen number takes).1
    · intro factory entry elsewhere
      -- The closed client takes part in no contact of another factory or for another key.
      have party : ∀ {contact}, lastContact? contacts factory entry.1 = some contact →
          ∀ party ∈ contact.parties,
            ((mux.clients.get? party).any (fun client => !client.isClosed) ∧
              party ∉ forgotten ↔
            ((mux.clients.get? party).any (fun client => !client.isClosed) && number != party) ∧
              party ∉ others) := by
        intro contact last party takes
        have differs : party ≠ number := by
          rintro rfl
          have place := lists.place_of_party last takes
          rw [found] at place
          obtain ⟨rfl, same⟩ := Prod.mk.inj (Option.some.inj place)
          exact elsewhere ⟨rfl, same.symm⟩
        rw [apart party differs]
        simp [Ne.symm differs]
      refine exists_congr fun contact => and_congr_right fun last => ?_
      refine and_congr_right fun _ => and_congr_right fun _ => ?_
      exact forall₂_congr fun member takes => party last member takes

/-- Closing the forgotten clients in turn leaves nothing forgotten. -/
theorem closeClients {clients : List Nat} (lists : mux.ListsPeers contacts clients) :
    (mux.closeClients clients).ListsPeers contacts [] := by
  induction clients generalizing mux with
  | nil => exact lists
  | cons client rest inductionHypothesis =>
    refine inductionHypothesis (lists.closeClient client fun other differs => ?_)
    simp [differs]

theorem closeListener (lists : mux.ListsPeers contacts forgotten) (number : Nat) :
    (mux.closeListener number).2.ListsPeers contacts forgotten := by
  obtain ⟨-, unchanged⟩ | ⟨listener, pools, assigners, -, -, after⟩ :=
    mux.closeListener_cases number
  · rw [unchanged]
    exact lists
  · rw [after]
    exact lists.same rfl (mux.factoriesWithout_entries number listener fun _ _ => rfl)

theorem closeListeners (lists : mux.ListsPeers contacts forgotten) (listeners : List Nat) :
    (mux.closeListeners listeners).2.ListsPeers contacts forgotten := by
  induction listeners generalizing mux with
  | nil => exact lists
  | cons listener rest inductionHypothesis =>
    exact inductionHypothesis (lists.closeListener listener)

theorem withdraw (lists : mux.ListsPeers contacts forgotten) (number : Nat) :
    (mux.withdraw number).ListsPeers contacts forgotten := by
  obtain ⟨coordinators, after⟩ := mux.withdraw_eq number
  rw [after]
  exact lists.same rfl (.of_modify _ _ _ fun _ => .refl _)

/-- A factory that forgets its peers has all its open clients in the list. -/
theorem forgetPeers (lists : mux.ListsPeers contacts []) {made : List (Nat × Nat)}
    (clients : mux.ListsClients made []) {number : Nat} {factory : Factory}
    (found : mux.factories.get? number = some factory) (change : Factory → Factory)
    (emptied : ∀ factory, (change factory).peers = []) :
    (mux.modifyFactory number change).ListsPeers contacts factory.clients := by
  have members := (clients.lists number factory found).2
  have own : ∀ client ∈ factory.clients, ∀ place,
      (mux.clients.get? client).map MuxClient.place = some place → place.1 = number := by
    intro client listed place placed
    obtain ⟨row, row_found, row_factory⟩ := clients.client_of_made ((members client).mp listed).1
    rw [row_found] at placed
    obtain rfl := Option.some.inj placed
    exact row_factory
  refine { lists with makers := ?_, lists := lists.lists.forget number emptied ?_ ?_ }
  · intro contact member
    unfold Multiplexer.modifyFactory
    rw [Table.size_modify]
    exact lists.makers contact member
  · rintro entry ⟨contact, last, made_one, -, allOpen⟩
    obtain ⟨client, made_as⟩ := Option.isSome_iff_exists.mp made_one
    have takes : client ∈ contact.parties := by simp [Contact.parties, made_as]
    obtain ⟨isOpen, remembered⟩ := allOpen client takes
    have place := lists.place_of_party last takes
    obtain ⟨row, row_found, placed⟩ := Option.map_eq_some_iff.mp place
    have origin : (number, client) ∈ made := by
      rw [clients.records, List.mem_reverse]
      exact mem_clientOrigins.mpr ⟨row, row_found, congrArg Prod.fst placed⟩
    exact remembered ((members client).mpr ⟨origin, isOpen, List.not_mem_nil⟩)
  · intro other elsewhere entry
    refine exists_congr fun contact => and_congr_right fun last => ?_
    refine and_congr_right fun _ => and_congr_right fun _ => ?_
    refine forall₂_congr fun party takes => and_congr_right fun _ => ?_
    refine iff_of_true List.not_mem_nil fun listed => ?_
    exact elsewhere (own party listed _ (lists.place_of_party last takes))

theorem closeFactory (lists : mux.ListsPeers contacts []) {made : List (Nat × Nat)}
    (clients : mux.ListsClients made []) (number : Nat) :
    (mux.closeFactory number).2.ListsPeers contacts [] := by
  cases found : mux.factories.get? number with
  | none =>
    simp only [Multiplexer.closeFactory, found]
    exact lists
  | some factory =>
    simp only [Multiplexer.closeFactory, found, closeFactoryIn]
    have forgotten := lists.forgetPeers clients found
      (fun state => { state with credentials := .empty, authority := none, servers := [] })
      fun _ => rfl
    have serversClosed := forgotten.closeListeners (factory.servers.map Prod.snd)
    -- The clients are those that were there when the credentials were forgotten.
    have still := closeListeners_get? (modifyFactory_get? found fun state =>
      { state with credentials := .empty, authority := none, servers := [] }) rfl
      (factory.servers.map Prod.snd)
    rw [still]
    have unregistered := serversClosed.modifyFactory number
      (fun state => { state with clients := [] }) fun _ => rfl
    exact unregistered.closeClients.withdraw number

/-- Every open client takes part in a new contact or in the last one for another key. -/
theorem latest_cons (lists : mux.ListsPeers contacts forgotten) {contact : Contact}
    (company : contact.company = mux.openClientsFor contact.factory contact.key)
    {client : Nat} {row : MuxClient} (found : mux.clients.get? client = some row)
    (isOpen : row.isClosed = false) :
    ∃ last, lastContact? (contact :: contacts) row.factory row.key = some last ∧
      client ∈ last.parties := by
  rw [lastContact?_cons]
  split
  · next concerned =>
    refine ⟨contact, rfl, List.mem_append_right _ ?_⟩
    rw [company, concerned.1, concerned.2]
    exact mem_openClientsFor.mpr ⟨row, found, rfl, rfl, isOpen⟩
  · exact lists.latest client row found isOpen

/-- Open clients for a key are clients of the factory for the key. -/
theorem place_of_company {number : Nat} {key : HostAndPort} {client : Nat}
    (member : client ∈ mux.openClientsFor number key) :
    (mux.clients.get? client).map MuxClient.place = some (number, key) := by
  obtain ⟨row, found, rfl, rfl, -⟩ := mem_openClientsFor.mp member
  rw [found]
  rfl

/-- A factory remembers the peer of a client that it registers. -/
theorem registered (lists : mux.ListsPeers contacts []) {number : Nat} {key : HostAndPort}
    {credentials : PeerCredentials} (known : number < mux.factories.size) (host : Host)
    (file : Path) (connection : Nat) :
    ListsPeers
      { mux with
        host
        clients := (mux.clients.add ⟨number, key, credentials, file, connection, false⟩).2
        factories := mux.factories.modify number fun factory =>
          factory.registerClient mux.clients.size key credentials }
      (⟨number, key, credentials, mux.openClientsFor number key, some mux.clients.size⟩ ::
        contacts) [] := by
  let row : MuxClient := ⟨number, key, credentials, file, connection, false⟩
  have nowOpen := funext (mux.hasOpenClient_add row rfl)
  constructor
  case makers =>
    rw [Table.size_modify]
    exact List.forall_mem_cons.mpr ⟨known, lists.makers⟩
  case parties =>
    refine List.forall_mem_cons.mpr ⟨fun party takes => ?_, fun contact member party takes =>
      Table.map_get?_add row (lists.parties contact member party takes)⟩
    obtain rfl | member := List.mem_cons.mp takes
    · rw [Table.get?_add_size]
      rfl
    · exact Table.map_get?_add row (place_of_company member)
  case credentials =>
    refine List.forall_mem_cons.mpr ⟨fun client made => ?_, fun contact member client made =>
      Table.map_get?_add row (lists.credentials contact member client made)⟩
    obtain rfl := Option.some.inj made
    rw [Table.get?_add_size]
    rfl
  case latest =>
    intro client other found isOpen
    rw [Table.get?_add] at found
    split at found
    · next last =>
      obtain rfl := Option.some.inj found
      rw [lastContact?_cons, if_pos ⟨rfl, rfl⟩]
      exact ⟨_, rfl, last ▸ List.mem_cons_self⟩
    · exact lists.latest_cons rfl found isOpen
  case lists =>
    unfold hasOpenClient at nowOpen ⊢
    rw [nowOpen]
    refine lists.lists.put number key credentials (fun _ => rfl) (fun value => ?_) ?_
    · simp only [PeerListed, lastContact?_cons, and_self, if_true]
      constructor
      · rintro ⟨contact, last, -, same, -⟩
        obtain rfl := Option.some.inj last
        exact same.symm
      · rintro rfl
        refine ⟨_, rfl, rfl, rfl, fun party takes => ⟨?_, List.not_mem_nil⟩⟩
        obtain rfl | member := List.mem_cons.mp takes
        · simp
        · obtain ⟨other, found, -, -, isOpen⟩ := mem_openClientsFor.mp member
          simp [found, isOpen]
    · intro factory entry elsewhere
      have others : ¬(number = factory ∧ key = entry.1) :=
        fun same => elsewhere ⟨same.1.symm, same.2.symm⟩
      simp only [PeerListed, lastContact?_cons, if_neg others]
      refine exists_congr fun contact => and_congr_right fun last => ?_
      refine and_congr_right fun _ => and_congr_right fun _ => ?_
      refine forall₂_congr fun party takes => and_congr_left fun _ => ?_
      -- The parties of earlier contacts are not new.
      have placed := lists.place_of_party last takes
      obtain ⟨former, found, -⟩ := Option.map_eq_some_iff.mp placed
      have bounded : party < mux.clients.size := (List.getElem?_eq_some_iff.mp found).1
      simp [hasOpenClient, Nat.ne_of_lt bounded]

/-- A factory that cannot make a client remembers nothing for its key. -/
theorem forgot (lists : mux.ListsPeers contacts []) {number : Nat} {key : HostAndPort}
    {credentials : PeerCredentials} (known : number < mux.factories.size) (host : Host) :
    ListsPeers
      { mux with
        host
        factories := mux.factories.modify number fun factory =>
          factory.forgetPeer key credentials }
      (⟨number, key, credentials, mux.openClientsFor number key, none⟩ :: contacts) [] := by
  constructor
  case makers =>
    rw [Table.size_modify]
    exact List.forall_mem_cons.mpr ⟨known, lists.makers⟩
  case parties =>
    exact List.forall_mem_cons.mpr ⟨fun _ takes => place_of_company takes, lists.parties⟩
  case credentials =>
    refine List.forall_mem_cons.mpr ⟨?_, lists.credentials⟩
    rintro client ⟨⟩
  case latest => exact fun _ _ found isOpen => lists.latest_cons rfl found isOpen
  case lists =>
    refine lists.lists.take number key (fun factory => Keyed.erase_insert _ _ _) ?_ ?_
    · rintro value ⟨contact, last, made, -⟩
      rw [lastContact?_cons, if_pos ⟨rfl, rfl⟩] at last
      obtain rfl := Option.some.inj last
      cases made
    · intro factory entry elsewhere
      have others : ¬(number = factory ∧ key = entry.1) :=
        fun same => elsewhere ⟨same.1.symm, same.2.symm⟩
      simp only [PeerListed, lastContact?_cons, if_neg others]
      exact .rfl

/-- Whatever a call for a client comes to is remembered. -/
theorem contacted (lists : mux.ListsPeers contacts []) {number : Nat} {key : HostAndPort}
    {contact : Option Contact} {after : Multiplexer}
    (connects : Connects mux number key contact after) :
    after.ListsPeers (contact.toList ++ contacts) [] := by
  cases connects with
  | nobody => exact lists.same rfl (.refl _)
  | registered reported => exact lists.registered (lt_size_of_reported? reported) _ _ _
  | forgotten reported => exact lists.forgot (lt_size_of_reported? reported) _

end ListsPeers

/-- A call for a server leaves the peers alone. -/
theorem Creates.listsPeers {mux after : Multiplexer} {number : Nat} {factory : Factory}
    {creation : Option Creation} {contacts : List Contact}
    (creates : Creates mux number factory creation after) (lists : mux.ListsPeers contacts []) :
    after.ListsPeers contacts [] := by
  have remembered : ∀ remember, Remembers remember →
      SameEntries Factory.peers mux.factories (mux.factories.modify number remember) :=
    fun _ remembers => .of_remembers _ _ remembers fun _ _ => rfl
  have prepares : ∀ {port bound : Port} {issuer : Option Nat} {ready : Multiplexer},
      mux.prepare number factory port = (some (issuer, bound), ready) →
        ready.ListsPeers contacts [] := by
    intro port bound issuer ready prepared
    obtain ⟨pools, assigners, remember, remembers, rfl⟩ := ready_eq prepared
    exact lists.same rfl (remembered _ remembers)
  cases creates with
  | nothing remembers => exact lists.same rfl (remembered _ remembers)
  | @failed port bound issuer ready err host prepared unbound =>
    obtain ⟨pools, assigners, refunded⟩ := refund_eq { ready with host } issuer bound
    rw [refunded]
    exact (prepares prepared).same rfl (.refl _)
  | @made port bound issuer ready socket host prepared bind =>
    refine (prepares prepared).same rfl ?_
    unfold enlist
    simp only
    split
    · exact .of_modify _ _ _ fun _ => .refl _
    · exact .refl _

/-- Every action keeps the lists. -/
theorem ListsPeers.perform {mux : Multiplexer} {contacts : List Contact}
    {made : List (Nat × Nat)} (lists : mux.ListsPeers contacts [])
    (clients : mux.ListsClients made []) (action : Action) :
    (mux.perform action).ListsPeers
      ((Moment.contact? ⟨mux, action⟩).toList ++ contacts) [] := by
  by_cases quiet : action.isQuiet = true
  · obtain ⟨_, _, _, _, _, _, _, _, registries, after⟩ := mux.perform_quiet quiet
    rw [after, Moment.contact?_of_quiet mux quiet]
    exact lists.same rfl registries.peers
  cases action with
  | createServer number port =>
    cases found : mux.factories.get? number with
    | none =>
      simp only [Multiplexer.perform, createServer, found]
      exact lists
    | some factory => exact (createServer_creates port found).listsPeers lists
  | createClient number key => exact lists.contacted (mux.createClient_connects number key none)
  | createClientShort number key shortage =>
    exact lists.contacted (mux.createClient_connects number key (some shortage))
  | closeListener number => exact lists.closeListener number
  | dropListener number hasTasks =>
    obtain ⟨-, unchanged⟩ | ⟨listener, -, -, after⟩ := mux.dropListener_cases number hasTasks
    · simp only [Multiplexer.perform, unchanged]
      exact lists
    · simp only [Multiplexer.perform, after]
      exact lists.same rfl (mux.factoriesWithout_entries number listener fun _ _ => rfl)
  | closeClient number => exact lists.closeClient number fun _ _ => .rfl
  | dropClient number =>
    obtain ⟨host, -, after⟩ := mux.dropClient_eq number
    simp only [Multiplexer.perform, after]
    exact (lists.closeClient number fun _ _ => .rfl).same rfl (.refl _)
  | closeFactory number => exact lists.closeFactory clients number
  | dropFactory number =>
    exact (lists.withdraw number).modifyFactory number
      (fun state => { state with isHeld := false }) fun _ => rfl
  | shutDownAll coordinator =>
    have both := shutDownAll_induction
      (motive := fun mux => mux.ListsClients made [] ∧ mux.ListsPeers contacts [])
      (fun number both => ⟨both.1.closeFactory number, both.2.closeFactory both.1 number⟩)
      (fun _ both => ⟨both.1.same rfl (.refl _), both.2.same rfl (.refl _)⟩)
      ⟨clients, lists⟩ coordinator
    exact both.2
  | returnOne index =>
    obtain unchanged | ⟨entry, pools, assigners, -, after⟩ := mux.returnOne_cases index
    · simp only [Multiplexer.perform, unchanged]
      exact lists
    · simp only [Multiplexer.perform, after]
      exact lists.same rfl (.refl _)
  | _ => exact absurd rfl quiet

/-- A factory remembers for each host and port what it should. -/
theorem ListsPeers.get?_iff {mux : Multiplexer} {contacts : List Contact}
    (lists : mux.ListsPeers contacts []) {number : Nat} {factory : Factory}
    (found : mux.factories.get? number = some factory) {key : HostAndPort}
    {credentials : PeerCredentials} :
    factory.credentials.get? key = some credentials ↔
      ∃ contact, lastContact? contacts number key = some contact ∧ contact.client.isSome ∧
        contact.credentials = credentials ∧
        ∀ party ∈ contact.parties, mux.hasOpenClient party := by
  obtain ⟨nodup, members⟩ := lists.lists number factory found
  -- Entries under one key belong to one contact.
  have distinct : Keyed.Distinct factory.peers := by
    refine List.pairwise_map.mpr (nodup.imp_of_mem ?_)
    intro left right leftListed rightListed differs sameKey
    obtain ⟨contact, leftLast, -, leftCredentials, -⟩ := (members left).mp leftListed
    obtain ⟨other, rightLast, -, rightCredentials, -⟩ := (members right).mp rightListed
    rw [sameKey, rightLast] at leftLast
    obtain rfl := Option.some.inj leftLast
    exact differs (Prod.ext sameKey (leftCredentials.symm.trans rightCredentials))
  refine (Keyed.get?_eq_some_iff distinct).trans ((members (key, credentials)).trans ?_)
  simp [PeerListed]

end Multiplexer

/-- In every run factories remember the peers that they should. -/
theorem Run.listsPeers {host : Host} {own : PeerCredentials} {history : History}
    {mux : Multiplexer} (run : Run (.initial host own) history mux) :
    mux.ListsPeers history.contacts [] := by
  induction run with
  | nothing =>
    refine ⟨nofun, nofun, nofun, fun client row found => ?_, fun number factory found => ?_⟩
    · simp [Multiplexer.initial, Table.get?, Table.empty] at found
    · simp [Multiplexer.initial, Table.get?, Table.empty] at found
  | more earlier action inductionHypothesis =>
    rw [History.contacts_cons]
    exact inductionHypothesis.perform earlier.listsClients action

end SocketMux
