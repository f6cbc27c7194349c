import SocketMux.Proofs.Lifecycle.Quiet

/-!
# Contacts in a history

A `Contact` is what is remembered of one connection that a factory made for a client once
the peer was known: for which host and port, who the transport reported the peer to be,
which clients the factory had open for the same host and port, and the client that was
made. There is none if descriptors were short. `Moment.contact?` reads a contact off the
call for a client, and `Connects` is what such a call comes to.
-/

namespace SocketMux

/-- A connection whose peer was known. -/
structure Contact where
  factory : Nat
  key : HostAndPort
  /-- Who the transport of the factory reported the peer to be. -/
  credentials : PeerCredentials
  /-- The clients that the factory had open for the same host and port. -/
  company : List Nat
  /-- The client, unless descriptors were short. -/
  client : Option Nat
deriving DecidableEq, Repr

namespace Contact

/-- The clients that take part in a contact, all of one factory and for one key. -/
def parties (contact : Contact) : List Nat := contact.client.toList ++ contact.company

/-- Whether a contact was made by a factory for a host and port. -/
def concerns (contact : Contact) (factory : Nat) (key : HostAndPort) : Bool :=
  contact.factory == factory && contact.key == key

theorem concerns_iff {contact : Contact} {factory : Nat} {key : HostAndPort} :
    contact.concerns factory key = true ↔ contact.factory = factory ∧ contact.key = key := by
  simp [concerns]

end Contact

/-- The last contact of a factory for a host and port. -/
def lastContact? (contacts : List Contact) (factory : Nat) (key : HostAndPort) :
    Option Contact :=
  contacts.find? fun contact => contact.concerns factory key

/-- The client that a factory made last for a host and port. -/
def lastClient? (contacts : List Contact) (factory : Nat) (key : HostAndPort) : Option Nat :=
  contacts.findSome? fun contact =>
    if contact.concerns factory key then contact.client else none

/-- A new contact is the last one of its factory for its key. -/
theorem lastContact?_cons (contact : Contact) (contacts : List Contact) (factory : Nat)
    (key : HostAndPort) :
    lastContact? (contact :: contacts) factory key =
      if contact.factory = factory ∧ contact.key = key then some contact
      else lastContact? contacts factory key := by
  simp only [← Contact.concerns_iff]
  unfold lastContact?
  rw [List.find?_cons]
  cases contact.concerns factory key <;> rfl

/-- The last contact was made by the factory for the key. -/
theorem mem_of_lastContact? {contacts : List Contact} {factory : Nat} {key : HostAndPort}
    {contact : Contact} (last : lastContact? contacts factory key = some contact) :
    contact ∈ contacts ∧ contact.factory = factory ∧ contact.key = key := by
  unfold lastContact? at last
  have concerned := List.find?_some last
  exact ⟨List.mem_of_find?_eq_some last, Contact.concerns_iff.mp concerned⟩

/-- A client of the last contact is the last client. -/
theorem lastClient?_of_lastContact? {contacts : List Contact} {factory : Nat}
    {key : HostAndPort} {contact : Contact} {client : Nat}
    (last : lastContact? contacts factory key = some contact)
    (made : contact.client = some client) : lastClient? contacts factory key = some client := by
  unfold lastContact? lastClient? at *
  induction contacts with
  | nil => cases last
  | cons first others inductionHypothesis =>
    rw [List.find?_cons] at last
    rw [List.findSome?_cons]
    cases concerned : first.concerns factory key with
    | true =>
      rw [concerned] at last
      cases last
      simp [made]
    | false =>
      rw [concerned] at last
      simpa using inductionHypothesis last

/-- Where a client was made there is a last contact. -/
theorem lastContact?_of_lastClient? {contacts : List Contact} {factory : Nat}
    {key : HostAndPort} {client : Nat} (last : lastClient? contacts factory key = some client) :
    ∃ contact, lastContact? contacts factory key = some contact := by
  obtain ⟨contact, member, chosen⟩ := List.exists_of_findSome?_eq_some last
  split at chosen
  · next concerned =>
    exact Option.isSome_iff_exists.mp (List.find?_isSome.mpr ⟨contact, member, concerned⟩)
  · cases chosen

namespace Multiplexer

/-- The clients that a factory has open for a host and port. -/
def openClientsFor (mux : Multiplexer) (number : Nat) (key : HostAndPort) : List Nat :=
  mux.clients.numbersWhere fun client =>
    client.factory == number && client.key == key && !client.isClosed

theorem mem_openClientsFor {mux : Multiplexer} {number : Nat} {key : HostAndPort}
    {client : Nat} :
    client ∈ mux.openClientsFor number key ↔
      ∃ row, mux.clients.get? client = some row ∧ row.factory = number ∧ row.key = key ∧
        row.isClosed = false := by
  have bounded : ∀ {row}, mux.clients.get? client = some row → client < mux.clients.size :=
    fun found => (List.getElem?_eq_some_iff.mp found).1
  simp only [openClientsFor, Table.numbersWhere, List.mem_filter, List.mem_range,
    Option.any_eq_true, Bool.and_eq_true, beq_iff_eq, Bool.not_eq_true']
  constructor
  · rintro ⟨-, row, found, ⟨⟨factory, key⟩, isOpen⟩⟩
    exact ⟨row, found, factory, key, isOpen⟩
  · rintro ⟨row, found, factory, key, isOpen⟩
    exact ⟨bounded found, row, found, ⟨⟨factory, key⟩, isOpen⟩⟩

/-- The contact that a call for a client makes, if it meets its peer. -/
def contact? (mux : Multiplexer) (number : Nat) (key : HostAndPort) (shortage : Option Fault) :
    Option Contact :=
  (mux.meet number key).1.toOption.map fun (_, _, credentials) =>
    ⟨number, key, credentials, mux.openClientsFor number key,
      (mux.createClient number key shortage).1.toOption⟩

/-- A contact is made by the factory that is asked, for the key that it is asked for. -/
theorem contact?_eq_some {mux : Multiplexer} {number : Nat} {key : HostAndPort}
    {shortage : Option Fault} {contact : Contact}
    (contacted : mux.contact? number key shortage = some contact) :
    contact.factory = number ∧ contact.key = key ∧
      mux.reported? number = some contact.credentials ∧
      contact.client = (mux.createClient number key shortage).1.toOption := by
  unfold contact? at contacted
  obtain ⟨err, host, -, met⟩ | ⟨file, connection, credentials, host, -, reported, met⟩ :=
    mux.meet_cases number key
  · rw [met] at contacted
    cases contacted
  · rw [met] at contacted
    obtain rfl := Option.some.inj contacted
    exact ⟨rfl, rfl, reported, rfl⟩

/-- While descriptors are short no client is made. -/
theorem createClient_short_fst (mux : Multiplexer) (number : Nat) (key : HostAndPort)
    (fault : Fault) : (mux.createClient number key (some fault)).1.toOption = none := by
  rw [createClient_eq]
  obtain ⟨err, host, -, met⟩ | ⟨file, connection, credentials, host, -, -, met⟩ :=
    mux.meet_cases number key
  · rw [met]
    rfl
  · rw [met]
    rfl

/-- What a call for a client may come to: its peer is not met, or a client is registered,
or the peer is forgotten at once for want of descriptors. -/
inductive Connects (mux : Multiplexer) (number : Nat) (key : HostAndPort) :
    Option Contact → Multiplexer → Prop where
  | nobody {host : Host} : Connects mux number key none { mux with host }
  | registered {credentials : PeerCredentials} {file : Path} {connection : Nat} {host : Host}
      (reported : mux.reported? number = some credentials) :
      Connects mux number key
        (some ⟨number, key, credentials, mux.openClientsFor number key, some mux.clients.size⟩)
        { mux with
          host
          clients := (mux.clients.add ⟨number, key, credentials, file, connection, false⟩).2
          factories := mux.factories.modify number fun factory =>
            factory.registerClient mux.clients.size key credentials }
  | forgotten {credentials : PeerCredentials} {host : Host}
      (reported : mux.reported? number = some credentials) :
      Connects mux number key
        (some ⟨number, key, credentials, mux.openClientsFor number key, none⟩)
        { mux with
          host
          factories := mux.factories.modify number fun factory =>
            factory.forgetPeer key credentials }

/-- Every call for a client comes to one of these ends. -/
theorem createClient_connects (mux : Multiplexer) (number : Nat) (key : HostAndPort)
    (shortage : Option Fault) :
    Connects mux number key (mux.contact? number key shortage)
      (mux.createClient number key shortage).2 := by
  unfold contact?
  rw [createClient_eq]
  obtain ⟨err, host, -, met⟩ | ⟨file, connection, credentials, host, -, reported, met⟩ :=
    mux.meet_cases number key
  · rw [met]
    exact .nobody
  · rw [met]
    cases shortage with
    | none => exact .registered reported
    | some fault => exact .forgotten reported

end Multiplexer

namespace Moment

/-- The contact at a moment. -/
def contact? (moment : Moment) : Option Contact :=
  match moment.action with
  | .createClient number key => moment.state.contact? number key none
  | .createClientShort number key shortage => moment.state.contact? number key (some shortage)
  | _ => none

/-- Only calls for clients make contacts. -/
theorem contact?_of_quiet (mux : Multiplexer) {action : Action}
    (quiet : action.isQuiet = true) : Moment.contact? ⟨mux, action⟩ = none := by
  cases action <;> first | rfl | cases quiet

/-- The client of a contact was made at its moment, with what the transport reported then. -/
theorem made_of_contact? {moment : Moment} {contact : Contact} {client : Nat}
    (contacted : moment.contact? = some contact) (made : contact.client = some client) :
    moment.action = .createClient contact.factory contact.key ∧
      (moment.state.createClient contact.factory contact.key).1 = .ok client ∧
      moment.state.reported? contact.factory = some contact.credentials := by
  obtain ⟨mux, action⟩ := moment
  cases action with
  | createClient number key =>
    obtain ⟨rfl, rfl, reported, outcome⟩ := Multiplexer.contact?_eq_some contacted
    refine ⟨rfl, ?_, reported⟩
    rw [made] at outcome
    cases created : (mux.createClient contact.factory contact.key).1 with
    | error err => simp [created, Except.toOption] at outcome
    | ok other => simpa [created, Except.toOption, eq_comm] using outcome
  | createClientShort number key shortage =>
    obtain ⟨-, -, -, outcome⟩ := Multiplexer.contact?_eq_some contacted
    rw [made, Multiplexer.createClient_short_fst] at outcome
    cases outcome
  | _ => cases contacted

end Moment

namespace History

/-- The contacts of a history, the latest first. -/
def contacts (history : History) : List Contact := history.filterMap Moment.contact?

theorem contacts_cons (moment : Moment) (history : History) :
    contacts (moment :: history) = moment.contact?.toList ++ contacts history := by
  unfold contacts
  rw [List.filterMap_cons]
  cases moment.contact? <;> rfl

end History

end SocketMux
