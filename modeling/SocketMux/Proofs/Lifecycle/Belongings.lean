import SocketMux.Proofs.Lifecycle.Enrolment
import SocketMux.Proofs.Lifecycle.FactoryClose
import SocketMux.Proofs.Lifecycle.ListenerClose

/-!
# What belongs to a factory

A factory owns the listeners and clients that it made, and with them the sockets at which its
listeners listen, the files that they made and the connections of its clients. Closing
factories, one or many, reaches nothing else (`Multiplexer.ClosesOnly`): all other factories,
listeners and clients are as they were, and so is the rest of the host. For this the factories
have to list only what they own (`Multiplexer.ListsOwn`), as they do in every run
(`Run.listsOwn`).
-/

namespace SocketMux

/-- A socket as it is after its close. -/
def ListeningSocket.shut (socket : ListeningSocket) : ListeningSocket :=
  { socket with backlog := [], waiting := [], isOpen := false }

/-- Sockets, files and connections that belong to somebody, by their numbers. -/
structure Belongings where
  socket : Nat → Prop
  file : Nat → Prop
  connection : Nat → Prop

/-- Whether everything of some belongings is among other ones. -/
structure Belongings.Within (some all : Belongings) : Prop where
  socket : ∀ number, some.socket number → all.socket number
  file : ∀ number, some.file number → all.file number
  connection : ∀ number, some.connection number → all.connection number

/-- Changing rows in turn leaves all other rows alone. -/
theorem Table.get?_foldl_modify {α : Type} (table : Table α) {numbers : List Nat} {number : Nat}
    (apart : number ∉ numbers) (change : α → α) :
    (numbers.foldl (fun table number => table.modify number change) table).get? number =
      table.get? number := by
  induction numbers generalizing table with
  | nil => rfl
  | cons first others inductionHypothesis =>
    have differs : first ≠ number := fun same => apart (same ▸ List.mem_cons_self)
    rw [List.foldl_cons, inductionHypothesis _ fun member => apart (List.mem_cons_of_mem _ member),
      get?_modify, if_neg differs]

namespace Host

/-- Whether nothing but belongings was closed and removed between two states of a host. -/
structure ClosesOnly (belongings : Belongings) (before after : Host) : Prop where
  files : ∀ place, after.files.get? place = before.files.get? place ∨
    ∃ node, before.files.get? place = some node ∧ belongings.file node.number ∧
      after.files.get? place = none
  sockets : ∀ number, after.sockets.get? number = before.sockets.get? number ∨
    belongings.socket number ∧
      after.sockets.get? number = (before.sockets.get? number).map ListeningSocket.shut
  /-- Connections that wait at a socket end with it. -/
  connections : ∀ number, after.connections.get? number = before.connections.get? number ∨
    belongings.connection number ∨
    ∃ socket state, belongings.socket socket ∧ before.sockets.get? socket = some state ∧
      number ∈ state.backlog
  /-- Accepts that wait at a socket end with it. -/
  accepts : ∀ number, after.accepts.get? number = before.accepts.get? number ∨
    ∃ socket state, belongings.socket socket ∧ before.sockets.get? socket = some state ∧
      number ∈ state.waiting
  networkPorts : after.networkPorts = before.networkPorts

namespace ClosesOnly

variable {belongings : Belongings} {before between after : Host}

theorem refl (belongings : Belongings) (host : Host) : host.ClosesOnly belongings host where
  files _ := .inl rfl
  sockets _ := .inl rfl
  connections _ := .inl rfl
  accepts _ := .inl rfl
  networkPorts := rfl

theorem mono {all : Belongings} (closes : before.ClosesOnly belongings after)
    (within : belongings.Within all) : before.ClosesOnly all after where
  files place := (closes.files place).imp_right fun ⟨node, found, mine, gone⟩ =>
    ⟨node, found, within.file _ mine, gone⟩
  sockets number := (closes.sockets number).imp_right (.imp_left (within.socket _))
  connections number := (closes.connections number).imp_right <|
    .imp (within.connection _) fun ⟨socket, state, mine, waits⟩ =>
      ⟨socket, state, within.socket _ mine, waits⟩
  accepts number := (closes.accepts number).imp_right fun ⟨socket, state, mine, waits⟩ =>
    ⟨socket, state, within.socket _ mine, waits⟩
  networkPorts := closes.networkPorts

/-- A socket at which somebody waits is one at which he waited before. -/
theorem waits_before (closes : before.ClosesOnly belongings between) {number waiter : Nat}
    {state : ListeningSocket} (found : between.sockets.get? number = some state)
    (queue : ListeningSocket → List Nat)
    (empty : ∀ socket : ListeningSocket, queue socket.shut = [])
    (waits : waiter ∈ queue state) : before.sockets.get? number = some state := by
  obtain same | ⟨-, shut⟩ := closes.sockets number
  · rw [← same, found]
  · rw [found] at shut
    obtain ⟨former, -, rfl⟩ := Option.map_eq_some_iff.mp shut.symm
    rw [empty] at waits
    cases waits

theorem trans (early : before.ClosesOnly belongings between)
    (late : between.ClosesOnly belongings after) : before.ClosesOnly belongings after where
  files place := by
    obtain same | ⟨node, found, mine, gone⟩ := late.files place
    · rw [same]
      exact early.files place
    · obtain still | ⟨-, -, -, vanished⟩ := early.files place
      · exact .inr ⟨node, still ▸ found, mine, gone⟩
      · rw [vanished] at found
        cases found
  sockets number := by
    obtain same | ⟨mine, shut⟩ := late.sockets number
    · rw [same]
      exact early.sockets number
    · refine .inr ⟨mine, ?_⟩
      obtain same | ⟨-, already⟩ := early.sockets number
      · rw [shut, same]
      · rw [shut, already, Option.map_map]
        rfl
  connections number := by
    obtain same | mine | ⟨socket, state, mine, found, waits⟩ := late.connections number
    · rw [same]
      exact early.connections number
    · exact .inr (.inl mine)
    · have waited := early.waits_before found ListeningSocket.backlog (fun _ => rfl) waits
      exact .inr (.inr ⟨socket, state, mine, waited, waits⟩)
  accepts number := by
    obtain same | ⟨socket, state, mine, found, waits⟩ := late.accepts number
    · rw [same]
      exact early.accepts number
    · have waited := early.waits_before found ListeningSocket.waiting (fun _ => rfl) waits
      exact .inr ⟨socket, state, mine, waited, waits⟩
  networkPorts := late.networkPorts.trans early.networkPorts

end ClosesOnly

/-- Closing a socket reaches whoever waits there. -/
theorem closeSocket_closesOnly (host : Host) {belongings : Belongings} {socket : Nat}
    (mine : belongings.socket socket) : host.ClosesOnly belongings (host.closeSocket socket) := by
  cases found : host.sockets.get? socket with
  | none =>
    rw [closeSocket_of_absent found]
    exact .refl belongings host
  | some state =>
    simp only [closeSocket, found]
    refine ⟨fun _ => .inl rfl, fun number => ?_, fun number => ?_, fun number => ?_, rfl⟩
    · simp only [Table.get?_modify]
      split
      · next same =>
        subst same
        exact .inr ⟨mine, rfl⟩
      · exact .inl rfl
    · by_cases waits : number ∈ state.backlog
      · exact .inr (.inr ⟨socket, state, mine, found, waits⟩)
      · exact .inl (Table.get?_foldl_modify _ waits _)
    · by_cases waits : number ∈ state.waiting
      · exact .inr ⟨socket, state, mine, found, waits⟩
      · exact .inl (Table.get?_foldl_modify _ waits _)

/-- A listener clears an entry only if the file there has the number that it noted. -/
theorem ownEntryOf_eq_some {host : Host} {listener : MuxListener} {entry : Place}
    (own : host.ownEntryOf listener = .ok (some entry)) :
    ∃ number node, listener.fileNumber = some number ∧ host.files.get? entry = some node ∧
      node.number = number ∧ entry ≠ [] := by
  unfold ownEntryOf at own
  split at own
  · cases own
  · next number numbered =>
    obtain ⟨-, -, node, present, same, -⟩ := FileTree.ownEntry_eq_some own
    exact ⟨number, node, numbered, present, same, FileTree.ownEntry_ne_root own⟩

/-- The end of a listener reaches its socket and its file. -/
theorem withoutListener_closesOnly (host : Host) {belongings : Belongings} {listener : MuxListener}
    (socket : belongings.socket listener.socket)
    (file : ∀ number, listener.fileNumber = some number → belongings.file number) :
    host.ClosesOnly belongings (host.withoutListener listener) := by
  rw [withoutListener_eq]
  refine (host.closeSocket_closesOnly socket).trans ?_
  refine ⟨fun place => ?_, fun _ => .inl rfl, fun _ => .inl rfl, fun _ => .inl rfl, rfl⟩
  match own : host.ownEntryOf listener with
  | .error fault => exact .inl rfl
  | .ok none => exact .inl rfl
  | .ok (some entry) =>
    obtain ⟨number, node, numbered, present, same, below⟩ := ownEntryOf_eq_some own
    rw [← closeSocket_files host listener.socket] at present
    have erased := FileTree.get?_erase (host.closeSocket listener.socket).files place below
    by_cases asked : place = entry
    · subst asked
      exact .inr ⟨node, present, same ▸ file number numbered, erased.trans (if_pos rfl)⟩
    · exact .inl (erased.trans (if_neg asked))

end Host

namespace Multiplexer

variable {whose : Nat → Prop} {mux before between after : Multiplexer}

/-- What belongs to the listeners and clients of some factories. -/
def belongings (mux : Multiplexer) (whose : Nat → Prop) : Belongings where
  socket number := ∃ which listener, mux.listeners.get? which = some listener ∧
    whose listener.factory ∧ listener.socket = number
  file number := ∃ which listener, mux.listeners.get? which = some listener ∧
    whose listener.factory ∧ listener.fileNumber = some number
  connection number := ∃ which client, mux.clients.get? which = some client ∧
    whose client.factory ∧ client.connection = number

/-- Whether nothing but endpoints of some factories was closed between two states, and no other
factory changed. -/
structure ClosesOnly (whose : Nat → Prop) (before after : Multiplexer) : Prop where
  host : before.host.ClosesOnly (before.belongings whose) after.host
  listeners : ∀ which, after.listeners.get? which = before.listeners.get? which ∨
    ∃ listener, before.listeners.get? which = some listener ∧ whose listener.factory ∧
      after.listeners.get? which = some listener.closed
  clients : ∀ which, after.clients.get? which = before.clients.get? which ∨
    ∃ client, before.clients.get? which = some client ∧ whose client.factory ∧
      after.clients.get? which = some client.closed
  factories : ∀ number, ¬whose number → after.factories.get? number = before.factories.get? number

namespace ClosesOnly

theorem refl (whose : Nat → Prop) (mux : Multiplexer) : mux.ClosesOnly whose mux where
  host := .refl _ _
  listeners _ := .inl rfl
  clients _ := .inl rfl
  factories _ _ := rfl

/-- A listener keeps its number and all that it was made with. -/
theorem listener_before (closes : before.ClosesOnly whose after) {which : Nat}
    {listener : MuxListener} (found : after.listeners.get? which = some listener) :
    ∃ former, before.listeners.get? which = some former ∧
      (listener = former ∨ listener = former.closed) := by
  obtain same | ⟨former, formerFound, -, closed⟩ := closes.listeners which
  · exact ⟨listener, same ▸ found, .inl rfl⟩
  · exact ⟨former, formerFound, .inr (Option.some.inj (found.symm.trans closed))⟩

theorem client_before (closes : before.ClosesOnly whose after) {which : Nat} {client : MuxClient}
    (found : after.clients.get? which = some client) :
    ∃ former, before.clients.get? which = some former ∧
      (client = former ∨ client = former.closed) := by
  obtain same | ⟨former, formerFound, -, closed⟩ := closes.clients which
  · exact ⟨client, same ▸ found, .inl rfl⟩
  · exact ⟨former, formerFound, .inr (Option.some.inj (found.symm.trans closed))⟩

/-- Closing gives nobody more than he had. -/
theorem belongings_within (closes : before.ClosesOnly whose after) (other : Nat → Prop) :
    (after.belongings other).Within (before.belongings other) where
  socket := by
    rintro _ ⟨which, listener, found, mine, rfl⟩
    obtain ⟨former, formerFound, rfl | rfl⟩ := closes.listener_before found
    · exact ⟨which, listener, formerFound, mine, rfl⟩
    · exact ⟨which, former, formerFound, mine, rfl⟩
  file := by
    rintro number ⟨which, listener, found, mine, numbered⟩
    obtain ⟨former, formerFound, rfl | rfl⟩ := closes.listener_before found
    · exact ⟨which, listener, formerFound, mine, numbered⟩
    · exact ⟨which, former, formerFound, mine, numbered⟩
  connection := by
    rintro _ ⟨which, client, found, mine, rfl⟩
    obtain ⟨former, formerFound, rfl | rfl⟩ := closes.client_before found
    · exact ⟨which, client, formerFound, mine, rfl⟩
    · exact ⟨which, former, formerFound, mine, rfl⟩

theorem trans (early : before.ClosesOnly whose between) (late : between.ClosesOnly whose after) :
    before.ClosesOnly whose after where
  host := early.host.trans (late.host.mono (early.belongings_within whose))
  listeners which := by
    obtain same | ⟨listener, found, mine, closed⟩ := late.listeners which
    · rw [same]
      exact early.listeners which
    · obtain ⟨former, formerFound, rfl | rfl⟩ := early.listener_before found
      · exact .inr ⟨listener, formerFound, mine, closed⟩
      · exact .inr ⟨former, formerFound, mine, closed⟩
  clients which := by
    obtain same | ⟨client, found, mine, closed⟩ := late.clients which
    · rw [same]
      exact early.clients which
    · obtain ⟨former, formerFound, rfl | rfl⟩ := early.client_before found
      · exact .inr ⟨client, formerFound, mine, closed⟩
      · exact .inr ⟨former, formerFound, mine, closed⟩
  factories number apart := (late.factories number apart).trans (early.factories number apart)

/-- Factories, endpoints and the host stay as they are. -/
theorem of_eq (host : after.host = before.host) (listeners : after.listeners = before.listeners)
    (clients : after.clients = before.clients) (factories : after.factories = before.factories) :
    before.ClosesOnly whose after where
  host := host ▸ .refl _ _
  listeners _ := .inl (by rw [listeners])
  clients _ := .inl (by rw [clients])
  factories _ _ := by rw [factories]

/-- A change of a factory itself. -/
theorem of_modify {number : Nat} (mine : whose number) {change : Factory → Factory}
    (host : after.host = before.host) (listeners : after.listeners = before.listeners)
    (clients : after.clients = before.clients)
    (factories : after.factories = before.factories.modify number change) :
    before.ClosesOnly whose after where
  host := host ▸ .refl _ _
  listeners _ := .inl (by rw [listeners])
  clients _ := .inl (by rw [clients])
  factories other apart := by
    rw [factories, Table.get?_modify, if_neg]
    rintro rfl
    exact apart mine

end ClosesOnly

theorem modifyFactory_closesOnly (mux : Multiplexer) {number : Nat} (mine : whose number)
    (change : Factory → Factory) : mux.ClosesOnly whose (mux.modifyFactory number change) :=
  .of_modify mine rfl rfl rfl rfl

/-- The close of a listener reaches what belongs to its factory. -/
theorem closeListener_closesOnly {which : Nat}
    (mine : ∀ listener, mux.listeners.get? which = some listener → whose listener.factory) :
    mux.ClosesOnly whose (mux.closeListener which).2 := by
  obtain ⟨-, unchanged⟩ | ⟨listener, pools, assigners, found, -, after⟩ :=
    mux.closeListener_cases which
  · rw [unchanged]
    exact .refl whose mux
  have owned := mine listener found
  rw [after]
  refine ⟨?_, fun other => ?_, fun _ => .inl rfl, fun number apart => ?_⟩
  · exact mux.host.withoutListener_closesOnly ⟨which, listener, found, owned, rfl⟩
      fun number numbered => ⟨which, listener, found, owned, numbered⟩
  · simp only [Table.get?_modify]
    split
    · next same =>
      subst same
      exact .inr ⟨listener, found, owned, by rw [found]; rfl⟩
    · exact .inl rfl
  · simp only [factoriesWithout]
    split
    · rw [Table.get?_modify, if_neg]
      rintro rfl
      exact apart owned
    · rfl

theorem closeListeners_closesOnly (listeners : List Nat)
    (mine : ∀ which ∈ listeners, ∀ listener, mux.listeners.get? which = some listener →
      whose listener.factory) :
    mux.ClosesOnly whose (mux.closeListeners listeners).2 := by
  induction listeners generalizing mux with
  | nil => exact .refl whose mux
  | cons first others inductionHypothesis =>
    have closed := closeListener_closesOnly (mine first List.mem_cons_self)
    refine closed.trans (inductionHypothesis fun which member listener found => ?_)
    obtain ⟨former, formerFound, rfl | rfl⟩ := closed.listener_before found
    · exact mine which (List.mem_cons_of_mem _ member) listener formerFound
    · exact mine which (List.mem_cons_of_mem _ member) former formerFound

/-- The close of a client reaches what belongs to its factory. -/
theorem closeClient_closesOnly {which : Nat}
    (mine : ∀ client, mux.clients.get? which = some client → whose client.factory) :
    mux.ClosesOnly whose (mux.closeClient which) := by
  obtain ⟨-, unchanged⟩ | ⟨client, found, -, after⟩ := mux.closeClient_cases which
  · rw [unchanged]
    exact .refl whose mux
  have owned := mine client found
  rw [after]
  refine ⟨⟨fun _ => .inl rfl, fun _ => .inl rfl, fun number => ?_, fun _ => .inl rfl, rfl⟩,
    fun _ => .inl rfl, fun other => ?_, fun number apart => ?_⟩
  · simp only [Host.modifyConnection, Table.get?_modify]
    split
    · next same => exact .inr (.inl ⟨which, client, found, owned, same⟩)
    · exact .inl rfl
  · simp only [Table.get?_modify]
    split
    · next same =>
      subst same
      exact .inr ⟨client, found, owned, by rw [found]; rfl⟩
    · exact .inl rfl
  · simp only [Table.get?_modify]
    rw [if_neg]
    rintro rfl
    exact apart owned

theorem closeClients_closesOnly (clients : List Nat)
    (mine : ∀ which ∈ clients, ∀ client, mux.clients.get? which = some client →
      whose client.factory) :
    mux.ClosesOnly whose (mux.closeClients clients) := by
  induction clients generalizing mux with
  | nil => exact .refl whose mux
  | cons first others inductionHypothesis =>
    have closed := closeClient_closesOnly (mine first List.mem_cons_self)
    refine closed.trans (inductionHypothesis fun which member client found => ?_)
    obtain ⟨former, formerFound, rfl | rfl⟩ := closed.client_before found
    · exact mine which (List.mem_cons_of_mem _ member) client formerFound
    · exact mine which (List.mem_cons_of_mem _ member) former formerFound

/-- Whether all factories list only listeners and clients that they made. -/
structure ListsOwn (mux : Multiplexer) : Prop where
  servers : ∀ number factory, mux.factories.get? number = some factory →
    ∀ entry ∈ factory.servers, ∀ listener, mux.listeners.get? entry.2 = some listener →
      listener.factory = number
  clients : ∀ number factory, mux.factories.get? number = some factory →
    ∀ which ∈ factory.clients, ∀ client, mux.clients.get? which = some client →
      client.factory = number

/-- A listener that was registered last is closed if its factory lists nothing. -/
theorem ListsServers.closed_of_unlisted {creations : List Creation}
    (lists : mux.ListsServers creations []) {number : Nat} {factory : Factory} {port : Port}
    {which : Nat} (last : lastRegistered? creations number port = some which)
    (found : mux.factories.get? number = some factory) (none : factory.servers = []) :
    ∃ listener, mux.listeners.get? which = some listener ∧ listener.isClosed := by
  obtain ⟨listener, there, -⟩ := lists.records.listener_of_lastRegistered last
  refine ⟨listener, there, ?_⟩
  by_contra isOpen
  have nowOpen : mux.hasOpen which := by simpa [hasOpen, there] using isOpen
  have still := ((lists.lists number factory found).2 (port, which)).mpr
    ⟨last, nowOpen, List.not_mem_nil⟩
  rw [none] at still
  cases still

/-- A client that was made is closed if its factory lists nothing. -/
theorem ListsClients.closed_of_unlisted {made : List (Nat × Nat)} (lists : mux.ListsClients made [])
    {number which : Nat} {factory : Factory} (member : (number, which) ∈ made)
    (found : mux.factories.get? number = some factory) (none : factory.clients = []) :
    ∃ client, mux.clients.get? which = some client ∧ client.isClosed := by
  obtain ⟨client, there, -⟩ := lists.client_of_made member
  refine ⟨client, there, ?_⟩
  by_contra isOpen
  have nowOpen : mux.hasOpenClient which := by simpa [hasOpenClient, there] using isOpen
  have still := ((lists.lists number factory found).2 which).mpr
    ⟨member, nowOpen, List.not_mem_nil⟩
  rw [none] at still
  cases still

/-- Factories own what they have registered. -/
theorem listsOwn {creations : List Creation} {made : List (Nat × Nat)}
    (servers : mux.ListsServers creations []) (clients : mux.ListsClients made []) :
    mux.ListsOwn where
  servers number factory found entry listed listener there :=
    (servers.own there (((servers.lists number factory found).2 entry).mp listed)).1.symm
  clients number factory found which listed client there := by
    obtain ⟨row, rowFound, same⟩ :=
      clients.client_of_made (((clients.lists number factory found).2 which).mp listed).1
    cases there.symm.trans rowFound
    exact same

/-- The close of a factory reaches what belongs to it. -/
theorem ListsOwn.closeFactory_closesOnly (own : mux.ListsOwn) {number : Nat} (mine : whose number) :
    mux.ClosesOnly whose (mux.closeFactory number).2 := by
  cases found : mux.factories.get? number with
  | none =>
    simp only [Multiplexer.closeFactory, found]
    exact .refl whose mux
  | some factory =>
    have forgotten := modifyFactory_get? found fun state =>
      { state with credentials := .empty, authority := none, servers := [] }
    have serversClosed := closeListeners_get? forgotten rfl (factory.servers.map Prod.snd)
    simp only [Multiplexer.closeFactory, found, closeFactoryIn, serversClosed, Option.elim_some]
    have forgets : mux.ClosesOnly whose (mux.modifyFactory number fun state =>
        { state with credentials := .empty, authority := none, servers := [] }) :=
      mux.modifyFactory_closesOnly mine _
    have closesServers := forgets.trans <|
      closeListeners_closesOnly (factory.servers.map Prod.snd) <| by
        intro which listed listener there
        obtain ⟨entry, member, rfl⟩ := List.mem_map.mp listed
        exact own.servers number factory found entry member listener there ▸ mine
    have forgetsClients := closesServers.trans <|
      modifyFactory_closesOnly _ mine fun state => { state with clients := [] }
    have closesClients := forgetsClients.trans <|
      closeClients_closesOnly factory.clients <| by
        intro which listed client there
        obtain ⟨row, rowFound, rfl | rfl⟩ := forgetsClients.client_before there
        · exact own.clients number factory found which listed client rowFound ▸ mine
        · exact own.clients number factory found which listed row rowFound ▸ mine
    refine closesClients.trans ?_
    obtain ⟨coordinators, after⟩ := withdraw_eq
      (closeClients _ factory.clients) number
    rw [after]
    exact .of_modify mine rfl rfl rfl rfl

/-- Closing factories in turn reaches what belongs to them. -/
theorem closeEntries_closesOnly {creations : List Creation} {made : List (Nat × Nat)}
    (servers : mux.ListsServers creations []) (clients : mux.ListsClients made [])
    {entries : List (HookId × Nat)} (mine : ∀ entry ∈ entries, whose entry.2)
    (report : ShutdownReport) : mux.ClosesOnly whose (mux.closeEntries entries report).2 := by
  induction entries generalizing mux report with
  | nil => exact .refl whose mux
  | cons entry others inductionHypothesis =>
    obtain ⟨id, number⟩ := entry
    have rest : ∀ entry ∈ others, whose entry.2 :=
      fun entry member => mine entry (List.mem_cons_of_mem _ member)
    simp only [closeEntries]
    split
    · exact inductionHypothesis servers clients rest _
    · have closed := (listsOwn servers clients).closeFactory_closesOnly
        (mine (id, number) List.mem_cons_self)
      exact closed.trans (inductionHypothesis (servers.closeFactory number)
        (clients.closeFactory number) rest _)

/-- Factories that are held are left without registrations when they are closed in turn. -/
theorem closeEntries_clears {entries : List (HookId × Nat)}
    (held : ∀ entry ∈ entries, mux.holdsFactory entry.2) {number : Nat}
    (listed : number ∈ entries.map Prod.snd) (report : ShutdownReport) :
    ∃ factory, (mux.closeEntries entries report).2.factories.get? number = some factory ∧
      factory.servers = [] ∧ factory.clients = [] := by
  induction entries generalizing mux report with
  | nil => cases listed
  | cons entry others inductionHypothesis =>
    obtain ⟨id, first⟩ := entry
    obtain ⟨factory, found, isHeld⟩ := (Option.any_eq_true _ _).mp (held _ List.mem_cons_self)
    have alive : (mux.factories.get? first).filter Factory.isHeld = some factory :=
      Option.filter_eq_some_iff.mpr ⟨found, isHeld⟩
    simp only [closeEntries, alive]
    by_cases last : number ∈ others.map Prod.snd
    · refine inductionHypothesis (fun entry member => ?_) last _
      rw [holdsFactory_closeFactory]
      exact held entry (List.mem_cons_of_mem _ member)
    · obtain rfl : number = first := (List.mem_cons.mp listed).resolve_right last
      have cleared : (mux.closeFactory number).2.HasDwindled number factory.cleared :=
        ⟨_, closeFactory_get? found, .refl _⟩
      obtain ⟨row, rowFound, less⟩ := closeEntries_induction
        (motive := fun later => later.HasDwindled number factory.cleared)
        (fun other dwindled => (HasDwindled.keptByClosing _ _).closeFactory dwindled other)
        cleared others
          (report.add factory.profile.label (errorOf (mux.closeFactory number).1).head?)
      exact ⟨row, rowFound, List.subset_nil.mp less.servers, List.subset_nil.mp less.clients⟩

/-- The factories that a shutdown of a coordinator closes. -/
def liveWith (mux : Multiplexer) (coordinator : Nat) : List Nat :=
  ((mux.coordinators.get? coordinator).elim [] fun state => state.entries.map Prod.snd).filter
    mux.holdsFactory

/-- All factories that are registered with a coordinator are held. -/
theorem Enrolled.liveWith_eq (enrolled : mux.Enrolled noEntries) (coordinator : Nat) :
    mux.liveWith coordinator = (mux.enrolledWith coordinator).map Prod.snd := by
  unfold liveWith
  cases found : mux.coordinators.get? coordinator with
  | none => rw [enrolled.enrolledWith_of_absent found]; rfl
  | some state =>
    have listed : state.entries = mux.enrolledWith coordinator := enrolled.listed _ _ found
    rw [Option.elim_some, ← listed, List.filter_eq_self]
    intro number member
    obtain ⟨entry, entryMember, rfl⟩ := List.mem_map.mp member
    refine enrolled.held entry.2 ?_
    rw [mem_enrolledWith.mp (listed ▸ entryMember)]
    rfl

/-- A shutdown closes the factories that are registered with its coordinator in turn. -/
theorem Enrolled.shutDownAll_eq (enrolled : mux.Enrolled noEntries) (coordinator : Nat) :
    ∃ coordinators, mux.shutDownAll coordinator =
      { mux with coordinators }.closeEntries (mux.enrolledWith coordinator) .empty := by
  unfold Multiplexer.shutDownAll
  split
  · next absent =>
    rw [enrolled.enrolledWith_of_absent absent]
    exact ⟨mux.coordinators, rfl⟩
  · next state found =>
    have listed : state.entries = mux.enrolledWith coordinator := enrolled.listed _ _ found
    rw [← listed]
    exact ⟨_, rfl⟩

/-- What the shutdown of factories comes to. -/
structure ShutsDown (numbers : List Nat) (before after : Multiplexer) : Prop where
  /-- The factories report no port and no client. -/
  bare : ∀ number ∈ numbers, ∃ factory, after.factories.get? number = some factory ∧
    factory.serverPorts = [] ∧ factory.clientCount = 0
  /-- All listeners that were registered with them are closed. -/
  listeners : ∀ number ∈ numbers, ∀ factory, before.factories.get? number = some factory →
    ∀ entry ∈ factory.servers, ∃ listener,
      after.listeners.get? entry.2 = some listener ∧ listener.isClosed
  /-- All clients that were registered with them are closed. -/
  clients : ∀ number ∈ numbers, ∀ factory, before.factories.get? number = some factory →
    ∀ which ∈ factory.clients, ∃ client,
      after.clients.get? which = some client ∧ client.isClosed
  /-- Nothing else is closed. -/
  others : before.ClosesOnly (· ∈ numbers) after

/-- The order of the factories does not matter. -/
theorem ShutsDown.congr {numbers others : List Nat} (shuts : ShutsDown numbers before after)
    (same : ∀ number, number ∈ numbers ↔ number ∈ others) : ShutsDown others before after where
  bare number member := shuts.bare number ((same number).mpr member)
  listeners number member := shuts.listeners number ((same number).mpr member)
  clients number member := shuts.clients number ((same number).mpr member)
  others := by
    have whole : (· ∈ others) = (· ∈ numbers) := funext fun number => propext (same number).symm
    exact whole ▸ shuts.others

end Multiplexer

/-- In every state of a run a shutdown closes the factories that the coordinator lists, with all
that is registered with them, and nothing else. -/
theorem Run.shutDownAll_shutsDown {host : Host} {own : PeerCredentials} {history : History}
    {mux : Multiplexer} (run : Run (.initial host own) history mux)
    (few : mux.factories.size < UInt64.size) (coordinator : Nat) :
    Multiplexer.ShutsDown (mux.liveWith coordinator) mux (mux.shutDownAll coordinator).2 := by
  have enrolled := run.enrolled few
  have later := run.more (.shutDownAll coordinator)
  have serversAfter : (mux.shutDownAll coordinator).2.ListsServers history.creations [] :=
    later.listsServers
  have clientsAfter : (mux.shutDownAll coordinator).2.ListsClients history.madeClients [] :=
    later.listsClients
  obtain ⟨coordinators, after⟩ := enrolled.shutDownAll_eq coordinator
  have bare : ∀ number ∈ mux.liveWith coordinator, ∃ factory,
      (mux.shutDownAll coordinator).2.factories.get? number = some factory ∧
        factory.servers = [] ∧ factory.clients = [] := by
    intro number member
    rw [enrolled.liveWith_eq] at member
    rw [after]
    refine Multiplexer.closeEntries_clears (fun entry listed => ?_) member _
    refine enrolled.held entry.2 ?_
    rw [Multiplexer.mem_enrolledWith.mp listed]
    rfl
  constructor
  case bare =>
    intro number member
    obtain ⟨factory, found, noServers, noClients⟩ := bare number member
    exact ⟨factory, found, by simp [Factory.serverPorts, noServers],
      by simp [Factory.clientCount, noClients]⟩
  case listeners =>
    intro number member factory found entry listed
    obtain ⟨row, rowFound, none, -⟩ := bare number member
    have demanded := ((run.listsServers.lists number factory found).2 entry).mp listed
    exact serversAfter.closed_of_unlisted demanded.1 rowFound none
  case clients =>
    intro number member factory found which listed
    obtain ⟨row, rowFound, -, none⟩ := bare number member
    have demanded := ((run.listsClients.lists number factory found).2 which).mp listed
    exact clientsAfter.closed_of_unlisted demanded.1 rowFound none
  case others =>
    rw [enrolled.liveWith_eq, after]
    have same : mux.ClosesOnly (· ∈ (mux.enrolledWith coordinator).map Prod.snd)
        { mux with coordinators } := .of_eq rfl rfl rfl rfl
    have servers : Multiplexer.ListsServers { mux with coordinators } history.creations [] :=
      run.listsServers.same rfl (.refl _)
    have clients : Multiplexer.ListsClients { mux with coordinators } history.madeClients [] :=
      run.listsClients.same rfl (.refl _)
    exact same.trans <| Multiplexer.closeEntries_closesOnly servers clients
      (fun entry member => List.mem_map_of_mem member) _

end SocketMux
