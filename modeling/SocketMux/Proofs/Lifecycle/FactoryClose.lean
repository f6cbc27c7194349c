import SocketMux.Proofs.Lifecycle.ClientRegistry

/-!
# What a closed factory is left with

A close leaves a factory with nothing that it registered or looked up
(`Multiplexer.closeFactory_get?`), and all that was registered is closed, whatever errors
the close comes to. Until the factory makes an endpoint again it registers nothing
(`Multiplexer.HasDwindled`), so that another close at most forgets an assigner that was
looked up since (`Run.closeFactory_again`).
-/

namespace SocketMux

namespace Factory

/-- A factory that remembers and registers nothing. -/
def cleared (factory : Factory) : Factory :=
  { factory with
    servers := []
    clients := []
    credentials := .empty
    authority := none
    registration := none }

/-- A factory that remembers no assigner. -/
def forgetAuthority (factory : Factory) : Factory := { factory with authority := none }

end Factory

namespace Multiplexer

section Registered

variable {mux : Multiplexer} {number : Nat} {factory : Factory}

/-- The close of a listener leaves a factory alone that lists none. -/
theorem closeListener_get? (found : mux.factories.get? number = some factory)
    (unlisted : factory.servers = []) (listener : Nat) :
    (mux.closeListener listener).2.factories.get? number = some factory := by
  obtain ⟨-, unchanged⟩ | ⟨row, pools, assigners, -, -, after⟩ := mux.closeListener_cases listener
  · rw [unchanged]
    exact found
  · have same : factory.unregisterServer row.port listener = factory := by
      rw [Factory.unregisterServer, unlisted, List.filter_nil, ← unlisted]
    rw [after]
    simp only [factoriesWithout]
    split
    · rw [Table.get?_modify, found, Option.map_some, same, ite_self]
    · exact found

theorem closeListeners_get? (found : mux.factories.get? number = some factory)
    (unlisted : factory.servers = []) (listeners : List Nat) :
    (mux.closeListeners listeners).2.factories.get? number = some factory := by
  induction listeners generalizing mux with
  | nil => exact found
  | cons listener others inductionHypothesis =>
    exact inductionHypothesis (closeListener_get? found unlisted listener)

/-- The close of a client leaves a factory alone that lists none and remembers no peer. -/
theorem closeClient_get? (found : mux.factories.get? number = some factory)
    (unlisted : factory.clients = []) (forgotten : factory.credentials = .empty) (client : Nat) :
    (mux.closeClient client).factories.get? number = some factory := by
  obtain ⟨-, unchanged⟩ | ⟨row, -, -, after⟩ := mux.closeClient_cases client
  · rw [unchanged]
    exact found
  · have same : factory.unregisterClient client row.key = factory := by
      have nobody : CredentialTable.empty.erase row.key = .empty := rfl
      rw [Factory.unregisterClient, unlisted, forgotten, nobody, List.filter_nil, ← unlisted,
        ← forgotten]
    rw [after]
    simp only [Table.get?_modify, found, Option.map_some, same, ite_self]

theorem closeClients_get? (found : mux.factories.get? number = some factory)
    (unlisted : factory.clients = []) (forgotten : factory.credentials = .empty)
    (clients : List Nat) :
    (mux.closeClients clients).factories.get? number = some factory := by
  induction clients generalizing mux with
  | nil => exact found
  | cons client others inductionHypothesis =>
    exact inductionHypothesis (closeClient_get? found unlisted forgotten client)

theorem withdraw_get? (found : mux.factories.get? number = some factory) :
    (mux.withdraw number).factories.get? number = some (unlisted factory) := by
  obtain ⟨coordinators, after⟩ := mux.withdraw_eq number
  rw [after]
  simp [found]

/-- A factory that changes is found as it is after the change. -/
theorem modifyFactory_get? (found : mux.factories.get? number = some factory)
    (change : Factory → Factory) :
    (mux.modifyFactory number change).factories.get? number = some (change factory) := by
  simp [modifyFactory, found]

/-- A close leaves a factory with nothing that it registered or looked up. -/
theorem closeFactory_get? (found : mux.factories.get? number = some factory) :
    (mux.closeFactory number).2.factories.get? number = some factory.cleared := by
  simp only [closeFactory, found, closeFactoryIn]
  have forgotten := modifyFactory_get? found fun state =>
    { state with credentials := .empty, authority := none, servers := [] }
  have serversClosed := closeListeners_get? forgotten rfl (factory.servers.map Prod.snd)
  have emptied := modifyFactory_get? serversClosed fun state => { state with clients := [] }
  exact withdraw_get? (closeClients_get? emptied rfl rfl _)

/-- A close of a factory without registrations finds nothing to do but to forget the
assigner. -/
theorem closeFactory_of_bare (found : mux.factories.get? number = some factory)
    (servers : factory.servers = []) (clients : factory.clients = [])
    (credentials : factory.credentials = .empty) (registration : factory.registration = none) :
    mux.closeFactory number = (.ok (), mux.modifyFactory number Factory.forgetAuthority) := by
  have forgotten := modifyFactory_get? found fun state =>
    { state with credentials := .empty, authority := none, servers := [] }
  have withdrawn : ∀ later : Multiplexer,
      (later.factories.get? number).bind Factory.registration = none →
        later.withdraw number = later := by
    intro later off
    simp only [withdraw, off]
  have same : ∀ row, mux.factories.get? number = some row →
      { row with servers := [], clients := [], credentials := .empty, authority := none } =
        row.forgetAuthority := by
    intro row present
    cases found.symm.trans present
    rw [Factory.forgetAuthority, servers, clients, credentials]
  simp only [closeFactory, found, closeFactoryIn, servers, List.map_nil, closeListeners, forgotten,
    Option.elim_some, clients, closeClients, List.foldl_nil]
  rw [withdrawn]
  · simp only [modifyFactory, Table.modify_modify, Table.modify_congr _ _ same]
    rfl
  · simp [modifyFactory, found, registration]

end Registered

section Dwindling

/-- Whether a factory is still there and has registered nothing since an earlier state. -/
def HasDwindled (number : Nat) (earlier : Factory) (mux : Multiplexer) : Prop :=
  ∃ factory, mux.factories.get? number = some factory ∧ earlier.Dwindles factory

variable {mux : Multiplexer} {number : Nat} {earlier : Factory}

namespace HasDwindled

/-- A change of another factory, or one that registers nothing. -/
theorem modify (dwindled : mux.HasDwindled number earlier) {after : Multiplexer} (other : Nat)
    {change : Factory → Factory} (factories : after.factories = mux.factories.modify other change)
    (dwindles : other = number → ∀ factory : Factory, factory.Dwindles (change factory)) :
    after.HasDwindled number earlier := by
  obtain ⟨factory, found, less⟩ := dwindled
  by_cases asked : other = number
  · refine ⟨change factory, ?_, less.trans (dwindles asked factory)⟩
    rw [factories, Table.get?_modify, if_pos asked, found]
    rfl
  · refine ⟨factory, ?_, less⟩
    rw [factories, Table.get?_modify, if_neg asked]
    exact found

theorem same (dwindled : mux.HasDwindled number earlier) {after : Multiplexer}
    (factories : after.factories = mux.factories) : after.HasDwindled number earlier := by
  obtain ⟨factory, found, less⟩ := dwindled
  exact ⟨factory, by rw [factories]; exact found, less⟩

/-- The same registrations are no new ones. -/
theorem quiet (dwindled : mux.HasDwindled number earlier) {after : Multiplexer}
    (registries : SameRegistries mux.factories after.factories) :
    after.HasDwindled number earlier := by
  obtain ⟨former, former_found, less⟩ := dwindled
  obtain ⟨factory, found, registration⟩ := registries.registration number former former_found
  have bounded : number < mux.factories.size := (List.getElem?_eq_some_iff.mp former_found).1
  -- A factory that was there has the entries that it had.
  have entries : ∀ {α : Type} {entries : Factory → List α},
      SameEntries entries mux.factories after.factories → entries factory ⊆ entries former := by
    intro α entries kept
    obtain ⟨same, same_found, perm⟩ | ⟨fresh, -⟩ := kept.perm number factory found
    · cases former_found.symm.trans same_found
      exact perm.subset
    · omega
  exact ⟨factory, found, less.trans ⟨entries registries.servers, entries registries.clients,
    entries registries.peers, .inl registration⟩⟩

/-- Dropping the registration of a listener registers nothing. -/
theorem without (dwindled : mux.HasDwindled number earlier) {after : Multiplexer} {listener : Nat}
    {row : MuxListener} (factories : after.factories = mux.factoriesWithout listener row) :
    after.HasDwindled number earlier := by
  unfold factoriesWithout at factories
  split at factories
  · exact dwindled.modify _ factories fun _ factory => .unregisterServer factory _ _
  · exact dwindled.same factories

theorem closeClient (dwindled : mux.HasDwindled number earlier) (client : Nat) :
    (mux.closeClient client).HasDwindled number earlier := by
  obtain ⟨-, unchanged⟩ | ⟨row, -, -, after⟩ := mux.closeClient_cases client
  · rw [unchanged]
    exact dwindled
  · rw [after]
    exact dwindled.modify row.factory rfl fun _ factory => .unregisterClient factory _ _

/-- Closing factories registers nothing. -/
theorem keptByClosing (number : Nat) (earlier : Factory) :
    KeptByClosing fun mux => mux.HasDwindled number earlier where
  listener {mux} listener dwindled := by
    obtain ⟨-, unchanged⟩ | ⟨row, pools, assigners, -, -, after⟩ :=
      mux.closeListener_cases listener
    · rw [unchanged]
      exact dwindled
    · rw [after]
      exact dwindled.without rfl
  client client dwindled := dwindled.closeClient client
  factory other _ fades dwindled := dwindled.modify other rfl fun _ => fades.dwindles
  coordinators _ dwindled := dwindled.same rfl

end HasDwindled

end Dwindling

end Multiplexer

/-- Whether a factory makes an endpoint at a moment. -/
def Moment.AddsTo (number : Nat) (moment : Moment) : Prop :=
  (∃ creation, moment.creation? = some creation ∧ creation.factory = number ∧
    creation.listener.isSome) ∨
  ∃ client, moment.madeClient? = some (number, client)

namespace Multiplexer

variable {mux : Multiplexer} {number : Nat} {earlier : Factory}

/-- A call for a server registers nothing with other factories, and nothing at all if it
makes no listener. -/
theorem Creates.hasDwindled {after : Multiplexer} {maker : Nat} {factory : Factory}
    {creation : Option Creation} (creates : Creates mux maker factory creation after)
    (dwindled : mux.HasDwindled number earlier)
    (spared : ∀ made ∈ creation, made.factory = number → made.listener = none) :
    after.HasDwindled number earlier := by
  have remembering : ∀ remember, Remembers remember →
      ∀ factory : Factory, factory.Dwindles (remember factory) := by
    intro remember remembers factory
    obtain ⟨authority, after⟩ := remembers factory
    rw [after]
    exact ⟨fun _ => id, fun _ => id, fun _ => id, .inl rfl⟩
  cases creates with
  | nothing remembers => exact dwindled.modify maker rfl fun _ => remembering _ remembers
  | @failed port bound issuer ready err host prepared unbound =>
    obtain ⟨pools, assigners, remember, remembers, rfl⟩ := ready_eq prepared
    obtain ⟨morePools, moreAssigners, refunded⟩ := refund_eq
      { mux with
        host
        pools
        assigners
        factories := mux.factories.modify maker remember } issuer bound
    rw [refunded]
    exact dwindled.modify maker rfl fun _ => remembering _ remembers
  | @made port bound issuer ready socket host prepared bind =>
    obtain ⟨pools, assigners, remember, remembers, rfl⟩ := ready_eq prepared
    have elsewhere : maker ≠ number := fun same => nomatch spared _ rfl same
    have prepares : HasDwindled number earlier
        { mux with pools, assigners, factories := mux.factories.modify maker remember } :=
      dwindled.modify maker rfl fun _ => remembering _ remembers
    by_cases registered : (issuer.isNone || bound.isMultiplexed) = true
    · exact prepares.modify maker (if_pos registered) fun same => absurd same elsewhere
    · exact prepares.same (if_neg registered)

/-- An action at which a factory makes no endpoint registers nothing with it. -/
theorem HasDwindled.perform (dwindled : mux.HasDwindled number earlier) (action : Action)
    (spared : ¬Moment.AddsTo number ⟨mux, action⟩) :
    (mux.perform action).HasDwindled number earlier := by
  by_cases quiet : action.isQuiet = true
  · obtain ⟨_, _, _, _, _, _, _, _, registries, after⟩ := mux.perform_quiet quiet
    rw [after]
    exact dwindled.quiet registries
  have closing := keptByClosing number earlier
  cases action with
  | createServer maker port =>
    cases found : mux.factories.get? maker with
    | none =>
      simp only [Multiplexer.perform, createServer, found]
      exact dwindled
    | some factory =>
      refine (createServer_creates port found).hasDwindled dwindled fun creation made asked => ?_
      cases listener : creation.listener with
      | none => rfl
      | some made_as =>
        exact absurd (.inl ⟨creation, made, asked, by rw [listener]; rfl⟩) spared
  | createClient maker key =>
    obtain ⟨err, host, -, after⟩ | ⟨credentials, file, connection, host, -, -, after⟩ :=
      mux.createClient_cases maker key
    · simp only [Multiplexer.perform, after]
      exact dwindled.same rfl
    · have elsewhere : maker ≠ number := by
        rintro rfl
        exact spared (.inr ⟨mux.clients.size, by simp [Moment.madeClient?, after, Except.toOption]⟩)
      simp only [Multiplexer.perform, after]
      exact dwindled.modify maker rfl fun same => absurd same elsewhere
  | createClientShort maker key shortage =>
    obtain ⟨host, forget, forgets, -, after⟩ := mux.createClient_short maker key shortage
    simp only [Multiplexer.perform, after]
    refine dwindled.modify maker rfl fun _ factory => ?_
    obtain ⟨credentials, forgotten, fewer⟩ := forgets factory
    rw [forgotten]
    exact ⟨fun _ => id, fun _ => id, fewer, .inl rfl⟩
  | closeListener listener => exact closing.listener listener dwindled
  | dropListener listener hasTasks =>
    obtain ⟨-, unchanged⟩ | ⟨row, -, -, after⟩ := mux.dropListener_cases listener hasTasks
    · simp only [Multiplexer.perform, unchanged]
      exact dwindled
    · simp only [Multiplexer.perform, after]
      exact dwindled.without rfl
  | closeClient client => exact dwindled.closeClient client
  | dropClient client =>
    obtain ⟨host, -, after⟩ := mux.dropClient_eq client
    simp only [Multiplexer.perform, after]
    exact (dwindled.closeClient client).same rfl
  | closeFactory other => exact closing.closeFactory dwindled other
  | dropFactory other => exact closing.dropFactory dwindled other
  | shutDownAll coordinator => exact closing.shutDownAll dwindled coordinator
  | returnOne index =>
    obtain unchanged | ⟨entry, pools, assigners, -, after⟩ := mux.returnOne_cases index
    · simp only [Multiplexer.perform, unchanged]
      exact dwindled
    · simp only [Multiplexer.perform, after]
      exact dwindled.same rfl
  | _ => exact absurd rfl quiet

end Multiplexer

/-- While a factory makes no endpoint it registers nothing. -/
theorem Run.hasDwindled {mux after : Multiplexer} {later : History} {number : Nat}
    {factory : Factory} (run : Run mux later after)
    (spared : ∀ moment ∈ later, ¬moment.AddsTo number)
    (found : mux.factories.get? number = some factory) : after.HasDwindled number factory := by
  apply run.induction (motive := fun _ after => after.HasDwindled number factory) spared
  · exact ⟨factory, found, .refl factory⟩
  · exact fun action nothing dwindled => dwindled.perform action nothing

/-- What the close of a factory comes to, whatever was registered with it. -/
structure Multiplexer.LeavesNothing (number : Nat) (factory : Factory) (closed : Multiplexer) :
    Prop where
  /-- The factory reports no port, no client and no credentials, and has no assigner. -/
  bare : ∃ state, closed.factories.get? number = some state ∧ state.serverPorts = [] ∧
    state.clientCount = 0 ∧ (∀ key, state.credentials.get? key = none) ∧ state.authority = none
  /-- All listeners that were registered are closed. -/
  listeners : ∀ entry ∈ factory.servers, ∃ listener,
    closed.listeners.get? entry.2 = some listener ∧ listener.isClosed
  /-- All clients that were registered are closed. -/
  clients : ∀ number ∈ factory.clients, ∃ client,
    closed.clients.get? number = some client ∧ client.isClosed
  /-- Another close at once changes nothing. -/
  settled : closed.closeFactory number = (.ok (), closed)
  /-- A later close finds at most an assigner to forget that was looked up since, as long
  as the factory made no endpoint. -/
  again : ∀ {later after}, Run closed later after → (∀ moment ∈ later, ¬moment.AddsTo number) →
    after.closeFactory number = (.ok (), after.modifyFactory number Factory.forgetAuthority)

/-- In every state of a run the close of a factory leaves nothing that was registered with
it open and nothing for another close to do, whatever errors it comes to. -/
theorem Run.closeFactory_leavesNothing {host : Host} {own : PeerCredentials}
    {history : History} {mux : Multiplexer} (run : Run (.initial host own) history mux)
    {number : Nat} {factory : Factory} (found : mux.factories.get? number = some factory) :
    (mux.closeFactory number).2.LeavesNothing number factory := by
  have bare := Multiplexer.closeFactory_get? found
  have again : ∀ {later after}, Run (mux.closeFactory number).2 later after →
      (∀ moment ∈ later, ¬moment.AddsTo number) → after.closeFactory number =
        (.ok (), after.modifyFactory number Factory.forgetAuthority) := by
    intro later after continued spared
    obtain ⟨state, state_found, less⟩ := continued.hasDwindled spared bare
    exact Multiplexer.closeFactory_of_bare state_found (List.subset_nil.mp less.servers)
      (List.subset_nil.mp less.clients)
      (congrArg CredentialTable.mk (List.subset_nil.mp less.peers))
      (less.registration.elim id id)
  constructor
  case bare =>
    have noPorts : factory.cleared.serverPorts = [] := by
      simp [Factory.serverPorts, Factory.cleared]
    exact ⟨_, bare, noPorts, rfl, fun _ => rfl, rfl⟩
  case listeners =>
    intro entry listed
    have demanded := ((run.listsServers.lists number factory found).2 entry).mp listed
    have lists := run.listsServers.closeFactory number
    obtain ⟨listener, listener_found, -⟩ := lists.records.listener_of_lastRegistered demanded.1
    refine ⟨listener, listener_found, ?_⟩
    -- What is open and registered last would still be listed.
    by_contra isOpen
    have nowOpen : (mux.closeFactory number).2.hasOpen entry.2 := by
      simpa [Multiplexer.hasOpen, listener_found] using isOpen
    have still := ((lists.lists number _ bare).2 entry).mpr
      ⟨demanded.1, nowOpen, List.not_mem_nil⟩
    exact List.not_mem_nil still
  case clients =>
    intro client listed
    have demanded := ((run.listsClients.lists number factory found).2 client).mp listed
    have lists := run.listsClients.closeFactory number
    obtain ⟨row, row_found, -⟩ := lists.client_of_made demanded.1
    refine ⟨row, row_found, ?_⟩
    by_contra isOpen
    have nowOpen : (mux.closeFactory number).2.hasOpenClient client := by
      simpa [Multiplexer.hasOpenClient, row_found] using isOpen
    have still := ((lists.lists number _ bare).2 client).mpr
      ⟨demanded.1, nowOpen, List.not_mem_nil⟩
    exact List.not_mem_nil still
  case settled =>
    rw [again .nothing fun _ member => absurd member List.not_mem_nil]
    have kept : (mux.closeFactory number).2.factories.modify number Factory.forgetAuthority =
        (mux.closeFactory number).2.factories := by
      refine Table.modify_eq_self _ _ _ fun row present => ?_
      cases bare.symm.trans present
      rfl
    unfold Multiplexer.modifyFactory
    rw [kept]
  case again => exact again

/-- A factory with a listener and a client whose close is refused the return of the port:
it leaves nothing all the same, and a look-up of the assigner is all that the next close
undoes. -/
theorem Run.closeFactory_leavesNothing_refused :
    let actions := [.makeAssigner (.scripted [110000] fun _ => some .closed), .makeRootFactory,
      .createServer 0 0, .createClient 0 ⟨"localhost", 110000⟩]
    let mux := Multiplexer.blank.after actions
    let closed := (mux.closeFactory 0).2
    let after := closed.after [.findAssigner 0]
    ∃ factory, mux.factories.get? 0 = some factory ∧ factory.servers = [(110000, 0)] ∧
      factory.clients = [0] ∧ (mux.closeFactory 0).1 = .error .closed ∧
      closed.LeavesNothing 0 factory ∧
      after.closeFactory 0 = (.ok (), after.modifyFactory 0 Factory.forgetAuthority) := by
  intro actions mux closed after
  have registered : (mux.factories.get? 0).map
      (fun factory => (factory.servers, factory.clients)) = some ([(110000, 0)], [0]) := by
    decide
  obtain ⟨factory, found, same⟩ := Option.map_eq_some_iff.mp registered
  have leaves : closed.LeavesNothing 0 factory :=
    (Run.ofActions _ actions).closeFactory_leavesNothing found
  have refused : (mux.closeFactory 0).1 = .error .closed := rfl
  refine ⟨factory, found, congrArg Prod.fst same, congrArg Prod.snd same, refused, leaves, ?_⟩
  refine leaves.again (Run.ofActions closed [.findAssigner 0]) fun moment member => ?_
  obtain rfl := List.mem_singleton.mp member
  rintro (⟨creation, made, -⟩ | ⟨client, made⟩)
  · cases made
  · cases made

end SocketMux
