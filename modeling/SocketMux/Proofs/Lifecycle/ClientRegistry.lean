import SocketMux.Proofs.Lifecycle.ServerRegistry

/-!
# The clients that factories list

A factory lists all clients that it made and that are open (`Multiplexer.ListsClients`).
As with listeners, a factory that closes has already forgotten clients that are still open.
Every run keeps the invariant (`Run.listsClients`).
-/

namespace SocketMux

namespace Multiplexer

/-- Whether a client was made and is open. -/
def hasOpenClient (mux : Multiplexer) (number : Nat) : Bool :=
  (mux.clients.get? number).any fun client => !client.isClosed

/-- The factories and numbers of all clients. -/
def clientOrigins (mux : Multiplexer) : List (Nat × Nat) :=
  mux.clients.rows.zipIdx.map fun (client, number) => (client.factory, number)

theorem mem_clientOrigins {mux : Multiplexer} {factory number : Nat} :
    (factory, number) ∈ mux.clientOrigins ↔
      ∃ client, mux.clients.get? number = some client ∧ client.factory = factory := by
  simp only [clientOrigins, List.mem_map, Prod.exists, List.mem_zipIdx_iff_getElem?, Table.get?,
    Prod.mk.injEq]
  constructor
  · rintro ⟨client, index, found, rfl, rfl⟩
    exact ⟨client, found, rfl⟩
  · rintro ⟨client, found, rfl⟩
    exact ⟨client, number, found, rfl, rfl⟩

/-- Closing a client keeps its factory. -/
theorem clientOrigins_modify (mux : Multiplexer) (number : Nat) :
    clientOrigins { mux with clients := mux.clients.modify number MuxClient.closed } =
      mux.clientOrigins :=
  mux.clients.map_zipIdx_modify number _ fun _ _ => rfl

/-- A new client comes after all others. -/
theorem clientOrigins_add (mux : Multiplexer) (client : MuxClient) :
    clientOrigins { mux with clients := (mux.clients.add client).2 } =
      mux.clientOrigins ++ [(client.factory, mux.clients.size)] := by
  simp [clientOrigins, Table.add, Table.size, List.zipIdx_append]

/-- Every number occurs once among the clients. -/
theorem clientOrigins_numbers (mux : Multiplexer) :
    (mux.clientOrigins.map Prod.snd).Nodup := by
  have numbers : mux.clientOrigins.map Prod.snd = List.range mux.clients.size := by
    rw [clientOrigins, List.map_map, Table.size, List.range_eq_range', ← List.zipIdx_map_snd]
    rfl
  rw [numbers]
  exact List.nodup_range

/-- A client that was closed is not open, and all others are as before. -/
theorem hasOpenClient_closed (mux : Multiplexer) (number other : Nat) :
    hasOpenClient { mux with clients := mux.clients.modify number MuxClient.closed } other =
      (mux.hasOpenClient other && number != other) := by
  unfold hasOpenClient
  rw [Table.get?_modify]
  by_cases asked : number = other
  · subst asked
    cases mux.clients.get? number <;> simp [MuxClient.closed]
  · cases mux.clients.get? other <;> simp [asked]

/-- A new client is open, and all others are as before. -/
theorem hasOpenClient_add (mux : Multiplexer) (client : MuxClient)
    (isOpen : client.isClosed = false) (number : Nat) :
    hasOpenClient { mux with clients := (mux.clients.add client).2 } number =
      (number == mux.clients.size || mux.hasOpenClient number) := by
  unfold hasOpenClient
  rw [Table.get?_add]
  by_cases asked : number = mux.clients.size
  · simp [asked, isOpen]
  · simp [asked]

/-- The clients that a factory should have. -/
def ClientListed (made : List (Nat × Nat)) (isOpen : Nat → Bool) (forgotten : List Nat)
    (factory client : Nat) : Prop :=
  (factory, client) ∈ made ∧ isOpen client ∧ client ∉ forgotten

/-- Factories list their open clients, but for those that are forgotten already. -/
structure ListsClients (mux : Multiplexer) (made : List (Nat × Nat)) (forgotten : List Nat) :
    Prop where
  records : made = mux.clientOrigins.reverse
  makers : ∀ entry ∈ made, entry.1 < mux.factories.size
  lists : Lists Factory.clients mux.factories (ClientListed made mux.hasOpenClient forgotten)

namespace ListsClients

variable {mux : Multiplexer} {made : List (Nat × Nat)} {forgotten others : List Nat}

/-- A client that was made is found in the table of clients. -/
theorem client_of_made (lists : mux.ListsClients made forgotten) {factory number : Nat}
    (member : (factory, number) ∈ made) :
    ∃ client, mux.clients.get? number = some client ∧ client.factory = factory := by
  rw [lists.records, List.mem_reverse] at member
  exact mem_clientOrigins.mp member

/-- Whatever leaves the clients and the entries alone keeps the lists. -/
theorem same (lists : mux.ListsClients made forgotten) {after : Multiplexer}
    (clients : after.clients = mux.clients)
    (entries : SameEntries Factory.clients mux.factories after.factories) :
    after.ListsClients made forgotten := by
  have origins : after.clientOrigins = mux.clientOrigins := by
    unfold clientOrigins
    rw [clients]
  have isOpen : after.hasOpenClient = mux.hasOpenClient := by
    unfold hasOpenClient
    rw [clients]
  refine ⟨by rw [origins]; exact lists.records, ?_, ?_⟩
  · exact fun entry member => Nat.lt_of_lt_of_le (lists.makers entry member) entries.size
  · apply lists.lists.same entries
    · exact fun number client listed => lists.makers _ listed.1
    · intro number client
      rw [isOpen]

/-- A change that leaves the entries of a factory alone. -/
theorem modifyFactory (lists : mux.ListsClients made forgotten) (number : Nat)
    (change : Factory → Factory) (kept : ∀ factory, (change factory).clients = factory.clients) :
    (mux.modifyFactory number change).ListsClients made forgotten :=
  lists.same rfl (.of_modify _ _ _ fun factory => .of_eq (kept factory))

/-- A close of a client that the factory has forgotten, or of any other one. -/
theorem closeClient (lists : mux.ListsClients made forgotten) (number : Nat)
    (apart : ∀ other, other ≠ number → (other ∈ forgotten ↔ other ∈ others)) :
    (mux.closeClient number).ListsClients made others := by
  obtain ⟨shut, unchanged⟩ | ⟨client, found, -, after⟩ := mux.closeClient_cases number
  · have closed : mux.hasOpenClient number = false := by
      unfold hasOpenClient
      cases found : mux.clients.get? number with
      | none => rfl
      | some client => simp [shut client found]
    rw [unchanged]
    refine ⟨lists.records, lists.makers, lists.lists.congr fun factory entry => ?_⟩
    unfold ClientListed
    by_cases asked : entry = number
    · simp [asked, closed]
    · rw [apart entry asked]
  · have demand : ∀ factory entry,
        ClientListed made (fun other => mux.hasOpenClient other && number != other) others
          factory entry ↔
        ClientListed made mux.hasOpenClient forgotten factory entry ∧ entry ≠ number := by
      intro factory entry
      unfold ClientListed
      by_cases asked : entry = number
      · simp [asked]
      · rw [apart entry asked]
        simp [asked, Ne.symm asked]
    rw [after]
    refine ⟨lists.records.trans (congrArg List.reverse (mux.clientOrigins_modify number).symm),
      ?_, ?_⟩
    · intro entry member
      rw [Table.size_modify]
      exact lists.makers entry member
    · have isOpen := funext (mux.hasOpenClient_closed number)
      unfold hasOpenClient at isOpen ⊢
      rw [isOpen]
      refine lists.lists.remove _ (fun _ => rfl) fun factory entry => ?_
      refine (demand factory entry).trans (and_congr_right fun listed => not_congr ?_)
      refine ⟨?_, And.right⟩
      rintro rfl
      obtain ⟨row, row_found, row_factory⟩ := lists.client_of_made listed.1
      cases found.symm.trans row_found
      exact ⟨row_factory.symm, rfl⟩

/-- Closing the forgotten clients in turn leaves nothing forgotten. -/
theorem closeClients {clients : List Nat} (lists : mux.ListsClients made clients) :
    (mux.closeClients clients).ListsClients made [] := by
  induction clients generalizing mux with
  | nil => exact lists
  | cons client rest inductionHypothesis =>
    refine inductionHypothesis (lists.closeClient client fun other differs => ?_)
    simp [differs]

theorem closeListener (lists : mux.ListsClients made forgotten) (number : Nat) :
    (mux.closeListener number).2.ListsClients made forgotten := by
  obtain ⟨-, unchanged⟩ | ⟨listener, pools, assigners, -, -, after⟩ :=
    mux.closeListener_cases number
  · rw [unchanged]
    exact lists
  · rw [after]
    exact lists.same rfl (mux.factoriesWithout_entries number listener fun _ _ => rfl)

theorem closeListeners (lists : mux.ListsClients made forgotten) (listeners : List Nat) :
    (mux.closeListeners listeners).2.ListsClients made forgotten := by
  induction listeners generalizing mux with
  | nil => exact lists
  | cons listener rest inductionHypothesis =>
    exact inductionHypothesis (lists.closeListener listener)

theorem withdraw (lists : mux.ListsClients made forgotten) (number : Nat) :
    (mux.withdraw number).ListsClients made forgotten := by
  obtain ⟨coordinators, after⟩ := mux.withdraw_eq number
  rw [after]
  exact lists.same rfl (.of_modify _ _ _ fun _ => .refl _)

/-- A factory that forgets its clients has them all in the list. -/
theorem forgetClients (lists : mux.ListsClients made []) (number : Nat)
    (change : Factory → Factory) (emptied : ∀ factory, (change factory).clients = []) :
    (mux.modifyFactory number change).ListsClients made
      ((mux.factories.get? number).elim [] Factory.clients) := by
  cases found : mux.factories.get? number with
  | none =>
    have same : mux.factories.modify number change = mux.factories :=
      Table.modify_eq_self _ _ _ fun factory present => by rw [found] at present; cases present
    unfold Multiplexer.modifyFactory
    rw [same]
    exact lists
  | some factory =>
    have members := (lists.lists number factory found).2
    refine ⟨lists.records, ?_, lists.lists.forget number emptied ?_ ?_⟩
    · intro entry member
      unfold Multiplexer.modifyFactory
      rw [Table.size_modify]
      exact lists.makers entry member
    · rintro entry ⟨member, isOpen, remembered⟩
      exact remembered ((members entry).mpr ⟨member, isOpen, List.not_mem_nil⟩)
    · intro other elsewhere client
      refine and_congr_right fun member => and_congr_right fun isOpen => ?_
      refine iff_of_true List.not_mem_nil fun forgotten => ?_
      obtain ⟨row, row_found, row_factory⟩ := lists.client_of_made member
      obtain ⟨same, same_found, same_factory⟩ :=
        lists.client_of_made ((members client).mp forgotten).1
      cases row_found.symm.trans same_found
      exact elsewhere (row_factory.symm.trans same_factory)

theorem closeFactory (lists : mux.ListsClients made []) (number : Nat) :
    (mux.closeFactory number).2.ListsClients made [] := by
  unfold Multiplexer.closeFactory
  split
  · exact lists
  · next factory found =>
    have unregistered := (lists.modifyFactory number
      (fun state => { state with credentials := .empty, authority := none, servers := [] })
      fun _ => rfl).closeListeners (factory.servers.map Prod.snd)
    have forgotten := unregistered.forgetClients number
      (fun state => { state with clients := [] }) fun _ => rfl
    exact forgotten.closeClients.withdraw number

/-- A client that is made is listed. -/
theorem createClient (lists : mux.ListsClients made []) (number : Nat) (key : HostAndPort) :
    (mux.createClient number key).2.ListsClients
      ((Moment.madeClient? ⟨mux, .createClient number key⟩).toList ++ made) [] := by
  simp only [Moment.madeClient?]
  obtain ⟨err, host, -, after⟩ | ⟨credentials, file, connection, host, -, known, after⟩ :=
    mux.createClient_cases number key
  · rw [after]
    exact lists.same rfl (.refl _)
  · have fresh : ∀ factory, (factory, mux.clients.size) ∉ made := by
      intro factory member
      obtain ⟨row, found, -⟩ := lists.client_of_made member
      exact Nat.lt_irrefl _ (List.getElem?_eq_some_iff.mp found).1
    have demand : ∀ factory client,
        ClientListed ((number, mux.clients.size) :: made)
          (fun client => client == mux.clients.size || mux.hasOpenClient client) [] factory client ↔
        (factory = number ∧ client = mux.clients.size) ∨
          ClientListed made mux.hasOpenClient [] factory client := by
      intro factory client
      unfold ClientListed
      by_cases asked : client = mux.clients.size
      · subst asked
        simp [fresh factory]
      · simp [asked]
    rw [after]
    refine ⟨?_, ?_, ?_⟩
    · have origins := mux.clientOrigins_add ⟨number, key, credentials, file, connection, false⟩
      have extended := congrArg List.reverse origins
      rw [List.reverse_append, ← lists.records] at extended
      exact extended.symm
    · simp only [Except.toOption, Option.map_some, Option.toList_some, List.singleton_append,
        Table.size_modify]
      exact List.forall_mem_cons.mpr ⟨known, lists.makers⟩
    · have nowOpen := funext
        (mux.hasOpenClient_add ⟨number, key, credentials, file, connection, false⟩ rfl)
      unfold hasOpenClient at nowOpen demand ⊢
      rw [nowOpen]
      exact lists.lists.add number (fun _ => rfl) (fun listed => fresh number listed.1) demand

end ListsClients

/-- A call for a server leaves the clients alone. -/
theorem Creates.listsClients {mux after : Multiplexer} {number : Nat} {factory : Factory}
    {creation : Option Creation} {made : List (Nat × Nat)}
    (creates : Creates mux number factory creation after) (lists : mux.ListsClients made []) :
    after.ListsClients made [] := by
  have remembered : ∀ remember, Remembers remember →
      SameEntries Factory.clients mux.factories (mux.factories.modify number remember) :=
    fun _ remembers => .of_remembers _ _ remembers fun _ _ => rfl
  have prepares : ∀ {port bound : Port} {issuer : Option Nat} {ready : Multiplexer},
      mux.prepare number factory port = (some (issuer, bound), ready) →
        ready.ListsClients made [] := by
    intro port bound issuer ready prepared
    obtain ⟨pools, assigners, remember, remembers, rfl⟩ := ready_eq prepared
    exact lists.same rfl (remembered _ remembers)
  cases creates with
  | nothing remembers => exact lists.same rfl (remembered _ remembers)
  | @failed port bound issuer ready err host prepared unbound =>
    obtain ⟨pools, assigners, refunded⟩ := refund_eq { ready with host } issuer bound
    rw [refunded]
    exact (prepares prepared).same rfl (.refl _)
  | @made port bound issuer ready socket host prepared bind =>
    refine (prepares prepared).same rfl ?_
    unfold enlist
    simp only
    split
    · exact .of_modify _ _ _ fun _ => .refl _
    · exact .refl _

/-- Every action keeps the lists. -/
theorem ListsClients.perform {mux : Multiplexer} {made : List (Nat × Nat)}
    (lists : mux.ListsClients made []) (action : Action) :
    (mux.perform action).ListsClients
      ((Moment.madeClient? ⟨mux, action⟩).toList ++ made) [] := by
  by_cases quiet : action.isQuiet = true
  · obtain ⟨_, _, _, _, _, _, _, _, registries, after⟩ := mux.perform_quiet quiet
    rw [after, Moment.madeClient?_of_quiet mux quiet]
    exact lists.same rfl registries.clients
  cases action with
  | createServer number port =>
    cases found : mux.factories.get? number with
    | none =>
      simp only [Multiplexer.perform, createServer, found]
      exact lists
    | some factory => exact (createServer_creates port found).listsClients lists
  | createClient number key => exact lists.createClient number key
  | createClientShort number key shortage =>
    obtain ⟨host, forget, forgets, -, after⟩ := mux.createClient_short number key shortage
    simp only [Multiplexer.perform, after]
    exact lists.same rfl (.of_forgets _ _ forgets fun _ _ => rfl)
  | closeListener number => exact lists.closeListener number
  | dropListener number hasTasks =>
    obtain ⟨-, unchanged⟩ | ⟨listener, -, -, after⟩ := mux.dropListener_cases number hasTasks
    · simp only [Multiplexer.perform, unchanged]
      exact lists
    · simp only [Multiplexer.perform, after]
      exact lists.same rfl (mux.factoriesWithout_entries number listener fun _ _ => rfl)
  | closeClient number => exact lists.closeClient number fun _ _ => .rfl
  | dropClient number =>
    obtain ⟨host, -, after⟩ := mux.dropClient_eq number
    simp only [Multiplexer.perform, after]
    exact (lists.closeClient number fun _ _ => .rfl).same rfl (.refl _)
  | closeFactory number => exact lists.closeFactory number
  | dropFactory number =>
    exact (lists.withdraw number).modifyFactory number
      (fun state => { state with isHeld := false }) fun _ => rfl
  | shutDownAll coordinator =>
    apply shutDownAll_induction (motive := fun mux => mux.ListsClients made []) _ _ lists
    · exact fun number lists => lists.closeFactory number
    · exact fun _ lists => lists.same rfl (.refl _)
  | returnOne index =>
    obtain unchanged | ⟨entry, pools, assigners, -, after⟩ := mux.returnOne_cases index
    · simp only [Multiplexer.perform, unchanged]
      exact lists
    · simp only [Multiplexer.perform, after]
      exact lists.same rfl (.refl _)
  | _ => exact absurd rfl quiet

end Multiplexer

/-- In every run factories list their open clients. -/
theorem Run.listsClients {host : Host} {own : PeerCredentials} {history : History}
    {mux : Multiplexer} (run : Run (.initial host own) history mux) :
    mux.ListsClients history.madeClients [] := by
  induction run with
  | nothing =>
    refine ⟨rfl, nofun, fun number factory found => ?_⟩
    simp [Multiplexer.initial, Table.get?, Table.empty] at found
  | more _ action inductionHypothesis =>
    rw [History.madeClients_cons]
    exact inductionHypothesis.perform action

end SocketMux
