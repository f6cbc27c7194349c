import SocketMux.Proofs.Host.Listening
import SocketMux.Proofs.Lifecycle.Run

/-!
# What the operations of a multiplexer change

Each statement here gives the state after an operation as the state before it with some
fields replaced, so that all other fields are seen to be the same. Fields whose new
values do not matter are left open. Closing and dropping a listener share their first
three steps, `Multiplexer.detach`.
-/

namespace SocketMux

namespace Table

variable {α : Type}

/-- Changes that do the same to a row do the same to the table. -/
theorem modify_congr (table : Table α) (number : Nat) {change other : α → α}
    (same : ∀ row, table.get? number = some row → change row = other row) :
    table.modify number change = table.modify number other := by
  unfold modify
  congr 1
  apply List.ext_getElem?
  intro index
  rw [List.getElem?_modify, List.getElem?_modify]
  split
  · next asked =>
    subst asked
    cases found : table.rows[number]? with
    | none => rfl
    | some row => exact congrArg some (same row found)
  · rfl

/-- A change that leaves a row as it is changes nothing. -/
theorem modify_eq_self (table : Table α) (number : Nat) (change : α → α)
    (same : ∀ row, table.get? number = some row → change row = row) :
    table.modify number change = table := by
  have kept : table.modify number change = table.modify number id := table.modify_congr number same
  rw [kept]
  unfold modify List.modify
  rw [List.modifyHead_id, List.modifyTailIdx_id]

/-- Two changes of one row are one change. -/
theorem modify_modify (table : Table α) (number : Nat) (first second : α → α) :
    (table.modify number first).modify number second =
      table.modify number fun row => second (first row) := by
  unfold modify
  rw [List.modify_modify_eq]
  rfl

/-- A change of a row that is not there changes nothing. -/
theorem modify_of_absent {table : Table α} {number : Nat} (absent : table.get? number = none)
    (change : α → α) : table.modify number change = table := by
  refine table.modify_eq_self number change fun row there => ?_
  rw [absent] at there
  cases there

/-- Two changes that commute on each row may be made in either order. -/
theorem modify_comm (table : Table α) (first second : Nat) {former latter : α → α}
    (comm : ∀ row, latter (former row) = former (latter row)) :
    (table.modify first former).modify second latter =
      (table.modify second latter).modify first former := by
  by_cases same : first = second
  · subst same
    rw [modify_modify, modify_modify]
    exact congrArg (table.modify first) (funext comm)
  · unfold modify
    exact congrArg Table.mk (List.modify_modify_ne _ _ _ same)

/-- Rows whose marks are all different stand under different numbers. -/
theorem number_unique {β : Type} {mark : α → β} {table : Table α}
    (distinct : (table.rows.map mark).Nodup) {first second : Nat} {former latter : α}
    (firstFound : table.get? first = some former) (secondFound : table.get? second = some latter)
    (same : mark former = mark latter) : first = second := by
  have former_mark : (table.rows.map mark)[first]? = some (mark former) := by
    rw [List.getElem?_map]
    exact congrArg (Option.map mark) firstFound
  have latter_mark : (table.rows.map mark)[second]? = some (mark latter) := by
    rw [List.getElem?_map]
    exact congrArg (Option.map mark) secondFound
  have bounded := (List.getElem?_eq_some_iff.mp former_mark).1
  exact (List.getElem?_inj bounded distinct).mp (by rw [former_mark, latter_mark, same])

/-- A row that was added stands under the next number, and all others stand as before. -/
theorem get?_add (table : Table α) (row : α) (number : Nat) :
    (table.add row).2.get? number =
      if number = table.size then some row else table.get? number := by
  by_cases last : number = table.size
  · rw [if_pos last, last, get?_add_size]
  · rw [if_neg last]
    rcases Nat.lt_or_gt_of_ne last with bounded | beyond
    · exact get?_add_of_lt table row bounded
    · unfold size at beyond
      have absent : table.get? number = none := List.getElem?_eq_none (Nat.le_of_lt beyond)
      rw [absent]
      refine List.getElem?_eq_none ?_
      simp only [add, List.length_append, List.length_singleton]
      omega

end Table

/-- The port that a listener owes to the assigner it came from. -/
def MuxListener.owed? (listener : MuxListener) : Option (Nat × Port) :=
  listener.assigner.map fun assigner => (assigner, listener.port)

/-- The credentials that a factory remembers, each under its host and port. -/
def Factory.peers (factory : Factory) : List (HostAndPort × PeerCredentials) :=
  factory.credentials.entries

/-- A listener as it is after its close. -/
def MuxListener.closed (listener : MuxListener) : MuxListener := { listener with isClosed := true }

/-- A client as it is after its close. -/
def MuxClient.closed (client : MuxClient) : MuxClient := { client with isClosed := true }

namespace Host

/-- A host after the socket of a listener was closed and the file that it made removed,
if that was possible. -/
def withoutListener (host : Host) (listener : MuxListener) : Host :=
  let shut := host.closeSocket listener.socket
  match listener.fileNumber with
  | none => shut
  | some number => ((shut.removeNumbered listener.file number).toOption).getD shut

end Host

namespace Multiplexer

section Assigning

/-- Putting the state that a pool has changes nothing. -/
theorem setPool_same {mux : Multiplexer} {pool : Nat} {state : PortPool}
    (found : mux.pools.get? pool = some state) : mux.setPool pool state = mux := by
  have same : mux.pools.modify pool (fun _ => state) = mux.pools :=
    mux.pools.modify_eq_self pool _ fun row other => Option.some.inj (found.symm.trans other)
  rw [setPool, same]

/-- A request only changes the pools and the assigners. -/
theorem ask_eq (mux : Multiplexer) (assigner : Nat) (request : Authority.Request) :
    ∃ pools assigners, (mux.ask assigner request).2 = { mux with pools, assigners } := by
  have served : ∀ pool, ∃ pools, (mux.serveFrom pool request).2 = { mux with pools } := by
    intro pool
    unfold serveFrom
    split
    · exact ⟨_, rfl⟩
    · split <;> exact ⟨_, rfl⟩
  have exchanged : ∀ path, ∃ pools, (mux.exchange path request).2 = { mux with pools } := by
    intro path
    unfold exchange
    split
    · exact ⟨_, rfl⟩
    · split
      · exact ⟨_, rfl⟩
      · simp only [answerFrom]
        split <;> exact ⟨_, rfl⟩
  unfold ask
  split
  · exact ⟨_, _, rfl⟩
  · obtain ⟨pools, after⟩ := served _
    exact ⟨pools, _, after⟩
  · obtain ⟨pools, after⟩ := exchanged _
    exact ⟨pools, _, after⟩
  · exact ⟨_, _, rfl⟩

/-- Obtaining a port is one request. -/
theorem newPort_snd (mux : Multiplexer) (assigner : Nat) :
    (mux.newPort assigner).2 = (mux.ask assigner .newPort).2 := by
  unfold newPort
  split <;> simp_all

/-- Giving a port back is one request, which is noted down. -/
theorem returnPort_eq (mux : Multiplexer) (assigner : Nat) (port : Port) :
    ∃ pools assigners, (mux.returnPort assigner port).2 =
      { mux with pools, assigners, returned := (assigner, port) :: mux.returned } := by
  obtain ⟨pools, assigners, asked⟩ := mux.ask_eq assigner (.returnPort port)
  refine ⟨pools, assigners, ?_⟩
  unfold returnPort
  simp only [asked]

/-- A background task that gives a port back has it no longer due. -/
theorem returnOne_cases (mux : Multiplexer) (index : Nat) :
    mux.returnOne index = mux ∨
      ∃ entry pools assigners, mux.due[index]? = some entry ∧
        mux.returnOne index =
          { mux with
            pools
            assigners
            due := mux.due.eraseIdx index
            returned := entry :: mux.returned } := by
  unfold returnOne
  split
  · exact .inl rfl
  · next assigner port found =>
    obtain ⟨pools, assigners, after⟩ :=
      returnPort_eq { mux with due := mux.due.eraseIdx index } assigner port
    exact .inr ⟨(assigner, port), pools, assigners, found, after⟩

/-- Looking an assigner up may add it. -/
theorem lookUp_eq (mux : Multiplexer) (naming : Naming) :
    ∃ assigners, (mux.lookUp naming).2 = { mux with assigners } := by
  unfold lookUp
  split
  · exact ⟨_, rfl⟩
  · split <;> exact ⟨_, rfl⟩

/-- The assigner of a factory is found with no more change than that the factory
remembers it. -/
theorem assignerOf_eq (mux : Multiplexer) (number : Nat) :
    ∃ assigners remember, (mux.assignerOf number).2 =
        { mux with assigners, factories := mux.factories.modify number remember } ∧
      ∀ factory : Factory, ∃ authority, remember factory = { factory with authority } := by
  have same : mux.factories.modify number id = mux.factories :=
    Table.modify_eq_self _ _ _ fun _ _ => rfl
  unfold assignerOf
  split
  · exact ⟨mux.assigners, id, by rw [same], fun factory => ⟨factory.authority, rfl⟩⟩
  · next state _ =>
    split
    · exact ⟨mux.assigners, id, by rw [same], fun factory => ⟨factory.authority, rfl⟩⟩
    · obtain ⟨assigners, found⟩ := mux.lookUp_eq state.naming
      split
      · next looked =>
        rw [looked] at found
        exact ⟨assigners, id, by rw [same]; exact found, fun factory => ⟨factory.authority, rfl⟩⟩
      · next assigner after looked =>
        rw [looked] at found
        refine ⟨assigners, fun state => { state with authority := some assigner }, ?_,
          fun factory => ⟨some assigner, rfl⟩⟩
        have after_eq : after = { mux with assigners } := found
        rw [after_eq]
        rfl

end Assigning

section Closing

/-- The steps that closing and dropping a listener share: its socket is closed, its file
removed and its registration dropped. -/
def detach (mux : Multiplexer) (number : Nat) (listener : MuxListener) : Multiplexer :=
  ((mux.shutListener number listener).removeOwnFile listener).2.unregister number listener

/-- The factories after the registration of a listener was dropped. -/
def factoriesWithout (mux : Multiplexer) (number : Nat) (listener : MuxListener) :
    Table Factory :=
  if listener.registered then
    mux.factories.modify listener.factory fun factory =>
      factory.unregisterServer listener.port number
  else mux.factories

theorem detach_eq (mux : Multiplexer) (number : Nat) (listener : MuxListener) :
    mux.detach number listener =
      { mux with
        host := mux.host.withoutListener listener
        listeners := mux.listeners.modify number MuxListener.closed
        factories := mux.factoriesWithout number listener } := by
  have removed : ((mux.shutListener number listener).removeOwnFile listener).2 =
      { mux with
        host := mux.host.withoutListener listener
        listeners := mux.listeners.modify number MuxListener.closed } := by
    simp only [removeOwnFile, shutListener, Host.withoutListener]
    cases listener.fileNumber with
    | none => rfl
    | some fileNumber =>
      simp only
      cases (mux.host.closeSocket listener.socket).removeNumbered listener.file fileNumber <;> rfl
  unfold detach
  rw [removed]
  unfold unregister factoriesWithout
  cases listener.registered <;> rfl

/-- A close finds no listener, or one that is closed, and then does nothing. -/
theorem closeListener_of_not_open {mux : Multiplexer} {number : Nat}
    (shut : ∀ listener, mux.listeners.get? number = some listener → listener.isClosed = true) :
    (mux.closeListener number).2 = mux := by
  unfold closeListener
  split
  · rfl
  · next listener found => rw [if_pos (shut listener found)]

/-- The close of an open listener also gives its port back. -/
theorem closeListener_of_open {mux : Multiplexer} {number : Nat} {listener : MuxListener}
    (found : mux.listeners.get? number = some listener) (isOpen : listener.isClosed = false) :
    (mux.closeListener number).2 = ((mux.detach number listener).giveBack listener).2 := by
  unfold closeListener
  simp only [found, isOpen, Bool.false_eq_true, if_false]
  rfl

/-- Giving an anonymous port back is noted down. -/
theorem giveBack_eq (mux : Multiplexer) (listener : MuxListener) :
    ∃ pools assigners, (mux.giveBack listener).2 =
      { mux with pools, assigners, returned := listener.owed?.toList ++ mux.returned } := by
  unfold giveBack MuxListener.owed?
  cases listener.assigner with
  | none => exact ⟨_, _, rfl⟩
  | some assigner => exact mux.returnPort_eq assigner listener.port

/-- A listener is open, or it is not there or closed already. -/
theorem open_or_shut (mux : Multiplexer) (number : Nat) :
    (∃ listener, mux.listeners.get? number = some listener ∧ listener.isClosed = false) ∨
      ∀ listener, mux.listeners.get? number = some listener → listener.isClosed = true := by
  cases found : mux.listeners.get? number with
  | none => exact .inr nofun
  | some listener =>
    cases isOpen : listener.isClosed with
    | false => exact .inl ⟨listener, rfl, isOpen⟩
    | true => exact .inr fun other same => by cases same; exact isOpen

/-- A close changes nothing, or it ends an open listener and gives its port back. -/
theorem closeListener_cases (mux : Multiplexer) (number : Nat) :
    ((∀ listener, mux.listeners.get? number = some listener → listener.isClosed = true) ∧
      (mux.closeListener number).2 = mux) ∨
      ∃ listener pools assigners, mux.listeners.get? number = some listener ∧
        listener.isClosed = false ∧
        (mux.closeListener number).2 =
          { mux with
            host := mux.host.withoutListener listener
            listeners := mux.listeners.modify number MuxListener.closed
            factories := mux.factoriesWithout number listener
            pools
            assigners
            returned := listener.owed?.toList ++ mux.returned } := by
  rcases mux.open_or_shut number with ⟨listener, found, isOpen⟩ | shut
  · obtain ⟨pools, assigners, after⟩ := (mux.detach number listener).giveBack_eq listener
    refine .inr ⟨listener, pools, assigners, found, isOpen, ?_⟩
    rw [closeListener_of_open found isOpen, after, detach_eq]
  · exact .inl ⟨shut, closeListener_of_not_open shut⟩

theorem dropListener_of_not_open {mux : Multiplexer} {number : Nat} {hasTasks : Bool}
    (shut : ∀ listener, mux.listeners.get? number = some listener → listener.isClosed = true) :
    mux.dropListener number hasTasks = mux := by
  unfold dropListener
  split
  · rfl
  · next listener found => rw [if_pos (shut listener found)]

/-- Dropping an open listener leaves its port to a background task, if there is one. -/
theorem dropListener_of_open {mux : Multiplexer} {number : Nat} {hasTasks : Bool}
    {listener : MuxListener} (found : mux.listeners.get? number = some listener)
    (isOpen : listener.isClosed = false) :
    mux.dropListener number hasTasks =
      { mux.detach number listener with
        due := mux.due ++ if hasTasks then listener.owed?.toList else [] } := by
  have detached := mux.detach_eq number listener
  unfold dropListener
  simp only [found, isOpen, Bool.false_eq_true, if_false]
  have unfolded : ((mux.shutListener number listener).removeOwnFile listener).2.unregister number
      listener = mux.detach number listener := rfl
  rw [unfolded, detached]
  unfold MuxListener.owed?
  cases listener.assigner <;> cases hasTasks <;> simp

/-- A drop changes nothing, or it ends an open listener whose port a background task may
give back. -/
theorem dropListener_cases (mux : Multiplexer) (number : Nat) (hasTasks : Bool) :
    ((∀ listener, mux.listeners.get? number = some listener → listener.isClosed = true) ∧
      mux.dropListener number hasTasks = mux) ∨
      ∃ listener, mux.listeners.get? number = some listener ∧ listener.isClosed = false ∧
        mux.dropListener number hasTasks =
          { mux with
            host := mux.host.withoutListener listener
            listeners := mux.listeners.modify number MuxListener.closed
            factories := mux.factoriesWithout number listener
            due := mux.due ++ if hasTasks then listener.owed?.toList else [] } := by
  rcases mux.open_or_shut number with ⟨listener, found, isOpen⟩ | shut
  · refine .inr ⟨listener, found, isOpen, ?_⟩
    rw [dropListener_of_open found isOpen, detach_eq]
  · exact .inl ⟨shut, dropListener_of_not_open shut⟩

/-- A close finds no client, or one that is closed, and then does nothing. -/
theorem closeClient_of_not_open {mux : Multiplexer} {number : Nat}
    (shut : ∀ client, mux.clients.get? number = some client → client.isClosed = true) :
    mux.closeClient number = mux := by
  unfold closeClient
  split
  · rfl
  · next client found => rw [if_pos (shut client found)]

theorem closeClient_of_open {mux : Multiplexer} {number : Nat} {client : MuxClient}
    (found : mux.clients.get? number = some client) (isOpen : client.isClosed = false) :
    mux.closeClient number =
      { mux with
        clients := mux.clients.modify number MuxClient.closed
        host := mux.host.modifyConnection client.connection Connection.endAll
        factories := mux.factories.modify client.factory fun factory =>
          factory.unregisterClient number client.key } := by
  unfold closeClient
  simp only [found, isOpen, Bool.false_eq_true, if_false]
  rfl

/-- A close changes nothing, or it ends an open client. -/
theorem closeClient_cases (mux : Multiplexer) (number : Nat) :
    ((∀ client, mux.clients.get? number = some client → client.isClosed = true) ∧
      mux.closeClient number = mux) ∨
      ∃ client, mux.clients.get? number = some client ∧ client.isClosed = false ∧
        mux.closeClient number =
          { mux with
            clients := mux.clients.modify number MuxClient.closed
            host := mux.host.modifyConnection client.connection Connection.endAll
            factories := mux.factories.modify client.factory fun factory =>
              factory.unregisterClient number client.key } := by
  cases found : mux.clients.get? number with
  | none =>
    refine .inl ⟨nofun, closeClient_of_not_open fun client present => ?_⟩
    rw [found] at present
    cases present
  | some client =>
    cases isOpen : client.isClosed with
    | false => exact .inr ⟨client, rfl, isOpen, closeClient_of_open found isOpen⟩
    | true =>
      have shut : ∀ other, some client = some other → other.isClosed = true :=
        fun other same => by cases same; exact isOpen
      exact .inl ⟨shut, closeClient_of_not_open fun other present => shut other (found ▸ present)⟩

/-- Dropping a client closes it and lets go of its connection. -/
theorem dropClient_eq (mux : Multiplexer) (number : Nat) :
    ∃ host, (mux.closeClient number).host.SameListening host ∧
      mux.dropClient number = { mux.closeClient number with host } := by
  simp only [dropClient]
  split
  · exact ⟨_, .refl _, rfl⟩
  · refine ⟨_, ?_, rfl⟩
    exact Host.release_listening _ _ _

/-- A factory that is off its coordinator. -/
def unlisted (factory : Factory) : Factory := { factory with registration := none }

theorem withdraw_eq (mux : Multiplexer) (number : Nat) :
    ∃ coordinators, mux.withdraw number =
      { mux with coordinators, factories := mux.factories.modify number unlisted } := by
  unfold withdraw
  split
  · next absent =>
    have same : mux.factories.modify number unlisted = mux.factories := by
      refine Table.modify_eq_self _ _ _ fun factory found => ?_
      have none : factory.registration = none := by simpa [found] using absent
      simp [unlisted, ← none]
    exact ⟨mux.coordinators, by rw [same]⟩
  · exact ⟨_, rfl⟩

end Closing

section Serving

theorem acceptOn_eq (mux : Multiplexer) (number : Nat) :
    ∃ host, mux.host.SameListening host ∧ (mux.acceptOn number).2 = { mux with host } := by
  unfold acceptOn
  split
  · exact ⟨_, .refl _, rfl⟩
  · split
    · exact ⟨_, .refl _, rfl⟩
    · exact ⟨_, Host.accept_listening _ _, rfl⟩

theorem beginAcceptOn_eq (mux : Multiplexer) (number : Nat) :
    ∃ host, mux.host.SameListening host ∧ (mux.beginAcceptOn number).2 = { mux with host } := by
  refine ⟨_, ?_, rfl⟩
  split
  · exact Host.noteAccept_listening _ _
  · split
    · exact Host.noteAccept_listening _ _
    · exact Host.beginAccept_listening _ _

/-- Serving connections changes pools and what is on the connections. -/
theorem serveConnections_eq (mux : Multiplexer) (served : List ServedConnection) :
    ∃ connections pools, connections.size = mux.host.connections.size ∧
      (mux.serveConnections served).2 = { mux with host := { mux.host with connections }, pools } := by
  have one : ∀ (mux : Multiplexer) served, ∃ connections pools,
      connections.size = mux.host.connections.size ∧
        (mux.serveConnection served).2 =
          { mux with host := { mux.host with connections }, pools } := by
    intro mux served
    simp only [serveConnection]
    split
    · exact ⟨_, _, rfl, rfl⟩
    · simp only [answerFrom]
      split <;> split <;> exact ⟨_, _, Table.size_modify _ _ _, rfl⟩
  induction served generalizing mux with
  | nil => exact ⟨_, _, rfl, rfl⟩
  | cons first others inductionHypothesis =>
    obtain ⟨connections, pools, same, first_eq⟩ := one mux first
    obtain ⟨later, morePools, sameToo, others_eq⟩ :=
      inductionHypothesis (mux.serveConnection first).2
    refine ⟨later, morePools, ?_, ?_⟩
    · rw [first_eq] at sameToo
      exact sameToo.trans same
    · change ((mux.serveConnection first).2.serveConnections others).2 = _
      rw [others_eq, first_eq]

/-- Authorities that serve change pools, connections and what waits at sockets. -/
theorem serveAll_eq (mux : Multiplexer) :
    ∃ host pools served, mux.host.SameListening host ∧
      mux.serveAll = { mux with host, pools, served } := by
  have accepted : ∀ (authorities : List AuthorityServer) (mux : Multiplexer),
      ∃ host served, mux.host.SameListening host ∧
        authorities.foldl acceptServed mux = { mux with host, served } := by
    intro authorities
    induction authorities with
    | nil => exact fun mux => ⟨_, _, .refl _, rfl⟩
    | cons first others inductionHypothesis =>
      intro mux
      have one : ∃ host served, mux.host.SameListening host ∧
          mux.acceptServed first = { mux with host, served } := by
        unfold acceptServed
        split
        · exact ⟨_, _, .refl _, rfl⟩
        · refine ⟨_, _, ?_, rfl⟩
          exact .of_eq rfl (Host.spots_modify mux.host _ _ _ fun _ => rfl)
      obtain ⟨host, served, same, first_eq⟩ := one
      obtain ⟨later, servedToo, sameToo, others_eq⟩ := inductionHypothesis (mux.acceptServed first)
      rw [first_eq] at sameToo
      refine ⟨later, servedToo, same.trans sameToo, ?_⟩
      rw [List.foldl_cons, others_eq, first_eq]
  obtain ⟨host, served, same, accepted_eq⟩ := accepted mux.authorities.rows mux
  unfold serveAll
  simp only [accepted_eq]
  obtain ⟨connections, pools, -, served_eq⟩ :=
    serveConnections_eq { mux with host, served := [] } served
  have sameToo : host.SameListening { host with connections } := .of_eq rfl rfl
  exact ⟨_, pools, _, same.trans sameToo, by rw [served_eq]⟩

/-- Starting an authority changes the host and adds at most one authority. -/
theorem startAuthority_eq (mux : Multiplexer) (path : Path) (pool : Nat) :
    ∃ host authorities, (mux.startAuthority path pool).2 = { mux with host, authorities } := by
  unfold startAuthority
  split
  · exact ⟨_, _, rfl⟩
  · split <;> exact ⟨_, _, rfl⟩

theorem shutDownAuthority_eq (mux : Multiplexer) (number : Nat) :
    ∃ host authorities, (mux.shutDownAuthority number).2 = { mux with host, authorities } := by
  unfold shutDownAuthority
  split
  · exact ⟨_, _, rfl⟩
  · split
    · exact ⟨_, _, rfl⟩
    · simp only
      split <;> exact ⟨_, _, rfl⟩

theorem dropAuthority_eq (mux : Multiplexer) (number : Nat) :
    ∃ host, mux.dropAuthority number = { mux with host } := by
  unfold dropAuthority
  split <;> exact ⟨_, rfl⟩

end Serving

end Multiplexer

end SocketMux
