import SocketMux.Proofs.Lifecycle.Ledger
import SocketMux.Proofs.Lifecycle.Sockets
import SocketMux.Proofs.Pool

/-!
# A pool that factories share

Factories that have all their ports from one pool are the only ones to ask it. Then every
port in use is in exactly one place: with an open listener, due to a background task, or
elsewhere. `Multiplexer.Shared` is this balance. A port is elsewhere while it is on its way
from one place to the next, and for good if it is lost, so every operation is a sequence of
single moves: a port is issued, bound, let go of, put down as due, and returned.
-/

namespace SocketMux

/-- The port of a listener that is open. -/
def MuxListener.openPort? (listener : MuxListener) : Option Port :=
  if listener.isClosed then none else some listener.port

namespace Multiplexer

/-- The ports of all open listeners. -/
def listenedPorts (mux : Multiplexer) : List Port :=
  mux.listeners.rows.filterMap MuxListener.openPort?

/-- The state of a pool. One that was not made yet is as it will be made. -/
def poolAt (mux : Multiplexer) (pool : Nat) : PortPool := (mux.pools.get? pool).getD .initial

/-- An assigner has its ports from a pool at hand. -/
def AssignsFrom (mux : Multiplexer) (pool assigner : Nat) : Prop :=
  mux.assigners.get? assigner = some (.pooled pool)

/-- A pool that has issued a number of ports, all of which go back to it, is asked by nobody
but factories. The ports in use are with open listeners, due or elsewhere. -/
structure Shared (pool count : Nat) (elsewhere : List Port) (mux : Multiplexer) : Prop where
  issued : PortPool.Issued count (mux.poolAt pool)
  balance : ∀ port, mux.listenedPorts.count port + (mux.due.map Prod.snd).count port +
    elsewhere.count port = (mux.poolAt pool).held.count port
  remembered : ∀ {number factory assigner}, mux.factories.get? number = some factory →
    factory.authority = some assigner → mux.AssignsFrom pool assigner
  owed : ∀ {number listener}, mux.listeners.get? number = some listener →
    ∃ assigner, listener.assigner = some assigner ∧ mux.AssignsFrom pool assigner
  due : ∀ entry ∈ mux.due, mux.AssignsFrom pool entry.1
  noAuthority : mux.authorities.rows = []
  noneServed : mux.served = []

/-- Two states between which no port of a pool moves, though factories may come to remember
assigners that have their ports from it. -/
structure SamePool (pool : Nat) (before after : Multiplexer) : Prop where
  state : after.poolAt pool = before.poolAt pool
  assigners : ∀ {assigner}, before.AssignsFrom pool assigner → after.AssignsFrom pool assigner
  factories : ∀ {number factory assigner}, after.factories.get? number = some factory →
    factory.authority = some assigner → before.AssignsFrom pool assigner ∨
      ∃ former, before.factories.get? number = some former ∧ former.authority = some assigner
  listeners : after.listeners = before.listeners
  due : after.due = before.due
  authorities : after.authorities = before.authorities
  served : after.served = before.served

/-- A change of one factory lets it at most forget its assigner. -/
theorem authority_of_modify {factories : Table Factory} {changed : Nat}
    {change : Factory → Factory} {number assigner : Nat} {factory : Factory}
    (found : (factories.modify changed change).get? number = some factory)
    (remembers : factory.authority = some assigner) (kept : ∀ factory,
      (change factory).authority = factory.authority ∨ (change factory).authority = none) :
    ∃ former, factories.get? number = some former ∧ former.authority = some assigner := by
  rw [Table.get?_modify] at found
  split at found
  · obtain ⟨former, former_found, rfl⟩ := Option.map_eq_some_iff.mp found
    rcases kept former with same | none
    · exact ⟨former, former_found, same ▸ remembers⟩
    · rw [none] at remembers
      cases remembers
  · exact ⟨factory, found, remembers⟩

/-- A new factory that remembers no assigner. -/
theorem authority_of_add {factories : Table Factory} {fresh : Factory} {number assigner : Nat}
    {factory : Factory} (found : (factories.add fresh).2.get? number = some factory)
    (remembers : factory.authority = some assigner) (forgetful : fresh.authority = none) :
    ∃ former, factories.get? number = some former ∧ former.authority = some assigner := by
  rw [Table.get?_add] at found
  split at found
  · injection found with same
    rw [← same, forgetful] at remembers
    cases remembers
  · exact ⟨factory, found, remembers⟩

/-- Nothing but the factories, the host, the clients and the coordinators has changed. -/
theorem SamePool.of_factories {pool : Nat} {mux : Multiplexer} (host : Host)
    (clients : Table MuxClient) (coordinators : Table (ShutdownCoordinator Nat))
    {factories : Table Factory}
    (kept : ∀ {number factory assigner}, factories.get? number = some factory →
      factory.authority = some assigner → mux.AssignsFrom pool assigner ∨
        ∃ former, mux.factories.get? number = some former ∧ former.authority = some assigner) :
    SamePool pool mux { mux with host, clients, coordinators, factories } :=
  ⟨rfl, id, kept, rfl, rfl, rfl, rfl⟩

/-- Nothing but the host has changed. -/
theorem SamePool.of_host {pool : Nat} {mux : Multiplexer} (host : Host) :
    SamePool pool mux { mux with host } :=
  .of_factories host mux.clients mux.coordinators fun found remembers =>
    .inr ⟨_, found, remembers⟩

/-- A pooled assigner hands out what its pool allocates. -/
theorem newPort_pooled {mux : Multiplexer} {pool assigner : Nat}
    (pooled : mux.AssignsFrom pool assigner) :
    mux.newPort assigner =
      match mux.pools.get? pool with
      | none => (.error (.unavailable .poolClosed), mux)
      | some state =>
        match state.allocate with
        | .ok (port, state) => (.ok port, mux.setPool pool state)
        | .error err => (.error err, mux) := by
  unfold AssignsFrom at pooled
  simp only [newPort, ask, pooled, serveFrom, Authority.Request.serve]
  cases mux.pools.get? pool with
  | none => rfl
  | some state =>
    simp only
    cases state.allocate <;> rfl

/-- A port that goes back through a pooled assigner is released by its pool. -/
theorem returnPort_pooled {mux : Multiplexer} {pool assigner : Nat} (port : Port)
    (pooled : mux.AssignsFrom pool assigner) :
    (mux.returnPort assigner port).2 =
      { mux with
        pools :=
          match mux.pools.get? pool with
          | none => mux.pools
          | some state =>
            match state.release port with
            | .ok (_, state) => mux.pools.modify pool fun _ => state
            | .error _ => mux.pools
        returned := (assigner, port) :: mux.returned } := by
  unfold AssignsFrom at pooled
  simp only [returnPort, ask, pooled, serveFrom, Authority.Request.serve]
  cases mux.pools.get? pool with
  | none => rfl
  | some state =>
    simp only
    cases state.release port <;> rfl

theorem poolAt_setPool {mux : Multiplexer} {pool : Nat} {before : PortPool}
    (found : mux.pools.get? pool = some before) (state : PortPool) :
    (mux.setPool pool state).poolAt pool = state := by
  simp [poolAt, setPool, found]

/-- Closing a listener takes its port from the open ones. -/
theorem count_listenedPorts {mux : Multiplexer} {number : Nat} {listener : MuxListener}
    (found : mux.listeners.get? number = some listener) (isOpen : listener.isClosed = false)
    (port : Port) :
    mux.listenedPorts.count port =
      ((mux.listeners.modify number MuxListener.closed).rows.filterMap
        MuxListener.openPort?).count port + [listener.port].count port := by
  have changed := count_filterMap_modify MuxListener.openPort? MuxListener.closed port found
  have before : listener.openPort? = some listener.port := by
    simp [MuxListener.openPort?, isOpen]
  have after : listener.closed.openPort? = none := rfl
  rw [before, after] at changed
  exact changed.symm

namespace Shared

variable {pool count : Nat} {elsewhere : List Port} {mux after : Multiplexer}

/-- Where no port moves, the balance stays. -/
theorem same (shared : mux.Shared pool count elsewhere) (same : SamePool pool mux after) :
    after.Shared pool count elsewhere where
  issued := by
    rw [same.state]
    exact shared.issued
  balance port := by
    unfold listenedPorts
    rw [same.listeners, same.due, same.state]
    exact shared.balance port
  remembered found remembers := by
    rcases same.factories found remembers with pooled | ⟨former, former_found, remembered⟩
    · exact same.assigners pooled
    · exact same.assigners (shared.remembered former_found remembered)
  owed found := by
    rw [same.listeners] at found
    obtain ⟨assigner, owes, pooled⟩ := shared.owed found
    exact ⟨assigner, owes, same.assigners pooled⟩
  due entry member := by
    rw [same.due] at member
    exact same.assigners (shared.due entry member)
  noAuthority := by
    rw [same.authorities]
    exact shared.noAuthority
  noneServed := by
    rw [same.served]
    exact shared.noneServed

/-- The next port is issued, and is elsewhere first. -/
theorem newPort (shared : mux.Shared pool count elsewhere) (more : count < PortPool.capacity)
    {assigner : Nat} (pooled : mux.AssignsFrom pool assigner) :
    ((∃ err, (mux.newPort assigner).1 = .error err) ∧ (mux.newPort assigner).2 = mux) ∨
      ((mux.newPort assigner).1 = .ok (PortPool.nth count) ∧
        (mux.newPort assigner).2.AssignsFrom pool assigner ∧
        (mux.newPort assigner).2.Shared pool (count + 1) (PortPool.nth count :: elsewhere)) := by
  rw [newPort_pooled pooled]
  cases found : mux.pools.get? pool with
  | none => exact .inl ⟨⟨_, rfl⟩, rfl⟩
  | some state =>
    have state_eq : mux.poolAt pool = state := by simp [poolAt, found]
    have issued := shared.issued
    rw [state_eq] at issued
    -- The port is in use from now on, and nobody accounts for it yet but `elsewhere`.
    obtain ⟨after, allocated, held, issuedMore⟩ := issued.allocate more
    simp only [allocated]
    refine .inr ⟨trivial, pooled, ?_⟩
    constructor
    · rw [poolAt_setPool found]
      exact issuedMore
    · intro port
      have before := shared.balance port
      rw [state_eq] at before
      rw [poolAt_setPool found, held, List.count_cons, List.count_cons, ← before]
      simp only [setPool, listenedPorts]
      omega
    · exact shared.remembered
    · exact shared.owed
    · exact shared.due
    · exact shared.noAuthority
    · exact shared.noneServed

/-- A port that is elsewhere is returned. -/
theorem returnPort {port : Port} (shared : mux.Shared pool count (port :: elsewhere))
    {assigner : Nat} (pooled : mux.AssignsFrom pool assigner) :
    (mux.returnPort assigner port).2.Shared pool count elsewhere := by
  rw [returnPort_pooled port pooled]
  have inUse : 0 < (mux.poolAt pool).held.count port := by
    have before := shared.balance port
    rw [List.count_cons_self] at before
    omega
  cases found : mux.pools.get? pool with
  | none =>
    have initial : mux.poolAt pool = .initial := by simp [poolAt, found]
    rw [initial] at inUse
    cases inUse
  | some state =>
    have state_eq : mux.poolAt pool = state := by simp [poolAt, found]
    have issued := shared.issued
    rw [state_eq] at issued inUse
    obtain ⟨was, after, released, held, issuedStill⟩ := issued.release port
    simp only [released]
    have after_eq : poolAt { mux with
        pools := mux.pools.modify pool fun _ => after
        returned := (assigner, port) :: mux.returned } pool = after := poolAt_setPool found after
    constructor
    · rw [after_eq]
      exact issuedStill
    · intro other
      have before := shared.balance other
      have erased := (List.perm_cons_erase (List.count_pos_iff.mp inUse)).count_eq other
      rw [List.count_cons] at erased
      rw [state_eq, List.count_cons, erased] at before
      rw [after_eq, held]
      simp only [listenedPorts] at before ⊢
      omega
    · exact shared.remembered
    · exact shared.owed
    · exact shared.due
    · exact shared.noAuthority
    · exact shared.noneServed

/-- A listener that is bound takes over its port. -/
theorem enlist {listener : MuxListener}
    (shared : mux.Shared pool count (listener.port :: elsewhere))
    (isOpen : listener.isClosed = false) {assigner : Nat}
    (owes : listener.assigner = some assigner) (pooled : mux.AssignsFrom pool assigner)
    (host : Host) : (mux.enlist host listener).Shared pool count elsewhere where
  issued := shared.issued
  balance port := by
    have before := shared.balance port
    have openPort : listener.openPort? = some listener.port := by
      simp [MuxListener.openPort?, isOpen]
    simp only [Multiplexer.enlist, listenedPorts, poolAt, Table.add, List.filterMap_append,
      List.count_append, List.filterMap_cons, openPort, List.filterMap_nil, List.count_cons,
      List.count_nil] at before ⊢
    omega
  remembered found remembers := by
    simp only [Multiplexer.enlist] at found
    split at found
    · obtain ⟨former, former_found, remembered⟩ :=
        authority_of_modify found remembers fun _ => .inl rfl
      exact shared.remembered former_found remembered
    · exact shared.remembered found remembers
  owed found := by
    simp only [Multiplexer.enlist, Table.get?_add] at found
    split at found
    · injection found with same
      exact ⟨assigner, same ▸ owes, pooled⟩
    · exact shared.owed found
  due := shared.due
  noAuthority := shared.noAuthority
  noneServed := shared.noneServed

/-- A listener that is detached lets go of its port. -/
theorem detach (shared : mux.Shared pool count elsewhere) {number : Nat}
    {listener : MuxListener} (found : mux.listeners.get? number = some listener)
    (isOpen : listener.isClosed = false) :
    (mux.detach number listener).Shared pool count (listener.port :: elsewhere) := by
  rw [detach_eq]
  constructor
  · exact shared.issued
  · intro port
    have before := shared.balance port
    rw [count_listenedPorts found isOpen port, List.count_singleton] at before
    rw [List.count_cons]
    simp only [listenedPorts, poolAt] at before ⊢
    omega
  · intro other factory assigner factory_found remembers
    unfold factoriesWithout at factory_found
    split at factory_found
    · obtain ⟨former, former_found, remembered⟩ :=
        authority_of_modify factory_found remembers fun _ => .inl rfl
      exact shared.remembered former_found remembered
    · exact shared.remembered factory_found remembers
  · intro other row row_found
    rw [Table.get?_modify] at row_found
    split at row_found
    · obtain ⟨former, former_found, rfl⟩ := Option.map_eq_some_iff.mp row_found
      obtain ⟨assigner, owes, pooled⟩ := shared.owed former_found
      exact ⟨assigner, owes, pooled⟩
    · exact shared.owed row_found
  · exact shared.due
  · exact shared.noAuthority
  · exact shared.noneServed

/-- A port is put down as due. -/
theorem putDown {port : Port} (shared : mux.Shared pool count (port :: elsewhere))
    {assigner : Nat} (pooled : mux.AssignsFrom pool assigner) :
    Shared pool count elsewhere { mux with due := mux.due ++ [(assigner, port)] } where
  issued := shared.issued
  balance other := by
    have before := shared.balance other
    simp only [listenedPorts, poolAt, List.map_append, List.count_append, List.map_cons,
      List.map_nil, List.count_cons, List.count_nil] at before ⊢
    omega
  remembered := shared.remembered
  owed := shared.owed
  due entry member := by
    rcases List.mem_append.mp member with former | added
    · exact shared.due entry former
    · rw [List.mem_singleton.mp added]
      exact pooled
  noAuthority := shared.noAuthority
  noneServed := shared.noneServed

/-- A port that is due is taken up. -/
theorem takeUp (shared : mux.Shared pool count elsewhere) {index : Nat} {entry : Nat × Port}
    (found : mux.due[index]? = some entry) :
    Shared pool count (entry.2 :: elsewhere) { mux with due := mux.due.eraseIdx index } where
  issued := shared.issued
  balance port := by
    have before := shared.balance port
    obtain ⟨bounded, rfl⟩ := List.getElem?_eq_some_iff.mp found
    have moved := ((List.getElem_cons_eraseIdx_perm bounded).map Prod.snd).count_eq port
    rw [List.map_cons, List.count_cons] at moved
    rw [← moved] at before
    rw [List.count_cons]
    simp only [listenedPorts, poolAt] at before ⊢
    omega
  remembered := shared.remembered
  owed := shared.owed
  due other member := shared.due other (List.mem_of_mem_eraseIdx member)
  noAuthority := shared.noAuthority
  noneServed := shared.noneServed

/-- A listener that is closed returns its port. -/
theorem closeListener (shared : mux.Shared pool count elsewhere) (number : Nat) :
    (mux.closeListener number).2.Shared pool count elsewhere := by
  rcases mux.open_or_shut number with ⟨listener, found, isOpen⟩ | shut
  · obtain ⟨assigner, owes, pooled⟩ := shared.owed found
    have detached := shared.detach found isOpen
    have stillPooled : (mux.detach number listener).AssignsFrom pool assigner := by
      rw [detach_eq]
      exact pooled
    rw [closeListener_of_open found isOpen]
    unfold giveBack
    rw [owes]
    exact detached.returnPort stillPooled
  · rw [closeListener_of_not_open shut]
    exact shared

/-- A listener that is dropped puts its port down as due, or loses it. -/
theorem dropListener (shared : mux.Shared pool count elsewhere) (number : Nat)
    (hasTasks : Bool) :
    (mux.dropListener number hasTasks).Shared pool count
      ((Moment.lost? ⟨mux, .dropListener number hasTasks⟩).toList.map Prod.snd ++ elsewhere) := by
  rcases mux.open_or_shut number with ⟨listener, found, isOpen⟩ | shut
  · obtain ⟨assigner, owes, pooled⟩ := shared.owed found
    have detached := shared.detach found isOpen
    have stillPooled : (mux.detach number listener).AssignsFrom pool assigner := by
      rw [detach_eq]
      exact pooled
    have sameDue : (mux.detach number listener).due = mux.due := by rw [detach_eq]
    have owed : listener.owed? = some (assigner, listener.port) := by
      unfold MuxListener.owed?
      rw [owes]
      rfl
    rw [dropListener_of_open found isOpen, owed]
    cases hasTasks with
    | true =>
      have down := detached.putDown stillPooled
      rw [sameDue] at down
      exact down
    | false =>
      simp only [Moment.lost?, found, Option.bind_some, isOpen, owed, Bool.false_eq_true,
        if_false, List.append_nil, ← sameDue]
      exact detached
  · rw [dropListener_of_not_open shut, Moment.lost?_of_not_open hasTasks shut]
    exact shared

/-- A background task returns a port that is due. -/
theorem returnOne (shared : mux.Shared pool count elsewhere) (index : Nat) :
    (mux.returnOne index).Shared pool count elsewhere := by
  unfold Multiplexer.returnOne
  split
  · exact shared
  · next assigner port found =>
    have pooled := shared.due _ (List.mem_of_getElem? found)
    exact (shared.takeUp found).returnPort pooled

/-- Closing a client moves no port. -/
theorem closeClient (shared : mux.Shared pool count elsewhere) (number : Nat) :
    (mux.closeClient number).Shared pool count elsewhere := by
  obtain ⟨-, unchanged⟩ | ⟨client, -, -, after⟩ := mux.closeClient_cases number
  · rw [unchanged]
    exact shared
  · rw [after]
    refine shared.same (.of_factories _ _ mux.coordinators fun found remembers => .inr ?_)
    exact authority_of_modify found remembers fun _ => .inl rfl

/-- Closing factories keeps the balance. -/
theorem keptByClosing (pool count : Nat) (elsewhere : List Port) :
    KeptByClosing fun mux => mux.Shared pool count elsewhere where
  listener number shared := shared.closeListener number
  client number shared := shared.closeClient number
  factory number change fades shared := by
    refine shared.same (.of_factories _ _ _ fun found remembers => .inr ?_)
    exact authority_of_modify found remembers fades.authority
  coordinators coordinators shared :=
    shared.same (.of_factories _ _ coordinators fun found remembers => .inr ⟨_, found, remembers⟩)

/-- A factory whose naming has its ports from the pool finds an assigner that has, too. -/
theorem assignerOf (shared : mux.Shared pool count elsewhere) {number : Nat} {factory : Factory}
    (found : mux.factories.get? number = some factory) {registryPort : Port} {named : Nat}
    (naming : factory.naming = .direct registryPort named) (pooled : mux.AssignsFrom pool named) :
    ∃ assigner, (mux.assignerOf number).1 = .ok assigner ∧
      mux.AssignsFrom pool assigner ∧ SamePool pool mux (mux.assignerOf number).2 := by
  unfold Multiplexer.assignerOf
  simp only [found]
  cases authority : factory.authority with
  | some assigner =>
    exact ⟨assigner, rfl, shared.remembered found authority, .of_host mux.host⟩
  | none =>
    simp only [naming, lookUp]
    refine ⟨named, rfl, pooled, .of_factories _ _ _ fun {other state assigner} other_found
      remembers => ?_⟩
    rw [Table.get?_modify] at other_found
    split at other_found
    · obtain ⟨former, -, rfl⟩ := Option.map_eq_some_iff.mp other_found
      injection remembers with same
      exact .inl (same ▸ pooled)
    · exact .inr ⟨state, other_found, remembers⟩

/-- An anonymous creation comes by the next port. -/
theorem prepare (shared : mux.Shared pool count elsewhere) (more : count < PortPool.capacity)
    {number : Nat} {factory : Factory} (found : mux.factories.get? number = some factory)
    {registryPort : Port} {named : Nat} (naming : factory.naming = .direct registryPort named)
    (pooled : mux.AssignsFrom pool named) :
    ((mux.prepare number factory Port.anonymous).1 = none ∧
        (mux.prepare number factory Port.anonymous).2.Shared pool count elsewhere) ∨
      ∃ assigner, (mux.prepare number factory Port.anonymous).1 =
          some (some assigner, PortPool.nth count) ∧
        (mux.prepare number factory Port.anonymous).2.AssignsFrom pool assigner ∧
        (mux.prepare number factory Port.anonymous).2.Shared pool (count + 1)
          (PortPool.nth count :: elsewhere) := by
  obtain ⟨assigner, looked, assigns, same⟩ := shared.assignerOf found naming pooled
  unfold Multiplexer.prepare
  rw [if_pos rfl]
  cases found : mux.assignerOf number with
  | mk outcome ready =>
    rw [found] at looked same
    simp only at looked same
    subst looked
    simp only
    obtain ⟨⟨err, refused⟩, unchanged⟩ | ⟨granted, still, issued⟩ :=
      (shared.same same).newPort more (same.assigners assigns)
    · cases asked : ready.newPort assigner with
      | mk answer after =>
        rw [asked] at refused unchanged
        simp only at refused unchanged
        subst refused unchanged
        exact .inl ⟨rfl, shared.same same⟩
    · cases asked : ready.newPort assigner with
      | mk answer after =>
        rw [asked] at granted still issued
        simp only at granted still issued
        subst granted
        exact .inr ⟨assigner, rfl, still, issued⟩

/-- The port of an anonymous creation is bound or returned. -/
theorem createServer (shared : mux.Shared pool count elsewhere) (more : count < PortPool.capacity)
    {number : Nat} {factory : Factory} (found : mux.factories.get? number = some factory)
    {registryPort : Port} {named : Nat} (naming : factory.naming = .direct registryPort named)
    (pooled : mux.AssignsFrom pool named) :
    (mux.createServer number Port.anonymous).2.Shared pool
      ((Moment.creation? ⟨mux, .createServer number Port.anonymous⟩).toList.length + count)
      elsewhere := by
  have after_eq := congrArg Prod.snd (createServer_eq Port.anonymous found)
  simp only at after_eq
  rw [after_eq]
  simp only [Moment.creation?, found, Option.bind_some]
  rcases shared.prepare more found naming pooled with
    ⟨refused, unchanged⟩ | ⟨assigner, granted, assigns, issued⟩
  · cases prepared : mux.prepare number factory Port.anonymous with
    | mk chosen ready =>
      rw [prepared] at refused unchanged
      simp only at refused unchanged
      subst refused
      simpa using unchanged
  · cases prepared : mux.prepare number factory Port.anonymous with
    | mk chosen ready =>
      rw [prepared] at granted assigns issued
      simp only at granted assigns issued
      subst granted
      simp only [Option.map_some, Option.toList_some, List.length_singleton, Nat.add_comm 1,
        Option.elim_some, bindPrepared]
      split
      · exact (issued.same (.of_host _)).returnPort assigns
      · exact issued.enlist rfl rfl assigns _

end Shared

end Multiplexer

namespace Action

/-- Whether an action neither comes by a port nor lets go of one. -/
def movesNoPort : Action → Bool
  | .createServer .. | .closeListener .. | .dropListener .. | .closeClient .. => false
  | .dropClient .. | .closeFactory .. | .dropFactory .. | .shutDownAll .. => false
  | .returnOne .. => false
  | _ => true

/-- Whether an action leaves a pool to factories that only ask for anonymous ports. -/
def sparesPool (pool : Nat) : Action → Bool
  | .createServer _ port => port == Port.anonymous
  | .closePool other => other != pool
  | .changeAssigner .. | .ask .. | .startAuthority .. => false
  | _ => true

end Action

/-- At such a moment, all factories have one layout and all their ports from one pool,
which nobody else asks or closes. -/
structure Moment.Shares (pool : Nat) (layout : SocketLayout) (moment : Moment) : Prop
    extends moment.IsOrderly where
  spares : moment.action.sparesPool pool = true
  sameLayout : ∀ {number factory}, moment.state.factories.get? number = some factory →
    factory.profile.layout = layout
  pooled : ∀ {number factory}, moment.state.factories.get? number = some factory →
    ∃ registryPort named, factory.naming = .direct registryPort named ∧
      moment.state.AssignsFrom pool named

/-- Whether a factory has its ports from a pool at hand. -/
def Multiplexer.drawsFrom (mux : Multiplexer) (pool : Nat) (factory : Factory) : Bool :=
  match factory.naming with
  | .direct _ named =>
    match mux.assigners.get? named with
    | some (.pooled other) => other == pool
    | _ => false
  | .socket .. => false

/-- Whether at a moment all factories have one layout and all their ports from one pool,
and nobody else asks the pool or does anything on the host. -/
def Moment.sharesPool (pool : Nat) (layout : SocketLayout) (moment : Moment) : Bool :=
  moment.staysInside && moment.action.sparesPool pool &&
    moment.state.factories.rows.all fun factory =>
      decide (factory.profile.layout = layout) && moment.state.drawsFrom pool factory

theorem Moment.Shares.of_sharesPool {pool : Nat} {layout : SocketLayout} {moment : Moment}
    (shares : moment.sharesPool pool layout = true) : moment.Shares pool layout := by
  obtain ⟨both, rows⟩ := Bool.and_eq_true_iff.mp shares
  obtain ⟨stays, spares⟩ := Bool.and_eq_true_iff.mp both
  have each : ∀ {number factory}, moment.state.factories.get? number = some factory →
      factory.profile.layout = layout ∧ moment.state.drawsFrom pool factory = true := by
    intro number factory found
    simpa using List.all_eq_true.mp rows factory (List.mem_of_getElem? found)
  refine ⟨.of_staysInside stays, spares, fun found => (each found).1, ?_⟩
  intro number factory found
  have draws := (each found).2
  unfold Multiplexer.drawsFrom at draws
  split at draws
  · next registryPort named naming =>
    split at draws
    · next other assigner =>
      have same : other = pool := by simpa using draws
      exact ⟨registryPort, named, naming, same ▸ assigner⟩
    · cases draws
  · cases draws

namespace Multiplexer

/-- A pool that is added has no port in use. -/
theorem poolAt_makePool (mux : Multiplexer) (pool : Nat) :
    poolAt { mux with pools := (mux.pools.add .initial).2 } pool = mux.poolAt pool := by
  unfold poolAt
  rw [Table.get?_add]
  split
  · next last =>
    have absent : mux.pools.get? pool = none := List.getElem?_eq_none (Nat.le_of_eq last.symm)
    rw [absent]
    rfl
  · rfl

/-- An action of a shared moment that moves no port. -/
theorem SamePool.perform {pool count : Nat} {elsewhere : List Port} {layout : SocketLayout}
    {mux : Multiplexer} (shared : mux.Shared pool count elsewhere) {action : Action}
    (shares : Moment.Shares pool layout ⟨mux, action⟩) (still : action.movesNoPort = true) :
    SamePool pool mux (mux.perform action) := by
  have spares := shares.spares
  have kept : ∀ {number factory assigner}, mux.factories.get? number = some factory →
      factory.authority = some assigner → mux.AssignsFrom pool assigner ∨
        ∃ former, mux.factories.get? number = some former ∧ former.authority = some assigner :=
    fun found remembers => .inr ⟨_, found, remembers⟩
  have absent : ∀ number, mux.authorities.get? number = none := by
    intro number
    simp [Table.get?, shared.noAuthority]
  cases action with
  | changeAssigner | ask | startAuthority => cases spares
  | makePool => exact ⟨mux.poolAt_makePool pool, id, kept, rfl, rfl, rfl, rfl⟩
  | closePool other =>
    have apart : other ≠ pool := by simpa [Action.sparesPool] using spares
    refine ⟨?_, id, kept, rfl, rfl, rfl, rfl⟩
    simp [Multiplexer.perform, poolAt, apart]
  | makeAssigner assigner =>
    refine ⟨rfl, fun {number} assigns => ?_, kept, rfl, rfl, rfl, rfl⟩
    have bounded : number < mux.assigners.size := (List.getElem?_eq_some_iff.mp assigns).1
    exact (Table.get?_add_of_lt _ _ bounded).trans assigns
  | changeStrangers => exact ⟨rfl, id, kept, rfl, rfl, rfl, rfl⟩
  | makeCoordinator => exact .of_factories _ _ _ kept
  | countLive coordinator => exact .of_factories _ _ _ kept
  | makeFactory profile naming transport coordinator =>
    exact .of_factories _ _ _ fun found remembers => .inr (authority_of_add found remembers rfl)
  | changeTransport number transport =>
    refine .of_factories _ _ _ fun found remembers => .inr ?_
    exact authority_of_modify found remembers fun _ => .inl rfl
  | reorder number servers clients =>
    refine .of_factories _ _ _ fun found remembers => .inr ?_
    refine authority_of_modify found remembers fun factory => .inl ?_
    unfold Factory.reorder
    split <;> rfl
  | findAssigner number =>
    cases found : mux.factories.get? number with
    | none =>
      simp only [Multiplexer.perform, Multiplexer.assignerOf, found]
      exact .of_host mux.host
    | some factory =>
      obtain ⟨registryPort, named, naming, pooled⟩ := shares.pooled found
      obtain ⟨-, -, -, same⟩ := shared.assignerOf found naming pooled
      exact same
  | createClient number key =>
    obtain ⟨err, host, -, after⟩ | ⟨credentials, file, connection, host, -, -, after⟩ :=
      mux.createClient_cases number key
    · simp only [Multiplexer.perform, after]
      exact .of_host host
    · simp only [Multiplexer.perform, after]
      refine .of_factories _ _ _ fun found remembers => .inr ?_
      exact authority_of_modify found remembers fun _ => .inl rfl
  | createClientShort number key shortage =>
    obtain ⟨host, forget, forgets, -, after⟩ := mux.createClient_short number key shortage
    simp only [Multiplexer.perform, after]
    refine .of_factories _ _ _ fun found remembers => .inr ?_
    refine authority_of_modify found remembers fun factory => .inl ?_
    obtain ⟨credentials, forgotten, -⟩ := forgets factory
    rw [forgotten]
  | accept listener =>
    obtain ⟨host, -, after⟩ := mux.acceptOn_eq listener
    simp only [Multiplexer.perform, after]
    exact .of_host host
  | beginAccept listener =>
    obtain ⟨host, -, after⟩ := mux.beginAcceptOn_eq listener
    simp only [Multiplexer.perform, after]
    exact .of_host host
  | shutDownAuthority number =>
    simp only [Multiplexer.perform, Multiplexer.shutDownAuthority, absent]
    exact .of_host mux.host
  | dropAuthority number =>
    simp only [Multiplexer.perform, Multiplexer.dropAuthority, absent]
    exact .of_host mux.host
  | serve =>
    simp only [Multiplexer.perform, serveAll, shared.noAuthority, shared.noneServed,
      List.foldl_nil, serveConnections]
    exact ⟨rfl, id, kept, rfl, rfl, rfl, shared.noneServed.symm⟩
  | outside host => exact .of_host host
  | _ => cases still

/-- Every action of a shared moment keeps the balance. -/
theorem Shared.perform {pool count : Nat} {elsewhere : List Port} {layout : SocketLayout}
    {mux : Multiplexer} (shared : mux.Shared pool count elsewhere)
    (more : count < PortPool.capacity) {action : Action}
    (shares : Moment.Shares pool layout ⟨mux, action⟩) :
    (mux.perform action).Shared pool
      ((Moment.creation? ⟨mux, action⟩).toList.length + count)
      ((Moment.lost? ⟨mux, action⟩).toList.map Prod.snd ++ elsewhere) := by
  have closing := Shared.keptByClosing pool count elsewhere
  by_cases created : ∃ number port, action = .createServer number port
  · obtain ⟨number, port, rfl⟩ := created
    have spares := shares.spares
    have anonymous : port = Port.anonymous := by simpa [Action.sparesPool] using spares
    subst anonymous
    cases found : mux.factories.get? number with
    | none =>
      simp only [Moment.creation?, Multiplexer.perform, Multiplexer.createServer, found]
      simpa [Moment.lost?] using shared
    | some factory =>
      obtain ⟨registryPort, named, naming, pooled⟩ := shares.pooled found
      exact shared.createServer more found naming pooled
  by_cases dropped : ∃ number hasTasks, action = .dropListener number hasTasks
  · obtain ⟨number, hasTasks, rfl⟩ := dropped
    have kept := shared.dropListener number hasTasks
    simpa [Moment.creation?, Multiplexer.perform] using kept
  -- All other actions neither create nor lose anything.
  have noCreation : Moment.creation? ⟨mux, action⟩ = none := by
    cases action <;> first | rfl | exact absurd ⟨_, _, rfl⟩ created
  have noLoss : Moment.lost? ⟨mux, action⟩ = none := by
    cases action <;> first | rfl | exact absurd ⟨_, _, rfl⟩ dropped
  rw [noCreation, noLoss, Option.toList_none, Option.toList_none, List.length_nil, Nat.zero_add,
    List.map_nil, List.nil_append]
  by_cases still : action.movesNoPort = true
  · exact shared.same (.perform shared shares still)
  cases action with
  | createServer number port => exact absurd ⟨_, _, rfl⟩ created
  | dropListener number hasTasks => exact absurd ⟨_, _, rfl⟩ dropped
  | closeListener number => exact shared.closeListener number
  | closeClient number => exact shared.closeClient number
  | dropClient number =>
    obtain ⟨host, -, after⟩ := mux.dropClient_eq number
    simp only [Multiplexer.perform, after]
    exact (shared.closeClient number).same (.of_host host)
  | closeFactory number => exact closing.closeFactory shared number
  | dropFactory number => exact closing.dropFactory shared number
  | shutDownAll coordinator => exact closing.shutDownAll shared coordinator
  | returnOne index => exact shared.returnOne index
  | _ => exact absurd rfl still

/-- A port that an anonymous creation comes by is the next one of the pool. -/
theorem Shared.port_of_creation {pool count : Nat} {elsewhere : List Port} {mux : Multiplexer}
    (shared : mux.Shared pool count elsewhere) (more : count < PortPool.capacity) {number : Nat}
    {factory : Factory} (found : mux.factories.get? number = some factory) {registryPort : Port}
    {named : Nat} (naming : factory.naming = .direct registryPort named)
    (pooled : mux.AssignsFrom pool named) {creation : Creation}
    (made : Moment.creation? ⟨mux, .createServer number Port.anonymous⟩ = some creation) :
    creation.port = PortPool.nth count := by
  simp only [Moment.creation?, found, Option.bind_some] at made
  obtain ⟨chosen, prepared, rfl⟩ := Option.map_eq_some_iff.mp made
  rcases shared.prepare more found naming pooled with ⟨refused, -⟩ | ⟨assigner, granted, -, -⟩
  · rw [refused] at prepared
    cases prepared
  · rw [granted] at prepared
    injection prepared with same
    rw [← same]

theorem mem_listenedPorts {mux : Multiplexer} {port : Port} :
    port ∈ mux.listenedPorts ↔ ∃ number listener, mux.listeners.get? number = some listener ∧
      listener.isClosed = false ∧ listener.port = port := by
  have openPort : ∀ listener : MuxListener, listener.openPort? = some port ↔
      listener.isClosed = false ∧ listener.port = port := by
    intro listener
    unfold MuxListener.openPort?
    cases listener.isClosed <;> simp
  unfold listenedPorts
  rw [List.mem_filterMap]
  constructor
  · rintro ⟨listener, member, isOpen⟩
    obtain ⟨number, found⟩ := List.mem_iff_getElem?.mp member
    exact ⟨number, listener, found, (openPort listener).mp isOpen⟩
  · rintro ⟨number, listener, found, isOpen⟩
    exact ⟨listener, List.mem_of_getElem? found, (openPort listener).mpr isOpen⟩

section InUse

variable {pool count : Nat} {elsewhere : List Port} {mux : Multiplexer}
  (shared : mux.Shared pool count elsewhere)

include shared

/-- The ports of open listeners are in use. -/
theorem Shared.mem_held {number : Nat} {listener : MuxListener}
    (found : mux.listeners.get? number = some listener) (isOpen : listener.isClosed = false) :
    listener.port ∈ (mux.poolAt pool).held := by
  have listened := mem_listenedPorts.mpr ⟨number, listener, found, isOpen, rfl⟩
  have balance := shared.balance listener.port
  have counted := List.count_pos_iff.mpr listened
  exact List.count_pos_iff.mp (by omega)

/-- Once nothing is due, the ports in use are with open listeners or elsewhere. -/
theorem Shared.mem_held_iff (idle : mux.due = []) (port : Port) :
    port ∈ (mux.poolAt pool).held ↔ port ∈ mux.listenedPorts ∨ port ∈ elsewhere := by
  have balance := shared.balance port
  rw [idle, List.map_nil, List.count_nil] at balance
  rw [← List.count_pos_iff, ← List.count_pos_iff, ← List.count_pos_iff]
  omega

/-- No two open listeners have one port. -/
theorem Shared.port_injective {first second : Nat} {former latter : MuxListener}
    (firstFound : mux.listeners.get? first = some former) (firstOpen : former.isClosed = false)
    (secondFound : mux.listeners.get? second = some latter)
    (secondOpen : latter.isClosed = false) (same : former.port = latter.port) :
    first = second := by
  have distinct : mux.listenedPorts.Nodup := by
    refine List.nodup_iff_count.mpr fun port => ?_
    have balance := shared.balance port
    have once := List.nodup_iff_count.mp shared.issued.nodup port
    omega
  have pairwise := List.pairwise_filterMap.mp distinct
  have openPort : ∀ {listener : MuxListener}, listener.isClosed = false →
      listener.openPort? = some listener.port := by
    intro listener isOpen
    simp [MuxListener.openPort?, isOpen]
  obtain ⟨firstBounded, firstHere⟩ := List.getElem?_eq_some_iff.mp firstFound
  obtain ⟨secondBounded, secondHere⟩ := List.getElem?_eq_some_iff.mp secondFound
  rcases Nat.lt_trichotomy first second with before | equal | before
  · have apart := List.pairwise_iff_getElem.mp pairwise _ _ firstBounded secondBounded before
    rw [firstHere, secondHere] at apart
    exact absurd same (apart _ (openPort firstOpen) _ (openPort secondOpen))
  · exact equal
  · have apart := List.pairwise_iff_getElem.mp pairwise _ _ secondBounded firstBounded before
    rw [firstHere, secondHere] at apart
    exact absurd same.symm (apart _ (openPort secondOpen) _ (openPort firstOpen))

end InUse

/-- Nothing is in use at the start. -/
theorem Shared.initial (host : Host) (own : PeerCredentials) (pool : Nat) :
    (Multiplexer.initial host own).Shared pool 0 [] where
  issued := .initial
  balance _ := rfl
  remembered := nofun
  owed := nofun
  due := nofun
  noAuthority := rfl
  noneServed := rfl

end Multiplexer

end SocketMux
