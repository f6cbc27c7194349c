import SocketMux.Proofs.Authority.Frames
import SocketMux.Proofs.Lifecycle.Closing
import SocketMux.Proofs.Lifecycle.Creation

/-!
# What factories remember of their authorities

A factory whose naming is a path looks up the authority there once and remembers it until it
closes, and a listener on an anonymous port remembers it for good. As long as nobody puts
another assigner in the place of one, what they remember is the path in the naming
(`Multiplexer.Provides`). As long as nobody but authorities listens at such a path, all ports that
come along it were handed out by pools, so they are anonymous ports
(`Multiplexer.Provides.base_le_creation`).
-/

namespace SocketMux

namespace Authority

/-- Answering a frame is at most one more use of a pool. -/
theorem reached_answer {pool : PortPool} {count : Nat} (reached : PortPool.Reached count pool)
    (code : UInt8) (argument : Port) :
    ∃ more, PortPool.Reached more (answer pool code argument).2 := by
  unfold answer
  cases asked : Request.ofCode? code argument with
  | none => exact ⟨count, reached⟩
  | some request =>
    have used := request.reached_after reached
    unfold Request.after at used
    simp only
    cases served : request.serve pool with
    | ok result =>
      rw [served] at used
      exact used
    | error err => exact ⟨count, reached⟩

/-- Whatever bytes are answered, the pool is one that was used. -/
theorem reached_answerAll {pool : PortPool} {count : Nat} (reached : PortPool.Reached count pool)
    (bytes : List UInt8) : ∃ more, PortPool.Reached more (answerAll pool bytes).2.1 := by
  fun_induction answerAll pool bytes generalizing count
  case case1 pool code first second third fourth rest argument reply between answered replies last
      left others inductionHypothesis =>
    obtain ⟨more, next⟩ := reached_answer reached code argument
    rw [answered] at next
    obtain ⟨most, final⟩ := inductionHypothesis next
    rw [others] at final
    exact ⟨most, final⟩
  case case2 => exact ⟨count, reached⟩

end Authority

/-- All pools are ones that were used. -/
def PoolsReached (pools : Table PortPool) : Prop :=
  ∀ number pool, pools.get? number = some pool → ∃ count, PortPool.Reached count pool

namespace PoolsReached

variable {pools : Table PortPool}

theorem modify (reached : PoolsReached pools) (changed : Nat) {change : PortPool → PortPool}
    (used : ∀ pool, pools.get? changed = some pool →
      ∃ count, PortPool.Reached count (change pool)) :
    PoolsReached (pools.modify changed change) := by
  intro number pool found
  rw [Table.get?_modify] at found
  split at found
  · next same =>
    subst same
    obtain ⟨former, former_found, rfl⟩ := Option.map_eq_some_iff.mp found
    exact used former former_found
  · exact reached number pool found

theorem add (reached : PoolsReached pools) : PoolsReached (pools.add .initial).2 := by
  intro number pool found
  rw [Table.get?_add] at found
  split at found
  · obtain rfl := Option.some.inj found
    exact ⟨0, .initial⟩
  · exact reached number pool found

end PoolsReached

/-- Assigners of authorities go on as they are. -/
def KeepsRemotes (before after : Table Assigner) : Prop :=
  ∀ number path, before.get? number = some (.remote path) → after.get? number = some (.remote path)

namespace KeepsRemotes

theorem refl (assigners : Table Assigner) : KeepsRemotes assigners assigners := fun _ _ => id

theorem add (assigners : Table Assigner) (assigner : Assigner) :
    KeepsRemotes assigners (assigners.add assigner).2 := by
  intro number path found
  rw [Table.get?_add_of_lt _ _ (List.getElem?_eq_some_iff.mp found).1]
  exact found

/-- An assigner that is no authority may change. -/
theorem modify {assigners : Table Assigner} {changed : Nat}
    (apart : ∀ path, assigners.get? changed ≠ some (.remote path)) (change : Assigner → Assigner) :
    KeepsRemotes assigners (assigners.modify changed change) := by
  intro number path found
  rw [Table.get?_modify, if_neg]
  · exact found
  · rintro rfl
    exact apart path found

end KeepsRemotes

/-- Factories stay who they are, though they may forget their assigners. New ones remember
none. -/
structure FactoriesStay (before after : Table Factory) : Prop where
  size : before.size ≤ after.size
  each : ∀ {number factory}, after.get? number = some factory →
    (∃ former, before.get? number = some former ∧ factory.naming = former.naming ∧
      (factory.authority = former.authority ∨ factory.authority = none)) ∨
    (before.get? number = none ∧ factory.authority = none)

namespace FactoriesStay

theorem refl (factories : Table Factory) : FactoriesStay factories factories :=
  ⟨Nat.le_refl _, fun {_ factory} found => .inl ⟨factory, found, rfl, .inl rfl⟩⟩

theorem modify (factories : Table Factory) (changed : Nat) {change : Factory → Factory}
    (naming : ∀ factory, (change factory).naming = factory.naming)
    (authority : ∀ factory,
      (change factory).authority = factory.authority ∨ (change factory).authority = none) :
    FactoriesStay factories (factories.modify changed change) := by
  refine ⟨Nat.le_of_eq (factories.size_modify changed change).symm,
    fun {number factory} found => ?_⟩
  rw [Table.get?_modify] at found
  split at found
  · obtain ⟨former, former_found, rfl⟩ := Option.map_eq_some_iff.mp found
    exact .inl ⟨former, former_found, naming former, authority former⟩
  · exact .inl ⟨factory, found, rfl, .inl rfl⟩

theorem add (factories : Table Factory) {fresh : Factory} (forgetful : fresh.authority = none) :
    FactoriesStay factories (factories.add fresh).2 := by
  refine ⟨?_, fun {number factory} found => ?_⟩
  · simp [Table.add, Table.size]
  · rw [Table.get?_add] at found
    split at found
    · next last =>
      obtain rfl := Option.some.inj found
      exact .inr ⟨List.getElem?_eq_none (Nat.le_of_eq last.symm), forgetful⟩
    · exact .inl ⟨factory, found, rfl, .inl rfl⟩

end FactoriesStay

namespace Multiplexer

open SocketMux.Authority

/-- An assigner is the one of an authority at a path. -/
def AssignsAt (mux : Multiplexer) (path : Path) (assigner : Nat) : Prop :=
  mux.assigners.get? assigner = some (.remote path)

/-- Whether nobody but authorities listens where a path leads. -/
def OnlyAuthoritiesAt (mux : Multiplexer) (path : Path) : Prop :=
  ∀ socket, mux.host.reach path = .ok socket → (mux.poolBehind? socket).isSome

/-- Factories and listeners remember the authorities in the namings, and pools hand out
anonymous ports only. -/
structure Provides (mux : Multiplexer) : Prop where
  pools : PoolsReached mux.pools
  remembered : ∀ {number factory registryPort path assigner},
    mux.factories.get? number = some factory → factory.naming = .socket registryPort path →
      factory.authority = some assigner → mux.AssignsAt path assigner
  made : ∀ {number listener}, mux.listeners.get? number = some listener →
    listener.factory < mux.factories.size
  owed : ∀ {number listener factory registryPort path assigner},
    mux.listeners.get? number = some listener →
      mux.factories.get? listener.factory = some factory →
        factory.naming = .socket registryPort path → listener.assigner = some assigner →
          mux.AssignsAt path assigner

/-- The listeners are the same up to their sockets and files. -/
def ListenersStay (before after : Table MuxListener) : Prop :=
  ∀ number listener, after.get? number = some listener →
    ∃ former, before.get? number = some former ∧ former.factory = listener.factory ∧
      former.assigner = listener.assigner

theorem ListenersStay.refl (listeners : Table MuxListener) : ListenersStay listeners listeners :=
  fun _ _ found => ⟨_, found, rfl, rfl⟩

theorem ListenersStay.closed (listeners : Table MuxListener) (number : Nat) :
    ListenersStay listeners (listeners.modify number MuxListener.closed) := by
  intro other listener found
  rw [Table.get?_modify] at found
  split at found
  · obtain ⟨former, former_found, rfl⟩ := Option.map_eq_some_iff.mp found
    exact ⟨former, former_found, rfl, rfl⟩
  · exact ⟨listener, found, rfl, rfl⟩

/-- A request only changes a pool or a script. -/
theorem ask_keeps {mux : Multiplexer} (reached : PoolsReached mux.pools) (assigner : Nat)
    (request : Request) :
    ∃ pools assigners, (mux.ask assigner request).2 = { mux with pools, assigners } ∧
      PoolsReached pools ∧ KeepsRemotes mux.assigners assigners := by
  have used : ∀ pool state after, mux.pools.get? pool = some state →
      (∃ count, PortPool.Reached count after) →
        PoolsReached (mux.pools.modify pool fun _ => after) :=
    fun pool _ _ _ later => reached.modify pool fun _ _ => later
  unfold ask
  cases assigned : mux.assigners.get? assigner with
  | none => exact ⟨_, _, rfl, reached, .refl _⟩
  | some row =>
    cases row with
    | pooled pool =>
      simp only [serveFrom]
      cases found : mux.pools.get? pool with
      | none => exact ⟨_, _, rfl, reached, .refl _⟩
      | some state =>
        obtain ⟨count, before⟩ := reached pool state found
        have later := request.reached_after before
        unfold Request.after at later
        simp only
        cases served : request.serve state with
        | error err => exact ⟨_, _, rfl, reached, .refl _⟩
        | ok result =>
          rw [served] at later
          exact ⟨_, _, rfl, used pool state _ found later, .refl _⟩
    | remote path =>
      simp only [exchange]
      cases mux.host.reach path with
      | error fault => exact ⟨_, _, rfl, reached, .refl _⟩
      | ok socket =>
        simp only
        cases mux.poolBehind? socket with
        | none => exact ⟨_, _, rfl, reached, .refl _⟩
        | some pool =>
          simp only [answerFrom]
          cases found : mux.pools.get? pool with
          | none => exact ⟨_, _, rfl, reached, .refl _⟩
          | some state =>
            obtain ⟨count, before⟩ := reached pool state found
            have later := reached_answerAll before request.encode
            exact ⟨_, _, rfl, used pool state _ found later, .refl _⟩
    | scripted ports refusal =>
      have apart : ∀ path, mux.assigners.get? assigner ≠ some (.remote path) := by
        intro path same
        rw [assigned] at same
        cases same
      exact ⟨_, _, rfl, reached, .modify apart _⟩

/-- What is granted along a path where nobody but authorities listens was granted by a pool. -/
theorem exchange_granted {mux : Multiplexer} (reached : PoolsReached mux.pools) {path : Path}
    (only : mux.OnlyAuthoritiesAt path) {request : Request} {grant : Grant}
    (granted : (mux.exchange path request).1 = .ok grant) :
    ∃ count state, PortPool.Reached count state ∧ request.outcome state = .ok grant := by
  unfold exchange at granted
  split at granted
  · cases granted
  · next socket led =>
    have behind := only socket led
    split at granted
    · next nobody =>
      rw [nobody] at behind
      cases behind
    · next pool _ =>
      simp only [answerFrom] at granted
      cases found : mux.pools.get? pool with
      | none =>
        rw [found] at granted
        cases granted
      | some state =>
        obtain ⟨count, used⟩ := reached pool state found
        have heard := heard_readReply used.tidy request []
        simp only [found, answerAll_encode] at granted
        rw [List.append_nil] at heard
        exact ⟨count, state, used, heard.of_ok granted⟩

/-- Authorities that serve use their pools. -/
theorem serveAll_pools {mux : Multiplexer} (reached : PoolsReached mux.pools) :
    PoolsReached mux.serveAll.pools := by
  have one : ∀ (mux : Multiplexer) served, PoolsReached mux.pools →
      PoolsReached (mux.serveConnection served).2.pools := by
    intro mux served reached
    simp only [serveConnection, answerFrom]
    cases mux.host.connections.get? served.connection with
    | none => exact reached
    | some connection =>
      simp only
      cases found : mux.pools.get? served.pool with
      | none => split <;> exact reached
      | some state =>
        obtain ⟨count, before⟩ := reached served.pool state found
        have later := reached.modify served.pool fun _ _ =>
          reached_answerAll before (served.partialRequest ++ connection.callee.unread)
        split <;> exact later
  have inTurn : ∀ (served : List ServedConnection) (mux : Multiplexer), PoolsReached mux.pools →
      PoolsReached (mux.serveConnections served).2.pools := by
    intro served
    induction served with
    | nil => exact fun mux reached => reached
    | cons first others inductionHypothesis =>
      exact fun mux reached => inductionHypothesis _ (one mux first reached)
  have accepted : ∀ (authorities : List AuthorityServer) (mux : Multiplexer),
      (authorities.foldl acceptServed mux).pools = mux.pools := by
    intro authorities
    induction authorities with
    | nil => exact fun mux => rfl
    | cons first others inductionHypothesis =>
      intro mux
      rw [List.foldl_cons, inductionHypothesis]
      unfold acceptServed
      split <;> rfl
  unfold serveAll
  refine inTurn _ _ ?_
  simp only [accepted]
  exact reached

namespace Provides

variable {mux after : Multiplexer}

/-- Nothing is remembered at the start. -/
theorem initial (host : Host) (own : PeerCredentials) : (Multiplexer.initial host own).Provides :=
  ⟨nofun, nofun, nofun, nofun⟩

/-- What is remembered stays good while pools are used and factories and listeners stay who they
are. -/
theorem move (provides : mux.Provides) (pools : PoolsReached after.pools)
    (assigners : KeepsRemotes mux.assigners after.assigners)
    (factories : FactoriesStay mux.factories after.factories)
    (listeners : ListenersStay mux.listeners after.listeners) : after.Provides where
  pools := pools
  remembered found naming remembers := by
    obtain ⟨former, former_found, same, still | none⟩ | ⟨-, none⟩ := factories.each found
    · exact assigners _ _
        (provides.remembered former_found (same ▸ naming) (still ▸ remembers))
    · rw [none] at remembers
      cases remembers
    · rw [none] at remembers
      cases remembers
  made found := by
    obtain ⟨former, former_found, same, -⟩ := listeners _ _ found
    exact same ▸ Nat.lt_of_lt_of_le (provides.made former_found) factories.size
  owed found made naming owes := by
    obtain ⟨former, former_found, sameFactory, sameAssigner⟩ := listeners _ _ found
    obtain ⟨maker, maker_found, same, -⟩ | ⟨absent, -⟩ := factories.each made
    · exact assigners _ _ (provides.owed former_found (sameFactory ▸ maker_found) (same ▸ naming)
        (sameAssigner.trans owes))
    · -- A new factory has not made a listener that was there before.
      have bounded := provides.made former_found
      rw [sameFactory] at bounded
      exact absurd (List.getElem?_eq_none_iff.mp absent) (Nat.not_le_of_lt bounded)

/-- Nothing that is remembered has changed. -/
theorem same (provides : mux.Provides) (pools : after.pools = mux.pools)
    (assigners : after.assigners = mux.assigners) (factories : after.factories = mux.factories)
    (listeners : after.listeners = mux.listeners) : after.Provides := by
  refine provides.move ?_ ?_ ?_ ?_
  · exact pools ▸ provides.pools
  · exact assigners ▸ .refl _
  · exact factories ▸ .refl _
  · exact listeners ▸ .refl _

/-- Factories stay who they are while the host, the clients and the coordinators change. -/
theorem withFactories (provides : mux.Provides) {factories : Table Factory}
    (stay : FactoriesStay mux.factories factories) (host : Host) (clients : Table MuxClient)
    (coordinators : Table (ShutdownCoordinator Nat)) :
    Provides { mux with host, factories, clients, coordinators } :=
  provides.move provides.pools (.refl _) stay (.refl _)

/-- A request changes nothing that is remembered. -/
theorem ask (provides : mux.Provides) (assigner : Nat) (request : Request) :
    (mux.ask assigner request).2.Provides := by
  obtain ⟨pools, assigners, after, used, kept⟩ := ask_keeps provides.pools assigner request
  rw [after]
  exact provides.move used kept (.refl _) (.refl _)

theorem returnPort (provides : mux.Provides) (assigner : Nat) (port : Port) :
    (mux.returnPort assigner port).2.Provides := by
  have asked := provides.ask assigner (.returnPort port)
  exact asked.same rfl rfl rfl rfl

/-- A listener that is detached still knows its assigner. -/
theorem detach (provides : mux.Provides) (number : Nat) (listener : MuxListener) :
    (mux.detach number listener).Provides := by
  rw [detach_eq]
  refine provides.move provides.pools (.refl _) ?_ (.closed _ number)
  unfold factoriesWithout
  split
  · exact .modify _ _ (fun _ => rfl) fun _ => .inl rfl
  · exact .refl _

theorem closeListener (provides : mux.Provides) (number : Nat) :
    (mux.closeListener number).2.Provides := by
  obtain ⟨listener, found, isOpen⟩ | shut := mux.open_or_shut number
  · have detached := provides.detach number listener
    rw [closeListener_of_open found isOpen]
    unfold giveBack
    cases listener.assigner with
    | none => exact detached
    | some assigner => exact detached.returnPort assigner listener.port
  · rw [closeListener_of_not_open shut]
    exact provides

theorem dropListener (provides : mux.Provides) (number : Nat) (hasTasks : Bool) :
    (mux.dropListener number hasTasks).Provides := by
  obtain ⟨listener, found, isOpen⟩ | shut := mux.open_or_shut number
  · rw [dropListener_of_open found isOpen]
    exact (provides.detach number listener).same rfl rfl rfl rfl
  · rw [dropListener_of_not_open shut]
    exact provides

theorem closeClient (provides : mux.Provides) (number : Nat) :
    (mux.closeClient number).Provides := by
  obtain ⟨-, unchanged⟩ | ⟨client, -, -, after⟩ := mux.closeClient_cases number
  · rw [unchanged]
    exact provides
  · rw [after]
    refine provides.withFactories (.modify _ _ ?_ ?_) _ _ _
    · exact fun _ => rfl
    · exact fun _ => .inl rfl

/-- Closing factories keeps what the others remember. -/
theorem keptByClosing : KeptByClosing Provides where
  listener number provides := provides.closeListener number
  client number provides := provides.closeClient number
  factory _ _ fades provides :=
    provides.withFactories (.modify _ _ fades.naming fades.authority) _ _ _
  coordinators _ provides := provides.same rfl rfl rfl rfl

/-- A factory that is registered a new listener of its own keeps what is remembered, if the
listener owes its port to the factory's authority. -/
theorem enlist (provides : mux.Provides) (host : Host) {listener : MuxListener}
    (made : listener.factory < mux.factories.size)
    (owes : ∀ {factory registryPort path assigner},
      mux.factories.get? listener.factory = some factory →
        factory.naming = .socket registryPort path → listener.assigner = some assigner →
          mux.AssignsAt path assigner) : (mux.enlist host listener).Provides := by
  have stay : FactoriesStay mux.factories (mux.enlist host listener).factories := by
    unfold Multiplexer.enlist
    simp only
    split
    · exact .modify _ _ (fun _ => rfl) fun _ => .inl rfl
    · exact .refl _
  have before := provides.withFactories stay host mux.clients mux.coordinators
  refine ⟨provides.pools, before.remembered, fun {number row} found => ?_,
    fun {number row factory registryPort path assigner} found maker naming owed => ?_⟩
  · rw [Multiplexer.enlist, Table.get?_add] at found
    split at found
    · obtain rfl := Option.some.inj found
      exact Nat.lt_of_lt_of_le made stay.size
    · exact before.made found
  · rw [Multiplexer.enlist, Table.get?_add] at found
    split at found
    · obtain rfl := Option.some.inj found
      obtain ⟨former, former_found, same, -⟩ | ⟨absent, -⟩ := stay.each maker
      · exact owes former_found (same ▸ naming) owed
      · exact absurd (List.getElem?_eq_none_iff.mp absent) (Nat.not_le_of_lt made)
    · exact before.owed found maker naming owed

/-- A factory may come to remember an assigner at the path of its naming. -/
theorem remember (provides : mux.Provides) (number : Nat) {assigner : Nat}
    (assigns : ∀ {factory registryPort path}, mux.factories.get? number = some factory →
      factory.naming = .socket registryPort path → mux.AssignsAt path assigner) :
    (mux.modifyFactory number fun state => { state with authority := some assigner }).Provides := by
  have former : ∀ {other factory},
      (mux.factories.modify number fun state => { state with authority := some assigner }).get?
          other = some factory →
        ∃ former, mux.factories.get? other = some former ∧ factory.naming = former.naming ∧
          (factory.authority = former.authority ∨
            other = number ∧ factory.authority = some assigner) := by
    intro other factory found
    rw [Table.get?_modify] at found
    split at found
    · next same =>
      obtain ⟨former, former_found, rfl⟩ := Option.map_eq_some_iff.mp found
      exact ⟨former, former_found, rfl, .inr ⟨same.symm, rfl⟩⟩
    · exact ⟨factory, found, rfl, .inl rfl⟩
  refine ⟨provides.pools, fun found naming remembers => ?_, fun found => ?_,
    fun found made naming owes => ?_⟩
  · obtain ⟨before, before_found, same, still | ⟨rfl, new⟩⟩ := former found
    · exact provides.remembered before_found (same ▸ naming) (still ▸ remembers)
    · obtain rfl := Option.some.inj (new.symm.trans remembers)
      exact assigns before_found (same ▸ naming)
  · simp only [modifyFactory, Table.size_modify]
    exact provides.made found
  · obtain ⟨before, before_found, same, -⟩ := former made
    exact provides.owed found before_found (same ▸ naming) owes

/-- The authority of a naming is looked up at its path. -/
theorem lookUp (provides : mux.Provides) (naming : Naming) :
    (mux.lookUp naming).2.Provides ∧ (mux.lookUp naming).2.factories = mux.factories ∧
      ∀ {registryPort path assigner}, naming = .socket registryPort path →
        (mux.lookUp naming).1 = .ok assigner → (mux.lookUp naming).2.AssignsAt path assigner := by
  cases naming with
  | direct registryPort assigner => exact ⟨provides, rfl, nofun⟩
  | socket registryPort path =>
    simp only [Multiplexer.lookUp]
    cases mux.host.files.leadsToFile path with
    | error fault => exact ⟨provides, rfl, nofun⟩
    | ok leads =>
      cases leads with
      | false => exact ⟨provides, rfl, nofun⟩
      | true =>
        refine ⟨provides.move provides.pools (.add _ _) (.refl _) (.refl _), rfl, ?_⟩
        rintro registryPort path assigner ⟨⟩ ⟨⟩
        exact mux.assigners.get?_add_size _

/-- A factory finds the assigner that it remembers or a new one at the path of its naming. -/
theorem assignerOf (provides : mux.Provides) {number : Nat} {factory : Factory}
    (found : mux.factories.get? number = some factory) :
    (mux.assignerOf number).2.Provides ∧
      ∀ {registryPort path assigner}, factory.naming = .socket registryPort path →
        (mux.assignerOf number).1 = .ok assigner →
          (mux.assignerOf number).2.AssignsAt path assigner := by
  unfold Multiplexer.assignerOf
  simp only [found]
  cases remembers : factory.authority with
  | some assigner =>
    refine ⟨provides, fun {registryPort path named} naming looked => ?_⟩
    obtain rfl := Except.ok.inj looked
    exact provides.remembered found naming remembers
  | none =>
    obtain ⟨kept, same, assigns⟩ := provides.lookUp factory.naming
    simp only
    generalize mux.lookUp factory.naming = looked at kept same assigns ⊢
    obtain ⟨outcome, ready⟩ := looked
    cases outcome with
    | error err => exact ⟨kept, nofun⟩
    | ok assigner =>
      refine ⟨kept.remember number fun {other registryPort path} there naming => ?_,
        fun {registryPort path named} naming looked => ?_⟩
      · rw [same, found] at there
        obtain rfl := Option.some.inj there
        exact assigns naming rfl
      · obtain rfl := Except.ok.inj looked
        exact assigns naming rfl

/-- A port that comes along the path of an authority is one that pools hand out. -/
theorem base_le_newPort (provides : mux.Provides) {path : Path} {assigner : Nat} {port : Port}
    (assigns : mux.AssignsAt path assigner) (only : mux.OnlyAuthoritiesAt path)
    (granted : (mux.newPort assigner).1 = .ok port) :
    Port.anonymousBase ≤ port := by
  unfold AssignsAt at assigns
  have asked : (mux.ask assigner .newPort).1 = .ok (.port port) := by
    unfold Multiplexer.newPort at granted
    split at granted
    · next answered =>
      obtain rfl := Except.ok.inj granted
      rw [answered]
    · cases granted
    · cases granted
  simp only [Multiplexer.ask, assigns] at asked
  obtain ⟨count, state, used, given⟩ := exchange_granted provides.pools only asked
  simp only [Request.outcome, Request.serve] at given
  cases allocated : state.allocate with
  | error err => rw [allocated] at given; cases given
  | ok result =>
    rw [allocated] at given
    obtain rfl := Grant.port.inj (Except.ok.inj given)
    exact used.base_le_port allocated

/-- Obtaining a port changes nothing that is remembered. -/
theorem newPort (provides : mux.Provides) (assigner : Nat) :
    (mux.newPort assigner).2.Provides ∧
      KeepsRemotes mux.assigners (mux.newPort assigner).2.assigners := by
  rw [newPort_snd]
  obtain ⟨pools, assigners, after, -, kept⟩ := ask_keeps provides.pools assigner .newPort
  refine ⟨provides.ask assigner .newPort, ?_⟩
  rw [after]
  exact kept

/-- A creation comes by its port and keeps what is remembered. An anonymous port is owed to the
authority that handed it out, and is one that pools hand out if nobody else listens there. -/
theorem prepare (provides : mux.Provides) {number : Nat} {factory : Factory}
    (found : mux.factories.get? number = some factory) (port : Port) :
    (mux.prepare number factory port).2.Provides ∧
      ∀ {registryPort path assigner bound}, factory.naming = .socket registryPort path →
        (mux.prepare number factory port).1 = some (some assigner, bound) →
          (mux.prepare number factory port).2.AssignsAt path assigner ∧
            (mux.OnlyAuthoritiesAt path → Port.anonymousBase ≤ bound) := by
  unfold Multiplexer.prepare
  split
  · obtain ⟨kept, assigns⟩ := provides.assignerOf found
    have still : ∀ path, mux.OnlyAuthoritiesAt path →
        (mux.assignerOf number).2.OnlyAuthoritiesAt path := by
      obtain ⟨assigners, remember, after, -⟩ := mux.assignerOf_eq number
      rw [after]
      exact fun _ => id
    generalize mux.assignerOf number = looked at kept assigns still ⊢
    obtain ⟨outcome, ready⟩ := looked
    cases outcome with
    | error err => exact ⟨kept, nofun⟩
    | ok assigner =>
      obtain ⟨keptStill, remotes⟩ := kept.newPort assigner
      simp only
      cases asked : ready.newPort assigner with
      | mk answer after =>
      rw [asked] at keptStill remotes
      cases answer with
      | error err => exact ⟨keptStill, nofun⟩
      | ok bound =>
        refine ⟨keptStill, fun {registryPort path named granted} naming chosen => ?_⟩
        obtain ⟨same, rfl⟩ := Prod.mk.inj (Option.some.inj chosen)
        obtain rfl := Option.some.inj same
        have there := assigns naming rfl
        exact ⟨remotes _ _ there, fun only =>
          kept.base_le_newPort there (still _ only) (by rw [asked])⟩
  · split
    · refine ⟨?_, nofun⟩
      unfold createConventional
      split
      · exact provides
      · split
        · exact provides
        · exact provides.same rfl rfl rfl rfl
    · exact ⟨provides, nofun⟩

/-- A listener that is made on an anonymous port owes it to the authority that it came from. -/
theorem createServer (provides : mux.Provides) (number : Nat) (port : Port) :
    (mux.createServer number port).2.Provides := by
  cases found : mux.factories.get? number with
  | none =>
    simp only [Multiplexer.createServer, found]
    exact provides
  | some factory =>
    have after_eq := congrArg Prod.snd (createServer_eq port found)
    simp only at after_eq
    rw [after_eq]
    obtain ⟨kept, owes⟩ := provides.prepare found port
    cases prepared : mux.prepare number factory port with
    | mk chosen ready =>
    rw [prepared] at kept owes
    cases chosen with
    | none => exact kept
    | some chosen =>
      obtain ⟨issuer, bound⟩ := chosen
      simp only [Option.elim_some, bindPrepared]
      split
      · next host _ =>
        have unbound : Provides { ready with host } := kept.same rfl rfl rfl rfl
        unfold refund
        split
        · exact unbound
        · exact unbound.returnPort _ _
      · -- The factory may remember another assigner by now, but its naming is the same.
        obtain ⟨pools, assigners, remember, remembers, rfl⟩ := ready_eq prepared
        refine kept.enlist _ ?_ fun {maker registryPort path assigner} there naming issued => ?_
        · rw [Table.size_modify]
          exact (List.getElem?_eq_some_iff.mp found).1
        · obtain rfl : issuer = some assigner := issued
          have same : maker = remember factory := by
            simp only [listenerFor, Table.get?_modify, if_true, found, Option.map_some] at there
            exact (Option.some.inj there).symm
          obtain ⟨authority, unchanged⟩ := remembers factory
          rw [same, unchanged] at naming
          exact (owes naming rfl).1

/-- The port of an anonymous creation is one that pools hand out, if the naming of the factory is
a path at which nobody but authorities listens. -/
theorem base_le_creation (provides : mux.Provides) {number : Nat} {factory : Factory}
    (found : mux.factories.get? number = some factory) {registryPort : Port} {path : Path}
    (naming : factory.naming = .socket registryPort path) (only : mux.OnlyAuthoritiesAt path)
    {creation : Creation}
    (made : Moment.creation? ⟨mux, .createServer number Port.anonymous⟩ = some creation) :
    Port.anonymousBase ≤ creation.port := by
  have issued : ∀ {issuer bound},
      (mux.prepare number factory Port.anonymous).1 = some (issuer, bound) →
        ∃ assigner, issuer = some assigner := by
    intro issuer bound chosen
    unfold Multiplexer.prepare at chosen
    rw [if_pos rfl] at chosen
    split at chosen
    · cases chosen
    · split at chosen
      · cases chosen
      · next assigner _ _ port _ _ =>
        exact ⟨_, (congrArg Prod.fst (Option.some.inj chosen)).symm⟩
  simp only [Moment.creation?, found, Option.bind_some] at made
  obtain ⟨⟨issuer, bound⟩, chosen, rfl⟩ := Option.map_eq_some_iff.mp made
  obtain ⟨assigner, rfl⟩ := issued chosen
  exact ((provides.prepare found Port.anonymous).2 naming chosen).2 only

end Provides

end Multiplexer

namespace Action

/-- Whether an action leaves every assigner what it is. -/
def keepsAssigners : Action → Bool
  | .changeAssigner .. => false
  | _ => true

end Action

namespace Multiplexer

/-- Every action that leaves the assigners what they are keeps what is remembered. -/
theorem Provides.perform {mux : Multiplexer} (provides : mux.Provides) {action : Action}
    (keeps : action.keepsAssigners = true) : (mux.perform action).Provides := by
  have closing := Provides.keptByClosing
  cases action with
  | changeAssigner => cases keeps
  | makePool => exact provides.move provides.pools.add (.refl _) (.refl _) (.refl _)
  | closePool pool =>
    refine provides.move (provides.pools.modify pool fun state found => ?_) (.refl _) (.refl _)
      (.refl _)
    obtain ⟨count, used⟩ := provides.pools pool state found
    exact ⟨count, .closed used⟩
  | makeAssigner assigner => exact provides.move provides.pools (.add _ _) (.refl _) (.refl _)
  | ask assigner request => exact provides.ask assigner request
  | changeStrangers | makeCoordinator | countLive => exact provides.same rfl rfl rfl rfl
  | makeFactory profile naming transport coordinator =>
    exact provides.withFactories (.add _ rfl) _ _ _
  | changeTransport number transport =>
    refine provides.withFactories (.modify _ _ ?_ ?_) _ _ _
    · exact fun _ => rfl
    · exact fun _ => .inl rfl
  | reorder number servers clients =>
    refine provides.withFactories (.modify _ _ (fun factory => ?_) fun factory => .inl ?_) _ _ _
    all_goals
      unfold Factory.reorder
      split <;> rfl
  | findAssigner number =>
    cases found : mux.factories.get? number with
    | none =>
      simp only [Multiplexer.perform, Multiplexer.assignerOf, found]
      exact provides
    | some factory => exact (provides.assignerOf found).1
  | createServer number port => exact provides.createServer number port
  | createClient number key =>
    obtain ⟨err, host, -, after⟩ | ⟨credentials, file, connection, host, -, -, after⟩ :=
      mux.createClient_cases number key
    all_goals simp only [Multiplexer.perform, after]
    · exact provides.same rfl rfl rfl rfl
    · refine provides.withFactories (.modify _ _ ?_ ?_) _ _ _
      · exact fun _ => rfl
      · exact fun _ => .inl rfl
  | createClientShort number key shortage =>
    obtain ⟨host, forget, forgets, -, after⟩ := mux.createClient_short number key shortage
    simp only [Multiplexer.perform, after]
    refine provides.withFactories (.modify _ _ (fun factory => ?_) fun factory => .inl ?_) _ _ _
    all_goals
      obtain ⟨credentials, forgotten, -⟩ := forgets factory
      rw [forgotten]
  | accept listener =>
    obtain ⟨host, -, after⟩ := mux.acceptOn_eq listener
    simp only [Multiplexer.perform, after]
    exact provides.same rfl rfl rfl rfl
  | beginAccept listener =>
    obtain ⟨host, -, after⟩ := mux.beginAcceptOn_eq listener
    simp only [Multiplexer.perform, after]
    exact provides.same rfl rfl rfl rfl
  | closeListener number => exact provides.closeListener number
  | dropListener number hasTasks => exact provides.dropListener number hasTasks
  | closeClient number => exact provides.closeClient number
  | dropClient number =>
    obtain ⟨host, -, after⟩ := mux.dropClient_eq number
    simp only [Multiplexer.perform, after]
    exact (provides.closeClient number).same rfl rfl rfl rfl
  | closeFactory number => exact closing.closeFactory provides number
  | dropFactory number => exact closing.dropFactory provides number
  | shutDownAll coordinator => exact closing.shutDownAll provides coordinator
  | startAuthority path pool =>
    obtain ⟨host, authorities, after⟩ := mux.startAuthority_eq path pool
    simp only [Multiplexer.perform, after]
    exact provides.same rfl rfl rfl rfl
  | shutDownAuthority number =>
    obtain ⟨host, authorities, after⟩ := mux.shutDownAuthority_eq number
    simp only [Multiplexer.perform, after]
    exact provides.same rfl rfl rfl rfl
  | dropAuthority number =>
    obtain ⟨host, after⟩ := mux.dropAuthority_eq number
    simp only [Multiplexer.perform, after]
    exact provides.same rfl rfl rfl rfl
  | returnOne index =>
    simp only [Multiplexer.perform, Multiplexer.returnOne]
    split
    · exact provides
    · have undue : Provides { mux with due := mux.due.eraseIdx index } :=
        provides.same rfl rfl rfl rfl
      exact undue.returnPort _ _
  | serve =>
    have used := serveAll_pools provides.pools
    obtain ⟨host, pools, served, -, after⟩ := mux.serveAll_eq
    simp only [Multiplexer.perform]
    rw [after] at used ⊢
    exact provides.move used (.refl _) (.refl _) (.refl _)
  | outside host => exact provides.same rfl rfl rfl rfl

end Multiplexer

/-- Runs keep what is remembered unless an assigner becomes another one. -/
theorem Run.provides {start mux : Multiplexer} {history : History}
    (run : Run start history mux) (begun : start.Provides)
    (keeps : ∀ moment ∈ history, moment.action.keepsAssigners = true) : mux.Provides := by
  apply run.induction (motive := fun _ mux => mux.Provides) keeps
  · exact begun
  · exact fun action known provides => provides.perform known

end SocketMux
