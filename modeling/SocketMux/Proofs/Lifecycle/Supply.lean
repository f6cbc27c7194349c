import SocketMux.Proofs.Authority.Remote
import SocketMux.Proofs.Lifecycle.Assigners
import SocketMux.Proofs.Lifecycle.Authorities
import SocketMux.Proofs.Lifecycle.ListenerClose
import SocketMux.Proofs.Lifecycle.OwnFiles

/-!
# Authorities that supply factories

Factories of one naming ask the authority at its path for all their anonymous ports. As long as
the authority stands where the path leads (`Multiplexer.StandsAt`), what they bind is what its pool
hands out, its outages are what they report, and the ports of closed listeners and of failed
creations go back to it (`Multiplexer.SuppliedFrom`).
-/

namespace SocketMux

open SocketMux.Authority

namespace Multiplexer

/-- A call for a server on an anonymous port comes to a pool, behind an authority at an entry. -/
structure ServedFrom (mux : Multiplexer) (number : Nat) (place : Place) (pool : Nat)
    (state : PortPool) : Prop where
  /-- The port that is to be bound is the one that the pool hands out. -/
  granted : ∀ {port next}, state.allocate = .ok (port, next) →
    ∃ creation, Moment.creation? ⟨mux, .createServer number Port.anonymous⟩ = some creation ∧
      creation.port = port ∧ (creation.listener.isSome = true →
        (mux.createServer number Port.anonymous).2.pools.get? pool = some next)
  /-- An outage of the pool is heard of. -/
  refused : ∀ {outage}, state.allocate = .error (.unavailable outage) →
    (mux.createServer number Port.anonymous).1 =
      .error (.unavailable (.stated (MuxError.unavailable outage).message))
  /-- A port that cannot be bound goes back, unless the entry of the authority or a link was
  cleared for it. -/
  refunded : ∀ {port next creation}, state.allocate = .ok (port, next) →
    Moment.creation? ⟨mux, .createServer number Port.anonymous⟩ = some creation →
      creation.listener = none →
        (∀ other, creation.place = some other → other ≠ place ∧ ∀ node target,
          mux.host.files.get? other = some node → node.kind ≠ .link target) →
            (mux.createServer number Port.anonymous).2.pools.get? pool =
              some ((Request.returnPort port).after next)

/-- The factories of a naming have all their anonymous ports from a pool, behind an authority at
an entry, and return them to it. -/
structure SuppliedFrom (mux : Multiplexer) (naming : Naming) (place : Place) (pool : Nat) :
    Prop where
  created : ∀ {number factory state}, mux.factories.get? number = some factory →
    factory.naming = naming → factory.transport.bindsInPlace = true →
      mux.pools.get? pool = some state → mux.ServedFrom number place pool state
  /-- The port of a listener goes back to the pool when the listener is closed. -/
  returned : ∀ {number listener factory assigner state},
    mux.listeners.get? number = some listener → listener.isClosed = false →
      mux.factories.get? listener.factory = some factory → factory.naming = naming →
        listener.assigner = some assigner → mux.pools.get? pool = some state →
          (mux.closeListener number).2.pools.get? pool =
            some ((Request.returnPort listener.port).after state)

section Supplied

variable {mux : Multiplexer} {path : Path} {pool : Nat} {state : PortPool}

theorem AnswersFrom.poolOf? (answers : mux.AnswersFrom path pool) {assigner : Nat}
    (assigns : mux.AssignsAt path assigner) : mux.poolOf? assigner = some pool := by
  obtain ⟨socket, reached, behind⟩ := answers
  unfold AssignsAt at assigns
  simp only [Multiplexer.poolOf?, assigns, reached, Except.toOption, Option.bind_some, behind]

/-- An assigner of a path comes by what the pool behind the path hands out. -/
theorem AnswersFrom.newPort (answers : mux.AnswersFrom path pool) {assigner : Nat}
    (assigns : mux.AssignsAt path assigner) (found : mux.pools.get? pool = some state)
    (tidy : state.Tidy) :
    (∀ {port next}, state.allocate = .ok (port, next) →
      mux.newPort assigner = (.ok port, mux.setPool pool next)) ∧
    ∀ {outage}, state.allocate = .error (.unavailable outage) → (mux.newPort assigner).1 =
      .error (.unavailable (.stated (MuxError.unavailable outage).message)) := by
  obtain ⟨answer, asked, heard⟩ := ask_remote assigns answers found tidy .newPort
  refine ⟨fun {port next} allocated => ?_, fun {outage} refused => ?_⟩
  · simp only [Request.outcome, Request.after, Request.serve, allocated, Except.map] at asked heard
    cases heard
    simp only [Multiplexer.newPort, asked]
  · simp only [Request.outcome, Request.after, Request.serve, refused, Except.map] at asked heard
    cases heard
    simp only [Multiplexer.newPort, asked]

/-- A factory finds the authority of its naming as long as a file stands there. -/
theorem Provides.assignerOf_ok (provides : mux.Provides) {number : Nat} {factory : Factory}
    (found : mux.factories.get? number = some factory) {registryPort : Port}
    (naming : factory.naming = .socket registryPort path)
    (leads : mux.host.files.leadsToFile path = .ok true) :
    ∃ assigner assigners factories,
      mux.assignerOf number = (.ok assigner, { mux with assigners, factories }) ∧
        assigners.get? assigner = some (.remote path) := by
  obtain ⟨-, assigns⟩ := provides.assignerOf found
  obtain ⟨assigners, remember, after, -⟩ := mux.assignerOf_eq number
  have looked : ∃ assigner, (mux.assignerOf number).1 = .ok assigner := by
    simp only [Multiplexer.assignerOf, found]
    cases factory.authority with
    | some assigner => exact ⟨assigner, rfl⟩
    | none =>
      simp only [naming, Multiplexer.lookUp, leads]
      exact ⟨_, rfl⟩
  obtain ⟨assigner, looked⟩ := looked
  have there := assigns naming looked
  rw [after] at there
  exact ⟨assigner, _, _, Prod.ext looked after, there⟩

/-- A creation comes by the port that the pool of the authority hands out. -/
theorem Provides.prepare_ok (provides : mux.Provides) {number : Nat} {factory : Factory}
    (found : mux.factories.get? number = some factory) {registryPort : Port}
    (naming : factory.naming = .socket registryPort path)
    (leads : mux.host.files.leadsToFile path = .ok true) (answers : mux.AnswersFrom path pool)
    (pooled : mux.pools.get? pool = some state) {port : Port} {next : PortPool}
    (allocated : state.allocate = .ok (port, next)) :
    ∃ assigner pools assigners factories,
      mux.prepare number factory Port.anonymous =
          (some (some assigner, port), { mux with pools, assigners, factories }) ∧
        pools.get? pool = some next ∧ assigners.get? assigner = some (.remote path) := by
  obtain ⟨assigner, assigners, factories, looked, assigns⟩ :=
    provides.assignerOf_ok found naming leads
  obtain ⟨count, used⟩ := provides.pools pool state pooled
  have ready : AnswersFrom { mux with assigners, factories } path pool := answers
  have granted := (ready.newPort assigns pooled used.tidy).1 allocated
  refine ⟨assigner, mux.pools.modify pool fun _ => next, assigners, factories, ?_, ?_, assigns⟩
  · unfold Multiplexer.prepare
    rw [if_pos rfl]
    simp only [looked, granted]
    rfl
  · simp [pooled]

/-- The pool that answers an assigner takes a port back. -/
theorem AnswersFrom.returnPort (answers : mux.AnswersFrom path pool) {assigner : Nat}
    (assigns : mux.AssignsAt path assigner) (pooled : mux.pools.get? pool = some state)
    (port : Port) : (mux.returnPort assigner port).2.pools.get? pool =
      some ((Request.returnPort port).after state) := by
  rw [returnPort_after, answers.poolOf? assigns]
  simp only [takenBack, Option.elim_some, Table.get?_modify, if_true, pooled, Option.map_some]

end Supplied

/-- An authority at an entry, in a state in which all sockets, files and assigners are accounted
for. -/
structure Abides (start : Host) (mux : Multiplexer) (place : Place) (standing : Nat)
    (authority : AuthorityServer) (file : Nat) : Prop where
  settled : mux.Settled start
  knows : mux.KnowsFiles start
  provides : mux.Provides
  serves : mux.Serves place standing authority file

/-- An authority that abides at the entry to which a path leads. -/
structure StandsAt (start : Host) (mux : Multiplexer) (path : Path) (place : Place)
    (standing : Nat) (authority : AuthorityServer) (file : Nat) : Prop
    extends Abides start mux place standing authority file where
  located : mux.host.files.locateEntry path = .ok place
  noSlash : FileTree.endsWithSlash path = false
  fits : Host.checkPath path = .ok ()

namespace StandsAt

variable {start : Host} {mux : Multiplexer} {path : Path} {place : Place} {standing : Nat}
  {authority : AuthorityServer} {file : Nat} {state : PortPool} {number : Nat}

theorem answers (stands : StandsAt start mux path place standing authority file) :
    mux.AnswersFrom path authority.pool :=
  stands.serves.answers stands.settled stands.located stands.noSlash stands.fits

theorem leadsToFile (stands : StandsAt start mux path place standing authority file) :
    mux.host.files.leadsToFile path = .ok true := by
  unfold FileTree.leadsToFile
  rw [FileTree.find_of_entry stands.located stands.noSlash stands.serves.entry nofun true]

/-- Where the path still leads, the authority answers as long as it serves at the entry. -/
theorem answersStill (stands : StandsAt start mux path place standing authority file)
    {after : Multiplexer} (evolves : mux.host.Evolves after.host)
    (links : mux.host.files.KeepsLinks after.host.files) (settled : after.Settled start)
    (serves : after.Serves place standing authority file) :
    after.AnswersFrom path authority.pool :=
  serves.answers settled ((evolves.erodes.locateEntry_iff links).mpr stands.located)
    stands.noSlash stands.fits

section Creating

variable {factory : Factory} {registryPort : Port} {port : Port} {next : PortPool}

/-- A creation binds the port that the pool of the authority hands out. -/
theorem granted (stands : StandsAt start mux path place standing authority file)
    (found : mux.factories.get? number = some factory)
    (naming : factory.naming = .socket registryPort path)
    (pooled : mux.pools.get? authority.pool = some state)
    (allocated : state.allocate = .ok (port, next)) :
    ∃ creation, Moment.creation? ⟨mux, .createServer number Port.anonymous⟩ = some creation ∧
      creation.port = port ∧ (creation.listener.isSome = true →
        (mux.createServer number Port.anonymous).2.pools.get? authority.pool = some next) := by
  obtain ⟨assigner, pools, assigners, factories, prepared, left, -⟩ :=
    stands.provides.prepare_ok found naming stands.leadsToFile stands.answers pooled allocated
  have both := createServer_eq Port.anonymous found
  simp only [prepared, Option.elim_some, bindPrepared] at both
  refine ⟨⟨number, port, some assigner, factory.clearedPlace? mux.host port,
    listenerOf? (mux.createServer number Port.anonymous).1⟩, ?_, rfl, fun listens => ?_⟩
  · simp only [Moment.creation?, found, Option.bind_some, prepared, Option.map_some]
  · generalize factory.bindFile mux.host port = bind at both
    obtain ⟨outcome, host⟩ := bind
    obtain ⟨listener, after⟩ := Prod.mk.inj both
    cases outcome with
    | error err =>
      rw [listener] at listens
      cases listens
    | ok socket =>
      rw [after]
      exact left

/-- An outage of the pool is heard of. -/
theorem refused (stands : StandsAt start mux path place standing authority file)
    (found : mux.factories.get? number = some factory)
    (naming : factory.naming = .socket registryPort path)
    (pooled : mux.pools.get? authority.pool = some state) {outage : Outage}
    (refused : state.allocate = .error (.unavailable outage)) :
    (mux.createServer number Port.anonymous).1 =
      .error (.unavailable (.stated (MuxError.unavailable outage).message)) := by
  obtain ⟨assigner, assigners, factories, looked, assigns⟩ :=
    stands.provides.assignerOf_ok found naming stands.leadsToFile
  obtain ⟨count, used⟩ := stands.provides.pools _ state pooled
  have ready : AnswersFrom { mux with assigners, factories } path authority.pool := stands.answers
  have heard := (ready.newPort assigns pooled used.tidy).2 refused
  simp only [Multiplexer.createServer, found, if_true, createAnonymous, looked]
  generalize newPort { mux with assigners, factories } assigner = asked at heard ⊢
  obtain ⟨answer, after⟩ := asked
  obtain rfl : answer = _ := heard
  rfl

/-- A port that cannot be bound goes back to the pool, unless the entry of the authority or a link
was cleared for it. -/
theorem refunded (stands : StandsAt start mux path place standing authority file)
    (found : mux.factories.get? number = some factory)
    (naming : factory.naming = .socket registryPort path)
    (inPlace : factory.transport.bindsInPlace = true)
    (pooled : mux.pools.get? authority.pool = some state)
    (allocated : state.allocate = .ok (port, next)) {creation : Creation}
    (made : Moment.creation? ⟨mux, .createServer number Port.anonymous⟩ = some creation)
    (unmade : creation.listener = none)
    (spared : ∀ other, creation.place = some other → other ≠ place ∧ ∀ node target,
      mux.host.files.get? other = some node → node.kind ≠ .link target) :
    (mux.createServer number Port.anonymous).2.pools.get? authority.pool =
      some ((Request.returnPort port).after next) := by
  obtain ⟨assigner, pools, assigners, factories, prepared, left, assigns⟩ :=
    stands.provides.prepare_ok found naming stands.leadsToFile stands.answers pooled allocated
  have both := createServer_eq Port.anonymous found
  simp only [prepared, Option.elim_some, bindPrepared] at both
  simp only [Moment.creation?, found, Option.bind_some, prepared, Option.map_some] at made
  obtain rfl := Option.some.inj made
  cases bind : factory.bindFile mux.host port with
  | mk outcome host =>
  rw [bind] at both
  obtain ⟨listener, after⟩ := Prod.mk.inj both
  cases outcome with
  | ok socket => cases listener.symm.trans unmade
  | error err =>
    have evolves := Factory.bindFile_evolves inPlace bind
    have links : mux.host.files.KeepsLinks host.files := fun other node target there isLink =>
      (Factory.bindFile_entry inPlace bind fun here =>
        (spared other here).2 node target there isLink).trans there
    have kept := stands.serves.bindFile inPlace bind fun here => (spared place here).1 rfl
    have settled : Settled start { mux with host } := stands.settled.evolveHost evolves rfl rfl
    have answers := stands.answersStill evolves links settled kept
    have ready : AnswersFrom { mux with host, pools, assigners, factories } path
      authority.pool := answers
    rw [after]
    exact ready.returnPort assigns left port

end Creating

/-- The port of a listener goes back to the pool of the authority when the listener is closed. -/
theorem takesBack (stands : StandsAt start mux path place standing authority file)
    {listener : MuxListener} {assigner : Nat} (found : mux.listeners.get? number = some listener)
    (isOpen : listener.isClosed = false) (owes : listener.assigner = some assigner)
    (assigns : mux.AssignsAt path assigner)
    (pooled : mux.pools.get? authority.pool = some state) :
    (mux.closeListener number).2.pools.get? authority.pool =
      some ((Request.returnPort listener.port).after state) := by
  have evolves := Settled.withoutListener_evolves mux.host listener
  have links := stands.knows.keepsLinks stands.settled found fun _ _ _ there _ => there
  obtain ⟨settled, kept⟩ := (Serves.keptByTraffic start place standing authority file).ended
    found isOpen ⟨stands.settled, stands.serves⟩
  have answers := stands.answersStill evolves links settled kept
  have detached : (mux.detach number listener).AnswersFrom path authority.pool := by
    rw [detach_eq]
    exact answers
  have assigned : (mux.detach number listener).AssignsAt path assigner := by
    rw [detach_eq]
    exact assigns
  have left : (mux.detach number listener).pools.get? authority.pool = some state := by
    rw [detach_eq]
    exact pooled
  rw [closeListener_of_open found isOpen]
  unfold giveBack
  rw [owes]
  exact detached.returnPort assigned left listener.port

/-- An authority that stands where the path in a naming leads supplies the factories of this
naming. -/
theorem suppliedFrom (stands : StandsAt start mux path place standing authority file)
    (registryPort : Port) :
    mux.SuppliedFrom (.socket registryPort path) place authority.pool where
  created found naming inPlace pooled :=
    { granted := fun allocated => stands.granted found naming pooled allocated
      refused := fun outage => stands.refused found naming pooled outage
      refunded := fun allocated made unmade spared =>
        stands.refunded found naming inPlace pooled allocated made unmade spared }
  returned found isOpen maker naming owes pooled :=
    stands.takesBack found isOpen owes (stands.provides.owed found maker naming owes) pooled

end StandsAt

/-- An authority that has just been started abides at the entry of its path. -/
theorem Abides.started {start : Host} {mux : Multiplexer} {path : Path} {pool number : Nat}
    {place : Place} (settled : mux.Settled start) (knows : mux.KnowsFiles start)
    (provides : mux.Provides) (started : (mux.startAuthority path pool).1 = .ok number)
    (located : mux.host.files.locateEntry path = .ok place) :
    Abides start (mux.startAuthority path pool).2 place number
      ⟨path, pool, mux.host.spots.length, false⟩ mux.host.files.nextNumber := by
  obtain ⟨serves, -⟩ := startAuthority_ok (Prod.ext started rfl) located
  obtain ⟨host, authorities, after⟩ := mux.startAuthority_eq path pool
  refine ⟨settled.startAuthority path pool,
    knows.evolve settled (mux.startAuthority_evolves path pool) ?_, ?_, serves⟩
  · rw [after]
  · rw [after]
    exact provides.same rfl rfl rfl rfl

end Multiplexer

end SocketMux
