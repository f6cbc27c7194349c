import SocketMux.Proofs.Lifecycle.Traffic

/-!
# Who owns which socket

Every listener and every authority has a socket of its own, and the file that a listener
remembers is the one at which its socket listens (`Multiplexer.Settled`). Runs keep this
while transports bind what they are asked to bind and whoever else is on the host leaves
files and sockets at files alone (`Moment.IsOrderly`, `Run.settled`).
-/

namespace SocketMux

/-- An address keeps the bytes it was made of, which are not empty. -/
theorem LocalAddress.ofBytes_ok {bytes : List UInt8} {port : Port} {address : LocalAddress}
    (made : ofBytes bytes port = .ok address) : address.bytes = bytes ∧ bytes ≠ [] := by
  unfold ofBytes at made
  split at made
  · cases made
  · next nonempty =>
    cases checked : port.checked with
    | error err => simp only [checked, bind, Except.bind] at made; cases made
    | ok port =>
      simp only [checked, bind, Except.bind, pure, Except.pure] at made
      injection made with made
      exact ⟨by rw [← made], nonempty⟩

/-- Bytes make an address on every multiplexed port. -/
theorem LocalAddress.ofBytes_of_isMultiplexed {bytes : List UInt8} {port : Port}
    (nonempty : bytes ≠ []) (multiplexed : port.isMultiplexed = true) :
    ofBytes bytes port = .ok ⟨bytes, port⟩ := by
  have least := of_decide_eq_true multiplexed
  have inRange : ¬port < -1 := by
    rw [Int32.lt_iff_toInt_lt]
    rw [Int32.le_iff_toInt_le] at least
    have base : Port.multiplexedBase.toInt = 100000 := by decide
    have minusOne : (-1 : Int32).toInt = -1 := by decide
    omega
  unfold ofBytes Port.checked
  rw [if_neg nonempty, if_neg inRange]
  rfl

namespace Transport

variable {host after : Host} {address : LocalAddress} {outcome : Except MuxError Nat}

/-- Binding an abstract name leaves all files alone. -/
theorem bindPlainly_of_isAbstract (isAbstract : address.isAbstract = true)
    (bound : bindPlainly host address true = (outcome, after)) :
    host.SameListening after ∧ ∀ socket, outcome = .ok socket →
      socket = host.spots.length ∧ after.spots.length = host.spots.length + 1 := by
  simp only [bindPlainly, isAbstract, if_true] at bound
  cases listened : host.listenUnder address.bytes.tail with
  | error fault =>
    rw [listened] at bound
    obtain ⟨rfl, rfl⟩ := Prod.mk.inj bound
    exact ⟨.refl _, nofun⟩
  | ok both =>
    obtain ⟨socket, next⟩ := both
    rw [listened] at bound
    obtain ⟨rfl, rfl⟩ := Prod.mk.inj bound
    refine ⟨Host.listenUnder_listening listened, fun _ same => ?_⟩
    cases same
    obtain ⟨last, -, extended⟩ := Host.spots_listenUnder listened
    exact ⟨by rw [last, Host.spots_length], by simp [extended]⟩

/-- Binding a path fails and changes nothing, or it clears the entry of the path, and takes
it if it succeeds. -/
theorem bindPlainly_of_isPath (isPath : address.isAbstract = false)
    (nonempty : address.bytes ≠ []) (bound : bindPlainly host address true = (outcome, after)) :
    (host.clearedPlace? address.bytes = none ∧ after = host ∧ ∃ err, outcome = .error err) ∨
    ∃ place, host.clearedPlace? address.bytes = some place ∧
      host.files.locateEntry address.bytes = .ok place ∧
        ((∃ err, outcome = .error err ∧ Host.Cleared place host after) ∨
          (outcome = .ok host.spots.length ∧ FileTree.endsWithSlash address.bytes = false ∧
            Host.checkPath address.bytes = .ok () ∧ Host.Taken place host after ∧
            after.fileNumber address.bytes = .ok host.files.nextNumber)) := by
  simp only [bindPlainly, isPath, Bool.false_eq_true, if_false, if_true] at bound
  have noName : Host.abstractName? address.bytes = none := by
    simpa [address.isAbstract_eq] using isPath
  unfold Host.clearedPlace?
  cases removed : host.removeIfPresent address.bytes with
  | error fault =>
    rw [removed] at bound
    obtain ⟨rfl, rfl⟩ := Prod.mk.inj bound
    exact .inl ⟨rfl, rfl, _, rfl⟩
  | ok between =>
    simp only [removed] at bound
    obtain ⟨place, located, cleared⟩ | ⟨⟨fault, astray⟩, rfl⟩ := Host.removeIfPresent_ok removed
    · refine .inr ⟨place, congrArg Except.toOption located, located, ?_⟩
      cases listened : between.listen address.bytes with
      | error fault =>
        rw [listened] at bound
        obtain ⟨rfl, rfl⟩ := Prod.mk.inj bound
        exact .inl ⟨_, rfl, cleared⟩
      | ok both =>
        obtain ⟨socket, next⟩ := both
        rw [listened] at bound
        obtain ⟨rfl, rfl⟩ := Prod.mk.inj bound
        obtain ⟨there, reached, free, noSlash, fits, last, taken⟩ :=
          Host.listen_ok listened noName nonempty
        have same := cleared.evolves.erodes.locateEntry reached
        rw [located] at same
        injection same with same
        subst same
        refine .inr ⟨by rw [last, cleared.spots], noSlash, fits, cleared.taken taken, ?_⟩
        rw [taken.fileNumber reached free noSlash, cleared.next]
    · refine .inl ⟨congrArg Except.toOption astray, ?_⟩
      cases listened : between.listen address.bytes with
      | error fault =>
        rw [listened] at bound
        obtain ⟨rfl, rfl⟩ := Prod.mk.inj bound
        exact ⟨rfl, _, rfl⟩
      | ok both =>
        obtain ⟨place, located, -⟩ := Host.listen_ok listened noName nonempty
        rw [astray] at located
        cases located

end Transport

namespace Factory

/-- Binding with a transport that binds in place leaves all files alone, or it clears an
entry, and takes it if it succeeds. -/
theorem bindFile_cases {factory : Factory} {host after : Host} {port : Port}
    {outcome : Except MuxError Nat} (inPlace : factory.transport.bindsInPlace = true)
    (bound : factory.bindFile host port = (outcome, after)) :
    (factory.clearedPlace? host port = none ∧ host.SameListening after ∧
      ∀ socket, outcome = .ok socket →
        socket = host.spots.length ∧ after.spots.length = host.spots.length + 1 ∧
          (factory.profile.fileFor port).contains 0 = true) ∨
    ∃ place, factory.clearedPlace? host port = some place ∧
      host.files.locateEntry (factory.profile.fileFor port) = .ok place ∧
        ((∃ err, outcome = .error err ∧ Host.Cleared place host after) ∨
          (outcome = .ok host.spots.length ∧
            FileTree.endsWithSlash (factory.profile.fileFor port) = false ∧
            Host.checkPath (factory.profile.fileFor port) = .ok () ∧
            Host.Taken place host after ∧
            after.fileNumber (factory.profile.fileFor port) = .ok host.files.nextNumber)) := by
  unfold bindFile at bound
  cases made : LocalAddress.ofBytes (factory.profile.fileFor port) port with
  | error err =>
    rw [made] at bound
    obtain ⟨rfl, rfl⟩ := Prod.mk.inj bound
    exact .inl ⟨by simp [clearedPlace?, made], .refl _, nofun⟩
  | ok address =>
    obtain ⟨bytes, nonempty⟩ := LocalAddress.ofBytes_ok made
    rw [← bytes] at nonempty
    simp only [made] at bound
    cases failure : factory.transport.bindFailure with
    | some err =>
      rw [Transport.bind_of_bindFailure failure] at bound
      obtain ⟨rfl, rfl⟩ := Prod.mk.inj bound
      exact .inl ⟨by simp [clearedPlace?, made, failure], .refl _, nofun⟩
    | none =>
      rw [Transport.bind_of_bindsInPlace inPlace failure] at bound
      cases isAbstract : address.isAbstract with
      | true =>
        obtain ⟨same, fresh⟩ := Transport.bindPlainly_of_isAbstract isAbstract bound
        refine .inl ⟨by simp [clearedPlace?, made, isAbstract], same, fun socket ok => ?_⟩
        obtain ⟨last, longer⟩ := fresh socket ok
        rw [← bytes]
        exact ⟨last, longer, address.contains_of_isAbstract isAbstract⟩
      | false =>
        have clears : factory.clearedPlace? host port = host.clearedPlace? address.bytes := by
          simp [clearedPlace?, made, isAbstract, failure]
        rw [clears, ← bytes]
        obtain ⟨nothing, rfl, err, rfl⟩ | cleared :=
          Transport.bindPlainly_of_isPath isAbstract nonempty bound
        · exact .inl ⟨nothing, .refl _, nofun⟩
        · exact .inr cleared

/-- Binding a socket file leaves all entries alone but the one that is cleared for it. -/
theorem bindFile_entry {factory : Factory} {host after : Host} {port : Port}
    {outcome : Except MuxError Nat} (inPlace : factory.transport.bindsInPlace = true)
    (bound : factory.bindFile host port = (outcome, after)) {place : Place}
    (apart : factory.clearedPlace? host port ≠ some place) :
    after.files.get? place = host.files.get? place := by
  obtain ⟨-, same, -⟩ | ⟨other, there, -, ⟨-, -, cleared⟩ | ⟨-, -, -, taken, -⟩⟩ :=
    Factory.bindFile_cases inPlace bound
  · rw [same.files]
  · refine (cleared.entry place).trans (if_neg ?_)
    rintro rfl
    exact apart there
  · refine (taken.entry place).trans (if_neg ?_)
    rintro rfl
    exact apart there

/-- Binding a socket file lets the host evolve. -/
theorem bindFile_evolves {factory : Factory} {host after : Host} {port : Port}
    {outcome : Except MuxError Nat} (inPlace : factory.transport.bindsInPlace = true)
    (bound : factory.bindFile host port = (outcome, after)) : host.Evolves after := by
  obtain ⟨-, same, -⟩ | ⟨place, -, -, ⟨-, -, cleared⟩ | ⟨-, -, -, taken, -⟩⟩ :=
    bindFile_cases inPlace bound
  · exact same.evolves
  · exact cleared.evolves
  · exact taken.evolves

/-- A socket that was bound comes after all others and listens at the file of the port. -/
theorem bindFile_ok {factory : Factory} {host after : Host} {port : Port} {socket : Nat}
    (inPlace : factory.transport.bindsInPlace = true)
    (bound : factory.bindFile host port = (.ok socket, after)) :
    socket = host.spots.length ∧ after.spots.length = host.spots.length + 1 ∧
      ∀ file, after.fileNumber (factory.profile.fileFor port) = .ok file →
        after.spots[socket]? = some (SocketSpot.file file, true) := by
  obtain ⟨-, -, only⟩ | ⟨place, -, -, ⟨err, failed, -⟩ | ⟨made, -, -, taken, numbered⟩⟩ :=
    bindFile_cases inPlace bound
  · obtain ⟨last, longer, zero⟩ := only socket rfl
    refine ⟨last, longer, fun file numbered => ?_⟩
    rw [after.fileNumber_of_zero zero] at numbered
    cases numbered
  · cases failed
  · injection made with last
    refine ⟨last, by rw [taken.spots]; simp, fun file found => ?_⟩
    rw [numbered] at found
    injection found with same
    rw [taken.spot, if_pos last, same]

/-- The entry that is cleared is the one of the socket file. -/
theorem locateEntry_of_clearedPlace? {factory : Factory} {host : Host} {port : Port}
    {place : Place} (cleared : factory.clearedPlace? host port = some place) :
    host.files.locateEntry (factory.profile.fileFor port) = .ok place := by
  unfold clearedPlace? at cleared
  split at cleared
  · cases cleared
  · next address made =>
    split at cleared
    · cases cleared
    · rw [← (LocalAddress.ofBytes_ok made).1]
      unfold Host.clearedPlace? at cleared
      split at cleared
      · cases located : host.files.locateEntry address.bytes with
        | ok other =>
          rw [located] at cleared
          injection cleared with same
          rw [same]
        | error fault =>
          rw [located] at cleared
          cases cleared
      · cases cleared

end Factory

namespace Multiplexer

/-- The sockets of all listeners and authorities. -/
def ownSockets (mux : Multiplexer) : List Nat :=
  mux.listeners.rows.map MuxListener.socket ++ mux.authorities.rows.map AuthorityServer.socket

/-- Everything that listens has its own socket, and listeners know their files. -/
structure Settled (start : Host) (mux : Multiplexer) : Prop where
  evolves : start.Evolves mux.host
  sound : mux.host.Sound
  bounded : ∀ socket ∈ mux.ownSockets, socket < mux.host.spots.length
  distinct : mux.ownSockets.Nodup
  files : ∀ {number listener file}, mux.listeners.get? number = some listener →
    listener.fileNumber = some file →
      ∃ isOpen, mux.host.spots[listener.socket]? = some (SocketSpot.file file, isOpen)

namespace Settled

variable {start : Host} {mux after : Multiplexer}

/-- The host may evolve while the owners stay the same. -/
theorem evolve (settled : mux.Settled start) (evolves : mux.host.Evolves after.host)
    (owners : after.ownSockets = mux.ownSockets)
    (files : ∀ {number listener}, after.listeners.get? number = some listener →
      ∃ former, mux.listeners.get? number = some former ∧
        former.socket = listener.socket ∧ former.fileNumber = listener.fileNumber) :
    after.Settled start where
  evolves := settled.evolves.trans evolves
  sound := evolves.sound settled.sound
  bounded socket member := by
    rw [owners] at member
    exact Nat.lt_of_lt_of_le (settled.bounded socket member) evolves.length_le
  distinct := by
    rw [owners]
    exact settled.distinct
  files found numbered := by
    obtain ⟨former, former_found, socket_eq, number_eq⟩ := files found
    obtain ⟨isOpen, there⟩ := settled.files former_found (number_eq.trans numbered)
    rw [socket_eq] at there
    exact evolves.spots _ _ _ there

/-- The host may evolve while listeners and authorities stay the same. -/
theorem evolveHost (settled : mux.Settled start) (evolves : mux.host.Evolves after.host)
    (listeners : after.listeners = mux.listeners)
    (authorities : after.authorities = mux.authorities) : after.Settled start := by
  refine settled.evolve evolves ?_ ?_
  · unfold ownSockets
    rw [listeners, authorities]
  · intro number listener found
    rw [listeners] at found
    exact ⟨listener, found, rfl, rfl⟩

/-- What is settled may be looked at from now on. -/
theorem fromNow (settled : mux.Settled start) : mux.Settled mux.host :=
  { settled with evolves := .refl _ }

/-- What closing a listener does to the host. -/
theorem withoutListener_evolves (host : Host) (listener : MuxListener) :
    host.Evolves (host.withoutListener listener) := by
  refine (host.closeSocket_evolves listener.socket).trans ?_
  unfold Host.withoutListener
  cases listener.fileNumber with
  | none => exact .refl _
  | some number => exact Host.removeNumbered_evolves _ _ _

/-- Traffic keeps the sockets settled. -/
theorem keptByTraffic (start : Host) : KeptByTraffic fun mux => mux.Settled start where
  same settled same := settled.evolveHost same.host.evolves same.listeners same.authorities
  ended {mux number listener} found _ settled := by
    refine settled.evolve (withoutListener_evolves mux.host listener) ?_ ?_
    · exact congrArg (· ++ _)
        (mux.listeners.map_modify number MuxListener.socket fun _ => rfl)
    · intro other row row_found
      rw [Table.get?_modify] at row_found
      split at row_found
      · obtain ⟨former, former_found, rfl⟩ := Option.map_eq_some_iff.mp row_found
        exact ⟨former, former_found, rfl, rfl⟩
      · exact ⟨row, row_found, rfl, rfl⟩

/-- A new owner has the socket that comes after all others. -/
theorem own (settled : mux.Settled start) (evolves : mux.host.Evolves after.host)
    (owners : after.ownSockets.Perm (mux.host.spots.length :: mux.ownSockets))
    (made : after.host.spots.length = mux.host.spots.length + 1)
    (files : ∀ {number listener file}, after.listeners.get? number = some listener →
      listener.fileNumber = some file →
        mux.listeners.get? number = some listener ∨
          ∃ isOpen, after.host.spots[listener.socket]? = some (SocketSpot.file file, isOpen)) :
    after.Settled start where
  evolves := settled.evolves.trans evolves
  sound := evolves.sound settled.sound
  bounded socket member := by
    rcases List.mem_cons.mp (owners.mem_iff.mp member) with rfl | member
    · omega
    · have below := settled.bounded socket member
      omega
  distinct := by
    refine owners.nodup_iff.mpr (List.nodup_cons.mpr ⟨fun member => ?_, settled.distinct⟩)
    exact Nat.lt_irrefl _ (settled.bounded _ member)
  files found numbered := by
    rcases files found numbered with former_found | there
    · obtain ⟨isOpen, there⟩ := settled.files former_found numbered
      exact evolves.spots _ _ _ there
    · exact there

end Settled

/-- A call for a server keeps the sockets settled. -/
theorem Creates.settled {start : Host} {mux after : Multiplexer} {number : Nat}
    {factory : Factory} {creation : Option Creation}
    (creates : Creates mux number factory creation after)
    (inPlace : factory.transport.bindsInPlace = true) (settled : mux.Settled start) :
    after.Settled start := by
  cases creates with
  | nothing remembers =>
    refine settled.evolveHost (Host.SameListening.evolves ?_) rfl rfl
    exact .of_eq rfl rfl
  | @failed port bound issuer ready err host prepared unbound =>
    obtain ⟨pools, assigners, remember, remembers, rfl⟩ := ready_eq prepared
    obtain ⟨morePools, moreAssigners, refunded⟩ := refund_eq
      { mux with host, pools, assigners, factories := mux.factories.modify number remember }
      issuer bound
    rw [refunded]
    exact settled.evolveHost (Factory.bindFile_evolves inPlace unbound) rfl rfl
  | @made port bound issuer ready socket host prepared bind =>
    obtain ⟨pools, assigners, remember, remembers, rfl⟩ := ready_eq prepared
    obtain ⟨last, longer, listens⟩ := Factory.bindFile_ok inPlace bind
    refine settled.own (Factory.bindFile_evolves inPlace bind) ?_ longer ?_
    · simp only [ownSockets, enlist, listenerFor, Table.add, List.map_append, List.map_cons,
        List.map_nil, List.append_assoc, List.singleton_append]
      rw [last]
      exact List.perm_middle
    · intro other row file row_found row_numbered
      simp only [enlist, Table.get?_add] at row_found
      split at row_found
      · injection row_found with row_is
        rw [← row_is] at row_numbered ⊢
        simp only [listenerFor] at row_numbered
        cases numbered : host.fileNumber (factory.profile.fileFor bound) with
        | error fault => rw [numbered] at row_numbered; cases row_numbered
        | ok present =>
          rw [numbered] at row_numbered
          injection row_numbered with same
          exact .inr ⟨true, listens file (by rw [numbered, same])⟩
      · exact .inl row_found

/-- Starting an authority clears the entry of its path, and takes it if it succeeds. -/
theorem startAuthority_cases (mux : Multiplexer) (path : Path) (pool : Nat) :
    ∃ host authorities, (mux.startAuthority path pool).2 = { mux with host, authorities } ∧
      (mux.host.SameListening host ∨
        ∃ place, mux.host.files.locateEntry path = .ok place ∧
          (Host.Cleared place mux.host host ∨ Host.Taken place mux.host host)) ∧
      (authorities = mux.authorities ∨
        (authorities.rows.map AuthorityServer.socket =
            mux.authorities.rows.map AuthorityServer.socket ++ [mux.host.spots.length] ∧
          host.spots.length = mux.host.spots.length + 1)) := by
  have owners : ∀ socket,
      ((mux.authorities.add ⟨path, pool, socket, false⟩).2.rows.map AuthorityServer.socket) =
        mux.authorities.rows.map AuthorityServer.socket ++ [socket] := by
    intro socket
    simp [Table.add]
  unfold startAuthority
  cases removed : mux.host.removeIfPresent path with
  | error fault => exact ⟨_, _, rfl, .inl (.refl _), .inl rfl⟩
  | ok between =>
    simp only
    obtain ⟨place, located, cleared⟩ | ⟨⟨fault, astray⟩, rfl⟩ := Host.removeIfPresent_ok removed
    · cases listened : between.listen path with
      | error fault => exact ⟨_, _, rfl, .inr ⟨place, located, .inl cleared⟩, .inl rfl⟩
      | ok both =>
        obtain ⟨socket, host⟩ := both
        obtain ⟨there, reached, -, -, -, last, taken⟩ := Host.listen_ok listened
          (Host.abstractName?_of_locateEntry located) (FileTree.ne_nil_of_locateEntry located)
        have same := cleared.evolves.erodes.locateEntry reached
        rw [located] at same
        injection same with same
        subst same
        rw [cleared.spots] at last
        refine ⟨_, _, rfl, .inr ⟨place, located, .inr (cleared.taken taken)⟩, .inr ⟨?_, ?_⟩⟩
        · rw [owners, last]
        · rw [taken.spots, cleared.spots]
          simp
    · cases listened : mux.host.listen path with
      | error fault => exact ⟨_, _, rfl, .inl (.refl _), .inl rfl⟩
      | ok both =>
        obtain ⟨socket, host⟩ := both
        obtain ⟨last, longer, same | ⟨place, located, -⟩⟩ := Host.listen_cases listened
        · exact ⟨_, _, rfl, .inl same, .inr ⟨by rw [owners, last], longer⟩⟩
        · rw [astray] at located
          cases located

/-- Starting an authority lets the host evolve. -/
theorem startAuthority_evolves (mux : Multiplexer) (path : Path) (pool : Nat) :
    mux.host.Evolves (mux.startAuthority path pool).2.host := by
  obtain ⟨host, authorities, after, same | ⟨place, -, cleared | taken⟩, -⟩ :=
    mux.startAuthority_cases path pool
  all_goals rw [after]
  · exact same.evolves
  · exact cleared.evolves
  · exact taken.evolves

/-- Shutting an authority down closes its socket and clears the entry of its path. -/
theorem shutDownAuthority_cases (mux : Multiplexer) (number : Nat) :
    ∃ host authorities, (mux.shutDownAuthority number).2 = { mux with host, authorities } ∧
      authorities.rows.map AuthorityServer.socket =
        mux.authorities.rows.map AuthorityServer.socket ∧
      (host = mux.host ∨ ∃ authority, mux.authorities.get? number = some authority ∧
        (host = mux.host.closeSocket authority.socket ∨
          ∃ place, mux.host.files.locateEntry authority.path = .ok place ∧
            Host.Cleared place (mux.host.closeSocket authority.socket) host)) := by
  have owners : ∀ change : AuthorityServer → AuthorityServer,
      (∀ authority, (change authority).socket = authority.socket) →
        (mux.authorities.modify number change).rows.map AuthorityServer.socket =
          mux.authorities.rows.map AuthorityServer.socket :=
    fun _ => mux.authorities.map_modify number AuthorityServer.socket
  unfold shutDownAuthority
  cases found : mux.authorities.get? number with
  | none => exact ⟨_, _, rfl, rfl, .inl rfl⟩
  | some authority =>
    simp only
    split
    · exact ⟨_, _, rfl, rfl, .inl rfl⟩
    · cases removed : (mux.host.closeSocket authority.socket).removeIfPresent authority.path with
      | error fault =>
        exact ⟨_, _, rfl, owners _ fun _ => rfl, .inr ⟨authority, rfl, .inl rfl⟩⟩
      | ok host =>
        refine ⟨_, _, rfl, owners _ fun _ => rfl, .inr ⟨authority, rfl, ?_⟩⟩
        obtain ⟨place, located, cleared⟩ | ⟨-, same⟩ := Host.removeIfPresent_ok removed
        · rw [Host.closeSocket_files] at located
          exact .inr ⟨place, located, cleared⟩
        · exact .inl same

/-- Shutting an authority down lets the host evolve. -/
theorem shutDownAuthority_evolves (mux : Multiplexer) (number : Nat) :
    mux.host.Evolves (mux.shutDownAuthority number).2.host := by
  obtain ⟨host, authorities, after, -, change⟩ := mux.shutDownAuthority_cases number
  rw [after]
  obtain rfl | ⟨authority, -, rfl | ⟨place, -, cleared⟩⟩ := change
  · exact .refl _
  · exact mux.host.closeSocket_evolves _
  · exact (mux.host.closeSocket_evolves _).trans cleared.evolves

/-- Dropping an authority at most closes its socket. -/
theorem dropAuthority_evolves (mux : Multiplexer) (number : Nat) :
    mux.host.Evolves (mux.dropAuthority number).host := by
  unfold dropAuthority
  split
  · exact .refl _
  · exact mux.host.closeSocket_evolves _

end Multiplexer

/-- At an orderly moment, factories bind what they ask for, and whoever else is on the host
leaves its files alone, and does not listen at any. -/
structure Moment.IsOrderly (moment : Moment) : Prop where
  inPlace : ∀ {number factory}, moment.state.factories.get? number = some factory →
    factory.transport.bindsInPlace = true
  outside : ∀ {host}, moment.action = .outside host → moment.state.host.SameListening host

/-- Whether all factories bind what they ask for and nobody else does anything. -/
def Moment.staysInside (moment : Moment) : Bool :=
  moment.state.factories.rows.all (fun factory => factory.transport.bindsInPlace) &&
    match moment.action with
    | .outside _ => false
    | _ => true

theorem Moment.IsOrderly.of_staysInside {moment : Moment} (stays : moment.staysInside = true) :
    moment.IsOrderly := by
  obtain ⟨inPlace, inside⟩ := Bool.and_eq_true_iff.mp stays
  constructor
  · intro number factory found
    exact List.all_eq_true.mp inPlace factory (List.mem_of_getElem? found)
  · intro host acts
    rw [acts] at inside
    cases inside

namespace Multiplexer

/-- Nothing is owned at the start. -/
theorem Settled.initial {host : Host} (own : PeerCredentials) (sound : host.Sound) :
    (Multiplexer.initial host own).Settled host :=
  ⟨.refl host, sound, nofun, List.nodup_nil, nofun⟩

/-- Starting an authority keeps the sockets settled. -/
theorem Settled.startAuthority {start : Host} {mux : Multiplexer} (settled : mux.Settled start)
    (path : Path) (pool : Nat) : (mux.startAuthority path pool).2.Settled start := by
  have evolves := mux.startAuthority_evolves path pool
  obtain ⟨host, authorities, after, -, rfl | ⟨owners, longer⟩⟩ := mux.startAuthority_cases path pool
  all_goals
    rw [after] at evolves
    rw [after]
  · exact settled.evolveHost evolves rfl rfl
  · refine settled.own evolves ?_ longer fun found _ => .inl found
    unfold ownSockets
    rw [owners, ← List.append_assoc]
    exact List.perm_append_singleton _ _

/-- Every action at an orderly moment keeps the sockets settled. -/
theorem Settled.perform {start : Host} {mux : Multiplexer} (settled : mux.Settled start)
    {action : Action} (orderly : Moment.IsOrderly ⟨mux, action⟩) :
    (mux.perform action).Settled start := by
  by_cases traffic : action.isTraffic = true
  · exact (keptByTraffic start).perform traffic settled
  cases action with
  | createServer number port =>
    cases found : mux.factories.get? number with
    | none =>
      simp only [Multiplexer.perform, createServer, found]
      exact settled
    | some factory =>
      exact (createServer_creates port found).settled (orderly.inPlace found) settled
  | startAuthority path pool => exact settled.startAuthority path pool
  | shutDownAuthority number =>
    have evolves := mux.shutDownAuthority_evolves number
    obtain ⟨host, authorities, after, owners, -⟩ := mux.shutDownAuthority_cases number
    rw [after] at evolves
    simp only [Multiplexer.perform, after]
    refine settled.evolve evolves ?_ fun found => ⟨_, found, rfl, rfl⟩
    unfold ownSockets
    rw [owners]
  | dropAuthority number =>
    obtain ⟨host, after⟩ := mux.dropAuthority_eq number
    have evolves := mux.dropAuthority_evolves number
    rw [after] at evolves
    simp only [Multiplexer.perform, after]
    exact settled.evolveHost evolves rfl rfl
  | outside host => exact settled.evolveHost (orderly.outside rfl).evolves rfl rfl
  | _ => exact absurd rfl traffic

end Multiplexer

/-- Every orderly run keeps the sockets settled. -/
theorem Run.settled {host : Host} {own : PeerCredentials} {history : History}
    {mux : Multiplexer} (run : Run (.initial host own) history mux) (sound : host.Sound)
    (orderly : ∀ moment ∈ history, moment.IsOrderly) : mux.Settled host := by
  apply run.induction (motive := fun _ mux => mux.Settled host) orderly
  · exact .initial own sound
  · exact fun action known settled => settled.perform known

end SocketMux
