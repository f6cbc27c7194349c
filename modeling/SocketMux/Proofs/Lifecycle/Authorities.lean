import SocketMux.Proofs.Lifecycle.SocketFiles

/-!
# Authorities that share a path

An authority that takes an entry serves there as long as nobody else clears the entry: its own
socket file stands, and whoever asks along a path to the entry is answered from its pool
(`Run.authority_goesOn`). A factory that binds there clears the entry, and so does another
authority when it starts and also when it is shut down, since a shutdown asks for the path and
not for the file. Two authorities on one path therefore get in each other's way
(`Run.shutDown_clears_successor`). Everything else that happens leaves the entry alone: other
listeners that end, authorities that are dropped and those that are shut down once more.
-/

namespace SocketMux

namespace Moment

/-- The path whose entry an authority clears at a moment. A second shutdown clears nothing. -/
def removedPath? (moment : Moment) : Option Path :=
  match moment.action with
  | .startAuthority path _ => some path
  | .shutDownAuthority number =>
    ((moment.state.authorities.get? number).filter fun authority => !authority.isShutDown).map
      AuthorityServer.path
  | _ => none

/-- Whether an authority is shut down or dropped at a moment. -/
def ends (moment : Moment) (number : Nat) : Bool :=
  match moment.action with
  | .shutDownAuthority other => other == number
  | .dropAuthority other => other == number
  | _ => false

/-- At such a moment an authority goes on and nobody clears its entry. -/
structure Leaves (moment : Moment) (place : Place) (number : Nat) : Prop
    extends moment.IsOrderly where
  goesOn : moment.ends number = false
  unbound : ∀ creation, moment.creation? = some creation → creation.place ≠ some place
  unremoved : ∀ path, moment.removedPath? = some path →
    moment.state.host.files.locateEntry path ≠ .ok place

/-- Whether a moment leaves an authority alone by the look of its action. -/
def leaves (moment : Moment) (place : Place) (number : Nat) : Bool :=
  moment.staysInside && !moment.ends number &&
    moment.creation?.all (fun creation => creation.place != some place) &&
    moment.removedPath?.all fun path =>
      (moment.state.host.files.locateEntry path).toOption != some place

theorem Leaves.of_leaves {moment : Moment} {place : Place} {number : Nat}
    (leaves : moment.leaves place number = true) : moment.Leaves place number := by
  simp only [Moment.leaves, Bool.and_eq_true, Bool.not_eq_true'] at leaves
  obtain ⟨⟨⟨stays, goesOn⟩, unbound⟩, unremoved⟩ := leaves
  refine ⟨.of_staysInside stays, goesOn, fun creation made => ?_, fun path removed located => ?_⟩
  · rw [made] at unbound
    exact bne_iff_ne.mp unbound
  · rw [removed] at unremoved
    refine bne_iff_ne.mp unremoved ?_
    rw [located]
    rfl

end Moment

namespace Multiplexer

/-- An authority whose own socket file stands at an entry. -/
structure Serves (mux : Multiplexer) (place : Place) (number : Nat) (authority : AuthorityServer)
    (file : Nat) : Prop where
  found : mux.authorities.get? number = some authority
  entry : mux.host.files.get? place = some ⟨file, .socket⟩
  spot : mux.host.spots[authority.socket]? = some (.file file, true)

/-- Different authorities have different sockets. -/
theorem Settled.authority_injective {start : Host} {mux : Multiplexer}
    (settled : mux.Settled start) {first second : Nat} {former latter : AuthorityServer}
    (firstFound : mux.authorities.get? first = some former)
    (secondFound : mux.authorities.get? second = some latter)
    (same : former.socket = latter.socket) : first = second :=
  Table.number_unique (List.nodup_append.mp settled.distinct).2.1 firstFound secondFound same

/-- The pool behind the socket of an authority is its own. -/
theorem Settled.poolBehind? {start : Host} {mux : Multiplexer} (settled : mux.Settled start)
    {number : Nat} {authority : AuthorityServer}
    (found : mux.authorities.get? number = some authority) :
    mux.poolBehind? authority.socket = some authority.pool := by
  unfold Multiplexer.poolBehind?
  cases behind : mux.authorities.rows.find? fun other => other.socket == authority.socket with
  | none =>
    have absent := List.find?_eq_none.mp behind authority (List.mem_of_getElem? found)
    simp at absent
  | some other =>
    have same : other.socket = authority.socket := by
      simpa using List.find?_some behind
    obtain ⟨place, otherFound⟩ := List.getElem?_of_mem (List.mem_of_find?_eq_some behind)
    obtain rfl := settled.authority_injective otherFound found same
    rw [show mux.authorities.get? place = some other from otherFound] at found
    rw [Option.some.inj found]
    rfl

namespace Serves

variable {start : Host} {mux after : Multiplexer} {place : Place} {number : Nat}
  {authority : AuthorityServer} {file : Nat}

/-- Whatever keeps the entry and the socket keeps the authority at its entry. -/
theorem move (serves : mux.Serves place number authority file)
    (found : after.authorities.get? number = some authority)
    (entry : after.host.files.get? place = mux.host.files.get? place)
    (spot : ∀ spot, mux.host.spots[authority.socket]? = some spot →
      after.host.spots[authority.socket]? = some spot) :
    after.Serves place number authority file :=
  ⟨found, entry.trans serves.entry, spot _ serves.spot⟩

theorem same (serves : mux.Serves place number authority file)
    (listening : mux.host.SameListening after.host)
    (found : after.authorities.get? number = some authority) :
    after.Serves place number authority file :=
  serves.move found (by rw [listening.files]) fun _ there => listening.spot there

theorem cleared {other : Place} (serves : mux.Serves place number authority file)
    (cleared : Host.Cleared other mux.host after.host) (apart : other ≠ place)
    (found : after.authorities.get? number = some authority) :
    after.Serves place number authority file := by
  refine serves.move found ?_ fun spot there => ?_
  · rw [cleared.entry, if_neg (Ne.symm apart)]
  · rw [cleared.spots]
    exact there

theorem taken {other : Place} (serves : mux.Serves place number authority file)
    (taken : Host.Taken other mux.host after.host) (apart : other ≠ place)
    (found : after.authorities.get? number = some authority) :
    after.Serves place number authority file := by
  refine serves.move found ?_ fun spot there => ?_
  · rw [taken.entry, if_neg (Ne.symm apart)]
  · rw [taken.spot, if_neg]
    · exact there
    · exact Nat.ne_of_lt (List.getElem?_eq_some_iff.mp there).1

/-- Closing another socket keeps the authority at its entry. -/
theorem closeSocket (serves : mux.Serves place number authority file) {socket : Nat}
    (apart : socket ≠ authority.socket) :
    ({ mux with host := mux.host.closeSocket socket }).Serves place number authority file := by
  refine serves.move serves.found ?_ fun spot there => ?_
  · rw [Host.closeSocket_files]
  · rw [Host.spot_closeSocket, if_neg apart]
    exact there

/-- Binding a socket file elsewhere keeps the authority at its entry. -/
theorem bindFile {factory : Factory} {port : Port} {outcome : Except MuxError Nat} {host : Host}
    (serves : mux.Serves place number authority file)
    (inPlace : factory.transport.bindsInPlace = true)
    (bind : factory.bindFile mux.host port = (outcome, host))
    (apart : factory.clearedPlace? mux.host port ≠ some place) :
    ({ mux with host }).Serves place number authority file := by
  obtain ⟨-, same, -⟩ | ⟨other, there, -, ⟨-, -, cleared⟩ | ⟨-, -, -, taken, -⟩⟩ :=
    Factory.bindFile_cases inPlace bind
  · exact serves.same same serves.found
  · exact serves.cleared cleared (fun same => apart (same ▸ there)) serves.found
  · exact serves.taken taken (fun same => apart (same ▸ there)) serves.found

/-- The end of a listener keeps the authority at its entry, as it removes no file but its own. -/
theorem withoutListener (serves : mux.Serves place number authority file)
    (settled : mux.Settled start) {other : Nat} {ending : MuxListener}
    (endingFound : mux.listeners.get? other = some ending) :
    ({ mux with host := mux.host.withoutListener ending }).Serves place number authority file := by
  have apart : ending.socket ≠ authority.socket :=
    (settled.socket_ne_authority endingFound serves.found).symm
  have shut := serves.closeSocket apart
  unfold Host.withoutListener
  simp only
  split
  · exact shut
  · next ownFile numbered =>
    cases removed : (mux.host.closeSocket ending.socket).removeNumbered ending.file ownFile with
    | error fault => exact shut
    | ok host =>
      obtain rfl | ⟨there, kind, -, present, cleared⟩ := Host.removeNumbered_ok removed
      · exact shut
      · refine shut.cleared cleared ?_ serves.found
        rintro rfl
        -- The file there has one number, so the listener would have the authority's socket.
        rw [Host.closeSocket_files, serves.entry] at present
        obtain ⟨rfl, -⟩ := FileNode.mk.inj (Option.some.inj present)
        obtain ⟨isOpen, listens⟩ := settled.files endingFound numbered
        exact apart (settled.sound.unique listens serves.spot)

/-- Traffic keeps the sockets settled and the authority at its entry. -/
theorem keptByTraffic (start : Host) (place : Place) (number : Nat) (authority : AuthorityServer)
    (file : Nat) :
    KeptByTraffic fun mux => mux.Settled start ∧ mux.Serves place number authority file where
  same both same := by
    obtain ⟨settled, serves⟩ := both
    refine ⟨(Settled.keptByTraffic start).same settled same, serves.same same.host ?_⟩
    rw [same.authorities]
    exact serves.found
  ended found isOpen both := by
    obtain ⟨settled, serves⟩ := both
    have kept := serves.withoutListener settled found
    exact ⟨(Settled.keptByTraffic start).ended found isOpen settled, kept.found, kept.entry,
      kept.spot⟩

end Serves

/-- A call for a server elsewhere keeps an authority at its entry. -/
theorem Creates.serves {mux after : Multiplexer} {factoryNumber : Nat} {factory : Factory}
    {creation : Option Creation} {place : Place} {number : Nat} {authority : AuthorityServer}
    {file : Nat} (creates : Creates mux factoryNumber factory creation after)
    (inPlace : factory.transport.bindsInPlace = true)
    (apart : ∀ made, creation = some made → made.place ≠ some place)
    (serves : mux.Serves place number authority file) :
    after.Serves place number authority file := by
  cases creates with
  | nothing remembers => exact serves.same (.of_eq rfl rfl) serves.found
  | @failed port bound issuer ready err host prepared unbound =>
    obtain ⟨pools, assigners, remember, remembers, rfl⟩ := ready_eq prepared
    obtain ⟨morePools, moreAssigners, refunded⟩ := refund_eq
      { mux with host, pools, assigners, factories := mux.factories.modify factoryNumber remember }
      issuer bound
    have kept := serves.bindFile inPlace unbound (apart _ rfl)
    rw [refunded]
    exact ⟨kept.found, kept.entry, kept.spot⟩
  | @made port bound issuer ready socket host prepared bind =>
    obtain ⟨pools, assigners, remember, remembers, rfl⟩ := ready_eq prepared
    have kept := serves.bindFile inPlace bind (apart _ rfl)
    exact ⟨kept.found, kept.entry, kept.spot⟩

/-- The authorities that were there stay when another one is started. -/
theorem startAuthority_get? (mux : Multiplexer) (path : Path) (pool : Nat) {number : Nat}
    {authority : AuthorityServer} (found : mux.authorities.get? number = some authority) :
    (mux.startAuthority path pool).2.authorities.get? number = some authority := by
  unfold startAuthority
  split
  · exact found
  · split
    · exact found
    · rw [Table.get?_add_of_lt _ _ (List.getElem?_eq_some_iff.mp found).1]
      exact found

/-- The first shutdown of an authority closes its socket and clears the entry of its path, and
it leaves all other authorities as they are. -/
theorem shutDownAuthority_of_found {mux : Multiplexer} {number : Nat} {authority : AuthorityServer}
    (found : mux.authorities.get? number = some authority) (first : authority.isShutDown = false) :
    ∃ host, (mux.shutDownAuthority number).2 = { mux with
        host
        authorities := mux.authorities.modify number fun state =>
          { state with isShutDown := true } } ∧
      (host = mux.host.closeSocket authority.socket ∨
        ∃ place, mux.host.files.locateEntry authority.path = .ok place ∧
          Host.Cleared place (mux.host.closeSocket authority.socket) host) := by
  unfold shutDownAuthority
  simp only [found, first, Bool.false_eq_true, if_false]
  cases removed : (mux.host.closeSocket authority.socket).removeIfPresent authority.path with
  | error fault => exact ⟨_, rfl, .inl rfl⟩
  | ok host =>
    refine ⟨_, rfl, ?_⟩
    obtain ⟨place, located, cleared⟩ | ⟨-, same⟩ := Host.removeIfPresent_ok removed
    · rw [Host.closeSocket_files] at located
      exact .inr ⟨place, located, cleared⟩
    · exact .inl same

theorem shutDownAuthority_again {mux : Multiplexer} {number : Nat} {authority : AuthorityServer}
    (found : mux.authorities.get? number = some authority) (again : authority.isShutDown = true) :
    mux.shutDownAuthority number = (.ok (), mux) := by
  simp only [shutDownAuthority, found, again, if_true]

/-- The shutdown of another authority clears the entry only if that one's path leads there. -/
theorem Serves.otherShutDown {start : Host} {mux : Multiplexer} {place : Place} {number other : Nat}
    {authority : AuthorityServer} {file : Nat}
    (serves : mux.Serves place number authority file) (settled : mux.Settled start)
    (apart : other ≠ number) (elsewhere : ∀ ending, mux.authorities.get? other = some ending →
      ending.isShutDown = false → mux.host.files.locateEntry ending.path ≠ .ok place) :
    (mux.shutDownAuthority other).2.Serves place number authority file := by
  cases otherFound : mux.authorities.get? other with
  | none =>
    simp only [shutDownAuthority, otherFound]
    exact serves
  | some ending =>
    cases again : ending.isShutDown with
    | true =>
      rw [shutDownAuthority_again otherFound again]
      exact serves
    | false =>
      have socketApart : ending.socket ≠ authority.socket := fun same =>
        apart (settled.authority_injective otherFound serves.found same)
      have shut := serves.closeSocket socketApart
      have kept : (mux.authorities.modify other fun state =>
          { state with isShutDown := true }).get? number = some authority := by
        rw [Table.get?_modify, if_neg apart]
        exact serves.found
      obtain ⟨host, after, rfl | ⟨there, located, cleared⟩⟩ :=
        shutDownAuthority_of_found otherFound again
      · rw [after]
        exact ⟨kept, shut.entry, shut.spot⟩
      · rw [after]
        refine shut.cleared cleared ?_ kept
        rintro rfl
        exact elsewhere ending otherFound again located

/-- Every action at a moment that leaves the authority alone keeps it at its entry. -/
theorem Serves.perform {start : Host} {mux : Multiplexer} {place : Place} {number : Nat}
    {authority : AuthorityServer} {file : Nat}
    (serves : mux.Serves place number authority file) (settled : mux.Settled start)
    {action : Action} (leaves : Moment.Leaves ⟨mux, action⟩ place number) :
    (mux.perform action).Serves place number authority file := by
  by_cases traffic : action.isTraffic = true
  · exact ((Serves.keptByTraffic start place number authority file).perform traffic
      ⟨settled, serves⟩).2
  cases action with
  | createServer factoryNumber port =>
    cases found : mux.factories.get? factoryNumber with
    | none =>
      simp only [Multiplexer.perform, createServer, found]
      exact serves
    | some factory =>
      exact (createServer_creates port found).serves (leaves.inPlace found) leaves.unbound serves
  | startAuthority path pool =>
    have kept := mux.startAuthority_get? path pool serves.found
    have apart : mux.host.files.locateEntry path ≠ .ok place := leaves.unremoved path rfl
    obtain ⟨host, authorities, after, change, -⟩ := mux.startAuthority_cases path pool
    rw [after] at kept
    simp only [Multiplexer.perform, after]
    obtain same | ⟨other, located, cleared | taken⟩ := change
    · exact serves.same same kept
    · exact serves.cleared cleared (fun same => apart (same ▸ located)) kept
    · exact serves.taken taken (fun same => apart (same ▸ located)) kept
  | shutDownAuthority other =>
    have apart : other ≠ number := by simpa [Moment.ends] using leaves.goesOn
    refine serves.otherShutDown settled apart fun ending otherFound again => ?_
    refine leaves.unremoved ending.path ?_
    simp [Moment.removedPath?, otherFound, again]
  | dropAuthority other =>
    have apart : other ≠ number := by simpa [Moment.ends] using leaves.goesOn
    simp only [Multiplexer.perform, dropAuthority]
    split
    · exact serves
    · next ending otherFound =>
      exact serves.closeSocket fun same =>
        apart (settled.authority_injective otherFound serves.found same)
  | outside host => exact serves.same (leaves.outside rfl) serves.found
  | _ => exact absurd rfl traffic

/-- An authority that was started took the entry of its path. -/
theorem startAuthority_ok {mux after : Multiplexer} {path : Path} {pool number : Nat}
    {place : Place} (started : mux.startAuthority path pool = (.ok number, after))
    (located : mux.host.files.locateEntry path = .ok place) :
    after.Serves place number ⟨path, pool, mux.host.spots.length, false⟩
        mux.host.files.nextNumber ∧
      FileTree.endsWithSlash path = false ∧ Host.checkPath path = .ok () := by
  unfold startAuthority at started
  cases removed : mux.host.removeIfPresent path with
  | error fault =>
    simp only [removed] at started
    cases (Prod.mk.inj started).1
  | ok between =>
    simp only [removed] at started
    cases listened : between.listen path with
    | error fault =>
      simp only [listened] at started
      cases (Prod.mk.inj started).1
    | ok both =>
      obtain ⟨socket, host⟩ := both
      simp only [listened] at started
      obtain ⟨numbered, rfl⟩ := Prod.mk.inj started
      obtain rfl : mux.authorities.size = number := Except.ok.inj numbered
      obtain ⟨there, same, cleared⟩ | ⟨⟨fault, astray⟩, -⟩ := Host.removeIfPresent_ok removed
      · obtain rfl := Except.ok.inj (located.symm.trans same)
        obtain ⟨reached, led, free, noSlash, fits, last, taken⟩ := Host.listen_ok listened
          (Host.abstractName?_of_locateEntry located) (FileTree.ne_nil_of_locateEntry located)
        have again := cleared.evolves.erodes.locateEntry led
        obtain rfl := Except.ok.inj (located.symm.trans again)
        have took := cleared.taken taken
        obtain rfl : socket = mux.host.spots.length := by rw [last, cleared.spots]
        refine ⟨⟨mux.authorities.get?_add_size _, ?_, ?_⟩, noSlash, fits⟩
        · exact (took.entry place).trans (if_pos rfl)
        · exact (took.spot mux.host.spots.length).trans (if_pos rfl)
      · rw [located] at astray
        cases astray

/-- Whoever starts an authority at a path finds the entry of the path, and the path leads there
afterwards. -/
theorem startAuthority_located {mux : Multiplexer} {path : Path} {pool number : Nat}
    (nonempty : path ≠ []) (started : (mux.startAuthority path pool).1 = .ok number) :
    ∃ place, mux.host.files.locateEntry path = .ok place ∧
      (mux.startAuthority path pool).2.host.files.locateEntry path = .ok place := by
  unfold startAuthority at started ⊢
  cases removed : mux.host.removeIfPresent path with
  | error fault =>
    rw [removed] at started
    cases started
  | ok between =>
    -- A name that is no path could not have been cleared.
    have isPath : Host.abstractName? path = none := by
      cases path with
      | nil => rfl
      | cons first rest =>
        have noZero : first ≠ 0 := by
          rintro rfl
          cases removed
        simp [Host.abstractName?, noZero]
    simp only [removed] at started ⊢
    cases listened : between.listen path with
    | error fault =>
      rw [listened] at started
      cases started
    | ok both =>
      obtain ⟨socket, host⟩ := both
      obtain ⟨place, led, free, -, -, -, taken⟩ := Host.listen_ok listened isPath nonempty
      refine ⟨place, ?_, FileTree.locateEntry_within (taken.within free) led⟩
      obtain ⟨other, -, cleared⟩ | ⟨-, rfl⟩ := Host.removeIfPresent_ok removed
      · exact cleared.evolves.erodes.locateEntry led
      · exact led

/-- Requests along a path are answered from a pool. -/
def AnswersFrom (mux : Multiplexer) (path : Path) (pool : Nat) : Prop :=
  ∃ socket, mux.host.reach path = .ok socket ∧ mux.poolBehind? socket = some pool

/-- Whoever asks along a path to the entry of an authority is answered from its pool. -/
theorem Serves.answers {start : Host} {mux : Multiplexer} {place : Place} {number : Nat}
    {authority : AuthorityServer} {file : Nat}
    (serves : mux.Serves place number authority file) (settled : mux.Settled start) {path : Path}
    (located : mux.host.files.locateEntry path = .ok place)
    (noSlash : FileTree.endsWithSlash path = false) (fits : Host.checkPath path = .ok ()) :
    mux.AnswersFrom path authority.pool :=
  ⟨authority.socket,
    Host.reach_of_entry located noSlash fits serves.entry settled.sound serves.spot,
    settled.poolBehind? serves.found⟩

/-- An authority of a path and a pool that goes on at the entry it took. -/
structure GoesOn (mux : Multiplexer) (place : Place) (number : Nat) (path : Path) (pool : Nat)
    (start : FileTree) : Prop where
  /-- Its own socket file stands at its entry. -/
  stands : ∃ authority file, mux.Serves place number authority file ∧ authority.path = path ∧
    authority.pool = pool ∧ authority.isShutDown = false
  /-- Whoever asks along a path to the entry is answered from its pool. -/
  answers : ∀ way, mux.host.files.locateEntry way = .ok place →
    FileTree.endsWithSlash way = false → Host.checkPath way = .ok () → mux.AnswersFrom way pool
  /-- Its own path leads to the entry as long as all links of the start stand. -/
  reached : start.KeepsLinks mux.host.files → mux.AnswersFrom path pool

/-- What shutting an authority down and dropping it do to the files. -/
structure ClearsItsPath (mux : Multiplexer) (number : Nat) (authority : AuthorityServer) :
    Prop where
  /-- The first shutdown removes whatever file its path leads to, whoever made it. -/
  here : authority.isShutDown = false → ∀ place node,
    mux.host.files.locateEntry authority.path = .ok place →
      FileTree.endsWithSlash authority.path = false → mux.host.files.get? place = some node →
        node.kind ≠ .directory → (mux.shutDownAuthority number).1 = .ok () ∧
          (mux.shutDownAuthority number).2.host.files.get? place = none
  /-- Whatever its path does not lead to stays. -/
  elsewhere : ∀ place, mux.host.files.locateEntry authority.path ≠ .ok place →
    (mux.shutDownAuthority number).2.host.files.get? place = mux.host.files.get? place
  /-- A later shutdown does nothing. -/
  again : authority.isShutDown = true → mux.shutDownAuthority number = (.ok (), mux)
  /-- Dropping it leaves the files alone. -/
  dropped : (mux.dropAuthority number).host.files = mux.host.files

/-- The first shutdown of an authority clears its path, and nothing else does. -/
theorem clearsItsPath {mux : Multiplexer} {number : Nat} {authority : AuthorityServer}
    (found : mux.authorities.get? number = some authority) :
    mux.ClearsItsPath number authority where
  here first place node located noSlash present noDirectory := by
    have unlinked : (mux.host.closeSocket authority.socket).files.unlink authority.path =
        .ok (mux.host.files.erase place) := by
      rw [Host.closeSocket_files]
      exact FileTree.unlink_of_entry located noSlash present noDirectory
    have gone : (mux.host.files.erase place).get? place = none := by
      rw [(mux.host.cleared_erase present noDirectory).entry, if_pos rfl]
    simp only [shutDownAuthority, found, first, Bool.false_eq_true, if_false,
      Host.removeIfPresent, Host.removeFile, unlinked, bind, Except.bind, pure, Except.pure]
    exact ⟨trivial, gone⟩
  elsewhere place apart := by
    cases again : authority.isShutDown with
    | true => rw [shutDownAuthority_again found again]
    | false =>
      obtain ⟨host, after, rfl | ⟨there, located, cleared⟩⟩ :=
        shutDownAuthority_of_found found again
      · rw [after, Host.closeSocket_files]
      · rw [after, cleared.entry, Host.closeSocket_files, if_neg]
        rintro rfl
        exact apart located
  again := shutDownAuthority_again found
  dropped := by
    simp only [dropAuthority, found]
    exact Host.closeSocket_files _ _

end Multiplexer

/-- An authority that took an entry goes on there as long as it is neither shut down nor
dropped and nobody else clears the entry. Others may clear it, since a shutdown asks for the
path of an authority and not for its file. -/
theorem Run.authority_goesOn {host : Host} {own : PeerCredentials} {history later : History}
    {mux after : Multiplexer} {path : Path} {pool number : Nat} {place : Place}
    (run : Run (.initial host own) history mux) (sound : host.Sound)
    (orderly : ∀ moment ∈ history, moment.IsOrderly)
    (started : (mux.startAuthority path pool).1 = .ok number)
    (located : mux.host.files.locateEntry path = .ok place)
    (further : Run (mux.startAuthority path pool).2 later after)
    (left : ∀ moment ∈ later, moment.Leaves place number) :
    after.GoesOn place number path pool mux.host.files ∧
      ∀ other ending, after.authorities.get? other = some ending →
        after.ClearsItsPath other ending := by
  obtain ⟨begins, noSlash, fits⟩ := Multiplexer.startAuthority_ok (Prod.ext started rfl) located
  have settledBegun := (run.settled sound orderly).fromNow.startAuthority path pool
  obtain ⟨settled, serves⟩ := further.induction
    (motive := fun _ now => now.Settled mux.host ∧ now.Serves place number ⟨path, pool, _, false⟩ _)
    left ⟨settledBegun, begins⟩
    fun action leaves ⟨settled, serves⟩ =>
      ⟨settled.perform leaves.toIsOrderly, serves.perform settled leaves⟩
  refine ⟨⟨⟨_, _, serves, rfl, rfl, rfl⟩, fun way => serves.answers settled, fun links => ?_⟩,
    fun other ending found => Multiplexer.clearsItsPath found⟩
  have still := (settled.evolves.erodes.locateEntry_iff links).mpr located
  exact serves.answers settled still noSlash fits

/-- An authority that follows one shut down goes on while a listener elsewhere comes and goes
and its predecessor is shut down once more. -/
theorem Run.authority_goesOn_successor :
    let path := Text.Utf8.bytesOf "/authority"
    let place : Place := [Text.Utf8.bytesOf "authority"]
    let actions : List Action := [.makePool, .makeAssigner (.pooled 0), .makeRootFactory,
      .startAuthority path 0, .shutDownAuthority 0]
    let later : List Action := [.createServer 0 100005, .shutDownAuthority 0, .closeListener 0]
    let mux := Multiplexer.blank.after actions
    let after := (mux.startAuthority path 0).2.after later
    (mux.startAuthority path 0).1 = .ok 1 ∧ mux.host.files.locateEntry path = .ok place ∧
      after.GoesOn place 1 path 0 mux.host.files ∧
        ∀ other ending, after.authorities.get? other = some ending →
          after.ClearsItsPath other ending := by
  intro path place actions later mux after
  let begun := (mux.startAuthority path 0).2
  let history := Multiplexer.blank.momentsOf actions []
  let further := begun.momentsOf later []
  have stays : history.all Moment.staysInside = true := by decide +kernel
  have leaves : further.all (fun moment => moment.leaves place 1) = true := by decide +kernel
  have orderly : ∀ moment ∈ history, moment.IsOrderly :=
    fun moment member => .of_staysInside (List.all_eq_true.mp stays moment member)
  have left : ∀ moment ∈ further, moment.Leaves place 1 :=
    fun moment member => .of_leaves (List.all_eq_true.mp leaves moment member)
  have started : (mux.startAuthority path 0).1 = .ok 1 := by
    have given : (mux.startAuthority path 0).1.toOption = some 1 := by decide +kernel
    generalize (mux.startAuthority path 0).1 = answer at given ⊢
    cases answer with
    | error => cases given
    | ok number => cases given; rfl
  have located : mux.host.files.locateEntry path = .ok place := by decide +kernel
  have run : Run .blank history mux := .ofActions _ actions
  have goesOn := run.authority_goesOn .bare orderly started located (.ofActions begun later) left
  exact ⟨started, located, goesOn⟩

/-- A shutdown may remove a file that is not the authority's own, and then the authority whose
file it is cannot be reached any more. -/
theorem Run.shutDown_clears_successor :
    (¬∀ (host : Host) (own : PeerCredentials) (history : History) (mux : Multiplexer)
        (number : Nat) (authority : AuthorityServer) (place : Place) (node : FileNode),
      Run (.initial host own) history mux → host.Sound →
      (∀ moment ∈ history, moment.IsOrderly) →
      mux.authorities.get? number = some authority → mux.host.files.get? place = some node →
      (∀ isOpen, mux.host.spots[authority.socket]? ≠ some (.file node.number, isOpen)) →
        (mux.shutDownAuthority number).2.host.files.get? place = some node) ∧
    ¬∀ (host : Host) (own : PeerCredentials) (history : History) (mux : Multiplexer)
        (number other file : Nat) (authority : AuthorityServer) (place : Place),
      Run (.initial host own) history mux → host.Sound →
      (∀ moment ∈ history, moment.IsOrderly) → number ≠ other →
      mux.Serves place other authority file → mux.AnswersFrom authority.path authority.pool →
        (mux.shutDownAuthority number).2.AnswersFrom authority.path authority.pool := by
  let path := Text.Utf8.bytesOf "/authority"
  let place : Place := [Text.Utf8.bytesOf "authority"]
  let actions : List Action := [.makePool, .startAuthority path 0, .startAuthority path 0]
  let mux := Multiplexer.blank.after actions
  let history := Multiplexer.blank.momentsOf actions []
  have run : Run .blank history mux := .ofActions _ actions
  have stays : history.all Moment.staysInside = true := by decide +kernel
  have orderly : ∀ moment ∈ history, moment.IsOrderly :=
    fun moment member => .of_staysInside (List.all_eq_true.mp stays moment member)
  constructor
  · intro always
    have found : mux.authorities.get? 0 = some ⟨path, 0, 0, false⟩ := by decide +kernel
    have present : mux.host.files.get? place = some ⟨2, .socket⟩ := by decide +kernel
    have foreign : ∀ isOpen, mux.host.spots[0]? ≠ some (.file 2, isOpen) := by decide +kernel
    have stands := always .bare ⟨none, 0, 0⟩ history mux 0 _ place _ run .bare orderly found
      present foreign
    have gone : (mux.shutDownAuthority 0).2.host.files.get? place = none := by decide +kernel
    rw [gone] at stands
    cases stands
  · intro always
    have serves : mux.Serves place 1 ⟨path, 0, 1, false⟩ 2 :=
      ⟨by decide +kernel, by decide +kernel, by decide +kernel⟩
    have answers : mux.AnswersFrom path 0 := ⟨1, by decide +kernel⟩
    obtain ⟨socket, reached, -⟩ := always .bare ⟨none, 0, 0⟩ history mux 0 1 2 _ place run .bare
      orderly (by decide) serves answers
    have missing : ((mux.shutDownAuthority 0).2.host.reach path).toOption = none := by
      decide +kernel
    rw [reached] at missing
    cases missing

end SocketMux
