import SocketMux.Proofs.Lifecycle.Ledger
import SocketMux.Proofs.Lifecycle.Sockets

/-!
# The socket file at an entry

At every entry of the host's tree the listener that took it last keeps it: while that
listener is open, its own socket file stands there, and older listeners, which may
remember the same path, never remove it, because files are told apart by their numbers.
Once the listener is closed, the entry is gone, if the listener's path still leads to it.
Paths only cease to lead to an entry when a link that they pass through is cleared.

Binding first clears an entry and then takes it, so a creation that fails may leave the
entry clear. `lastAt?` therefore asks for the last creation that cleared the entry,
whatever it came to.
-/

namespace SocketMux

/-- The creation that cleared an entry last. -/
def lastAt? (creations : List Creation) (place : Place) : Option Creation :=
  creations.find? fun creation => creation.place == some place

theorem lastAt?_cons_here {creation : Creation} {creations : List Creation} {place : Place}
    (here : creation.place = some place) :
    lastAt? (creation :: creations) place = some creation :=
  List.find?_cons_of_pos (by simp [here])

theorem lastAt?_cons_elsewhere {creation : Creation} {creations : List Creation} {place : Place}
    (elsewhere : creation.place ≠ some place) :
    lastAt? (creation :: creations) place = lastAt? creations place :=
  List.find?_cons_of_neg (by simpa using elsewhere)

/-- The creation that took an entry last. -/
def lastMadeAt? (creations : List Creation) (place : Place) : Option Creation :=
  creations.find? fun creation => creation.place == some place && creation.listener.isSome

/-- An entry is held by a listener as far as the listener is open, and clear as far as it is
closed. The path of the listener led to the entry at the start. -/
structure Holds (start host : Host) (place : Place) (listener : MuxListener) (file : Nat) :
    Prop where
  numbered : listener.fileNumber = some file
  noSlash : FileTree.endsWithSlash listener.file = false
  fits : Host.checkPath listener.file = .ok ()
  led : start.files.locateEntry listener.file = .ok place
  whileOpen : listener.isClosed = false →
    host.files.get? place = some ⟨file, .socket⟩ ∧
      host.spots[listener.socket]? = some (.file file, true)
  onceClosed : listener.isClosed = true → host.files.locateEntry listener.file = .ok place →
    host.files.get? place = none

namespace Holds

variable {start host after : Host} {place : Place} {listener : MuxListener} {file : Nat}

/-- A host that evolves without touching the entry and the socket keeps what holds. -/
theorem evolve (holds : Holds start host place listener file) (evolves : host.Evolves after)
    (entry : after.files.get? place = host.files.get? place)
    (spot : ∀ spot, host.spots[listener.socket]? = some spot →
      after.spots[listener.socket]? = some spot) :
    Holds start after place listener file where
  numbered := holds.numbered
  noSlash := holds.noSlash
  fits := holds.fits
  led := holds.led
  whileOpen isOpen := by
    obtain ⟨present, listens⟩ := holds.whileOpen isOpen
    exact ⟨entry.trans present, spot _ listens⟩
  onceClosed closed located := by
    rw [entry]
    exact holds.onceClosed closed (evolves.erodes.locateEntry located)

/-- Clearing another entry keeps what holds. -/
theorem cleared {other : Place} (holds : Holds start host place listener file)
    (cleared : Host.Cleared other host after) (apart : other ≠ place) :
    Holds start after place listener file := by
  refine holds.evolve cleared.evolves ?_ fun spot found => ?_
  · rw [cleared.entry, if_neg (Ne.symm apart)]
  · rw [cleared.spots]
    exact found

/-- Taking another entry keeps what holds. -/
theorem taken {other : Place} (holds : Holds start host place listener file)
    (taken : Host.Taken other host after) (apart : other ≠ place) :
    Holds start after place listener file := by
  refine holds.evolve taken.evolves ?_ fun spot found => ?_
  · rw [taken.entry, if_neg (Ne.symm apart)]
  · rw [taken.spot, if_neg]
    · exact found
    · exact Nat.ne_of_lt (List.getElem?_eq_some_iff.mp found).1

/-- Closing another socket keeps what holds. -/
theorem closeSocket (holds : Holds start host place listener file) {socket : Nat}
    (apart : socket ≠ listener.socket) :
    Holds start (host.closeSocket socket) place listener file := by
  refine holds.evolve (host.closeSocket_evolves socket) ?_ fun spot found => ?_
  · rw [Host.closeSocket_files]
  · rw [Host.spot_closeSocket, if_neg apart]
    exact found

/-- Traffic keeps what holds. -/
theorem same (holds : Holds start host place listener file) (same : host.SameListening after) :
    Holds start after place listener file :=
  holds.evolve same.evolves (by rw [same.files]) fun _ found => same.spot found

/-- A listener holds the entry that its socket took. -/
theorem bound {path : Path} (evolves : start.Evolves host)
    (located : host.files.locateEntry path = .ok place)
    (noSlash : FileTree.endsWithSlash path = false) (fits : Host.checkPath path = .ok ())
    (taken : Host.Taken place host after) (file_eq : listener.file = path)
    (socket_eq : listener.socket = host.spots.length)
    (numbered : listener.fileNumber = some host.files.nextNumber)
    (isOpen : listener.isClosed = false) :
    Holds start after place listener host.files.nextNumber where
  numbered := numbered
  noSlash := by
    rw [file_eq]
    exact noSlash
  fits := by
    rw [file_eq]
    exact fits
  led := by
    rw [file_eq]
    exact evolves.erodes.locateEntry located
  whileOpen _ := by
    constructor
    · rw [taken.entry, if_pos rfl]
    · rw [taken.spot, if_pos socket_eq]
  onceClosed closed := by
    rw [isOpen] at closed
    cases closed

section Binding

variable {factory : Factory} {port : Port} (inPlace : factory.transport.bindsInPlace = true)

include inPlace

/-- Binding a socket file keeps what holds at an entry that it does not clear. -/
theorem bindFile {outcome : Except MuxError Nat} (holds : Holds start host place listener file)
    (bind : factory.bindFile host port = (outcome, after))
    (apart : factory.clearedPlace? host port ≠ some place) :
    Holds start after place listener file := by
  obtain ⟨-, same, -⟩ | ⟨other, there, -, ⟨-, -, cleared⟩ | ⟨-, -, -, taken, -⟩⟩ :=
    Factory.bindFile_cases inPlace bind
  · exact holds.same same
  · exact holds.cleared cleared fun same => apart (same ▸ there)
  · exact holds.taken taken fun same => apart (same ▸ there)

/-- A listener that is made holds the entry that was cleared for it. -/
theorem made {socket : Nat} (evolves : start.Evolves host)
    (bind : factory.bindFile host port = (.ok socket, after))
    (here : factory.clearedPlace? host port = some place) (number : Nat) (issuer : Option Nat)
    (registered : Bool) : Holds start after place
      (Multiplexer.listenerFor number factory issuer port registered socket after)
      host.files.nextNumber := by
  obtain ⟨nowhere, -⟩ | ⟨other, there, located, ⟨err, failed, -⟩ |
      ⟨made, noSlash, fits, taken, numbered⟩⟩ := Factory.bindFile_cases inPlace bind
  · rw [here] at nowhere
    cases nowhere
  · cases failed
  · rw [here] at there
    injection there with same
    injection made with last
    subst same
    refine .bound evolves located noSlash fits taken rfl last ?_ rfl
    simp only [Multiplexer.listenerFor, numbered]
    rfl

end Binding

/-- The end of the listener clears the entry, if its path still leads there. -/
theorem ended (holds : Holds start host place listener file) (isOpen : listener.isClosed = false) :
    Holds start (host.withoutListener listener) place listener.closed file where
  numbered := holds.numbered
  noSlash := holds.noSlash
  fits := holds.fits
  led := holds.led
  whileOpen reopened := by cases reopened
  onceClosed _ located := by
    have before : host.files.locateEntry listener.file = .ok place :=
      (Multiplexer.Settled.withoutListener_evolves host listener).erodes.locateEntry located
    have present := (holds.whileOpen isOpen).1
    rw [← Host.closeSocket_files host listener.socket] at before present
    obtain ⟨after, removed, cleared⟩ :=
      Host.removeNumbered_of_entry before holds.noSlash present
    have after_eq : host.withoutListener listener = after := by
      unfold Host.withoutListener
      simp only [holds.numbered, removed]
      rfl
    rw [after_eq, cleared.entry, if_pos rfl]

end Holds

namespace Multiplexer

/-- The listener that took an entry last holds it. -/
def Stands (start : Host) (place : Place) (creations : List Creation) (mux : Multiplexer) : Prop :=
  ∀ creation number, lastAt? creations place = some creation → creation.listener = some number →
    ∃ listener file, mux.listeners.get? number = some listener ∧
      Holds start mux.host place listener file

/-- Different listeners have different sockets. -/
theorem Settled.socket_injective {start : Host} {mux : Multiplexer} (settled : mux.Settled start)
    {first second : Nat} {former latter : MuxListener}
    (firstFound : mux.listeners.get? first = some former)
    (secondFound : mux.listeners.get? second = some latter)
    (same : former.socket = latter.socket) : first = second :=
  Table.number_unique (List.nodup_append.mp settled.distinct).1 firstFound secondFound same

/-- Listeners and authorities have different sockets. -/
theorem Settled.socket_ne_authority {start : Host} {mux : Multiplexer}
    (settled : mux.Settled start) {number other : Nat} {listener : MuxListener}
    {authority : AuthorityServer} (found : mux.listeners.get? number = some listener)
    (otherFound : mux.authorities.get? other = some authority) :
    authority.socket ≠ listener.socket := by
  have apart := (List.nodup_append.mp settled.distinct).2.2
  have listens := List.mem_map_of_mem (f := MuxListener.socket) (List.mem_of_getElem? found)
  have serves := List.mem_map_of_mem (f := AuthorityServer.socket)
    (List.mem_of_getElem? otherFound)
  exact Ne.symm (apart _ listens _ serves)

/-- The end of another listener keeps what holds, as it removes no file but its own. -/
theorem Settled.otherEnded {start : Host} {mux : Multiplexer} (settled : mux.Settled start)
    {place : Place} {number other : Nat} {listener ending : MuxListener} {file : Nat}
    (found : mux.listeners.get? number = some listener)
    (endingFound : mux.listeners.get? other = some ending) (apart : other ≠ number)
    (holds : Holds start mux.host place listener file) :
    Holds start (mux.host.withoutListener ending) place listener file := by
  have socketApart : ending.socket ≠ listener.socket :=
    fun same => apart (settled.socket_injective endingFound found same)
  have shut := holds.closeSocket socketApart
  unfold Host.withoutListener
  simp only
  split
  · exact shut
  · next ownFile numbered =>
    cases removed : (mux.host.closeSocket ending.socket).removeNumbered ending.file ownFile with
    | error fault => exact shut
    | ok after =>
      obtain rfl | ⟨there, kind, located, present, cleared⟩ := Host.removeNumbered_ok removed
      · exact shut
      · by_cases here : there = place
        · subst here
          cases closed : listener.isClosed with
          | true =>
            refine ⟨holds.numbered, holds.noSlash, holds.fits, holds.led, ?_, fun _ _ => ?_⟩
            · intro isOpen
              rw [closed] at isOpen
              cases isOpen
            · exact (cleared.entry there).trans (if_pos rfl)
          | false =>
            -- The file there has one number, so both listeners would have one socket.
            obtain ⟨standing, listens⟩ := holds.whileOpen closed
            rw [Host.closeSocket_files, standing] at present
            injection present with present
            injection present with number_eq
            obtain ⟨isOpen, endingListens⟩ := settled.files endingFound numbered
            rw [← number_eq] at endingListens
            exact absurd (settled.sound.unique endingListens listens) socketApart
        · exact shut.cleared cleared here

/-- Traffic keeps the sockets settled and the entry held. -/
theorem Stands.keptByTraffic (start : Host) (place : Place) (creations : List Creation) :
    KeptByTraffic fun mux => mux.Settled start ∧ mux.Stands start place creations where
  same both same := by
    obtain ⟨settled, stands⟩ := both
    refine ⟨(Settled.keptByTraffic start).same settled same, fun creation number last made => ?_⟩
    obtain ⟨listener, file, found, holds⟩ := stands creation number last made
    exact ⟨listener, file, by rw [same.listeners]; exact found, holds.same same.host⟩
  ended {mux other ending} endingFound isOpen both := by
    obtain ⟨settled, stands⟩ := both
    refine ⟨(Settled.keptByTraffic start).ended endingFound isOpen settled,
      fun creation number last made => ?_⟩
    obtain ⟨listener, file, found, holds⟩ := stands creation number last made
    by_cases own : other = number
    · subst own
      rw [found] at endingFound
      injection endingFound with same
      subst same
      exact ⟨listener.closed, file, by rw [Table.get?_modify, if_pos rfl, found]; rfl,
        holds.ended isOpen⟩
    · exact ⟨listener, file, by rw [Table.get?_modify, if_neg own]; exact found,
        settled.otherEnded found endingFound own holds⟩

/-- Whatever keeps the listeners and what holds at the entry keeps the entry held. -/
theorem Stands.move {start : Host} {place : Place} {creations : List Creation}
    {mux after : Multiplexer} (stands : mux.Stands start place creations)
    (listeners : ∀ number listener, mux.listeners.get? number = some listener →
      after.listeners.get? number = some listener)
    (kept : ∀ number listener file, mux.listeners.get? number = some listener →
      Holds start mux.host place listener file → Holds start after.host place listener file) :
    after.Stands start place creations := by
  intro creation number last made
  obtain ⟨listener, file, found, holds⟩ := stands creation number last made
  exact ⟨listener, file, listeners number listener found, kept number listener file found holds⟩

/-- A creation elsewhere is not asked for. -/
theorem Stands.elsewhere {start : Host} {place : Place} {creations : List Creation}
    {mux : Multiplexer} (stands : mux.Stands start place creations) {creation : Creation}
    (elsewhere : creation.place ≠ some place) :
    mux.Stands start place (creation :: creations) := by
  unfold Stands
  rw [lastAt?_cons_elsewhere elsewhere]
  exact stands

/-- After a creation that cleared the entry and failed, no listener holds the entry. -/
theorem Stands.failed {start : Host} {place : Place} {creations : List Creation}
    (mux : Multiplexer) {creation : Creation} (here : creation.place = some place)
    (failed : creation.listener = none) : mux.Stands start place (creation :: creations) := by
  intro last number latest made
  rw [lastAt?_cons_here here] at latest
  cases latest
  rw [failed] at made
  cases made

/-- After a creation that took the entry, its listener holds the entry. -/
theorem Stands.made {start : Host} {place : Place} {creations : List Creation}
    {mux : Multiplexer} {creation : Creation} {number file : Nat} {listener : MuxListener}
    (here : creation.place = some place) (made : creation.listener = some number)
    (found : mux.listeners.get? number = some listener)
    (holds : Holds start mux.host place listener file) :
    mux.Stands start place (creation :: creations) := by
  intro last other latest otherMade
  rw [lastAt?_cons_here here] at latest
  cases latest
  rw [made] at otherMade
  cases otherMade
  exact ⟨listener, file, found, holds⟩

/-- A call for a server that takes the entry comes to hold it, and one that does not keeps
what holds. -/
theorem Creates.stands {start : Host} {place : Place} {mux after : Multiplexer} {number : Nat}
    {factory : Factory} {creation : Option Creation} {creations : List Creation}
    (creates : Creates mux number factory creation after)
    (inPlace : factory.transport.bindsInPlace = true) (settled : mux.Settled start)
    (stands : mux.Stands start place creations) :
    after.Stands start place (creation.toList ++ creations) := by
  cases creates with
  | nothing remembers =>
    exact stands.move (fun _ _ found => found) fun _ _ _ _ holds => holds.same (.of_eq rfl rfl)
  | @failed port bound issuer ready err host prepared unbound =>
    obtain ⟨pools, assigners, remember, remembers, rfl⟩ := ready_eq prepared
    obtain ⟨morePools, moreAssigners, refunded⟩ := refund_eq
      { mux with host, pools, assigners, factories := mux.factories.modify number remember }
      issuer bound
    rw [refunded, Option.toList_some, List.singleton_append]
    by_cases here : factory.clearedPlace? mux.host bound = some place
    · exact Stands.failed _ here rfl
    · refine Stands.elsewhere ?_ here
      exact stands.move (fun _ _ found => found) fun _ _ _ _ holds =>
        holds.bindFile inPlace unbound here
  | @made port bound issuer ready socket host prepared bind =>
    obtain ⟨pools, assigners, remember, remembers, rfl⟩ := ready_eq prepared
    have earlier : ∀ row number listener, mux.listeners.get? number = some listener →
        (mux.listeners.add row).2.get? number = some listener := by
      intro row number listener found
      rw [Table.get?_add_of_lt _ _ (List.getElem?_eq_some_iff.mp found).1]
      exact found
    rw [Option.toList_some, List.singleton_append]
    by_cases here : factory.clearedPlace? mux.host bound = some place
    · exact Stands.made here rfl (mux.listeners.get?_add_size _)
        (.made inPlace settled.evolves bind here _ _ _)
    · refine Stands.elsewhere ?_ here
      exact stands.move (earlier _) fun _ _ _ _ holds => holds.bindFile inPlace bind here

end Multiplexer

namespace Moment

/-- The path whose entry an authority clears at a moment. -/
def authorityPath? (moment : Moment) : Option Path :=
  match moment.action with
  | .startAuthority path _ => some path
  | .shutDownAuthority number =>
    (moment.state.authorities.get? number).map AuthorityServer.path
  | _ => none

/-- At an orderly moment no authority clears an entry. -/
structure Spares (moment : Moment) (place : Place) : Prop extends moment.IsOrderly where
  apart : ∀ {path}, moment.authorityPath? = some path →
    moment.state.host.files.locateEntry path ≠ .ok place

/-- Whether no entry is cleared at a moment but by a factory. -/
def sparesEntries (moment : Moment) : Bool := moment.staysInside && moment.authorityPath?.isNone

theorem Spares.of_sparesEntries {moment : Moment} (place : Place)
    (spares : moment.sparesEntries = true) : moment.Spares place := by
  obtain ⟨stays, noAuthority⟩ := Bool.and_eq_true_iff.mp spares
  refine ⟨.of_staysInside stays, fun led => ?_⟩
  rw [Option.isNone_iff_eq_none.mp noAuthority] at led
  cases led

end Moment

namespace Multiplexer

/-- Every action at a moment that spares the entry keeps it held. -/
theorem Stands.perform {start : Host} {place : Place} {creations : List Creation}
    {mux : Multiplexer} (settled : mux.Settled start)
    (stands : mux.Stands start place creations) {action : Action}
    (spares : Moment.Spares ⟨mux, action⟩ place) :
    (mux.perform action).Stands start place
      ((Moment.creation? ⟨mux, action⟩).toList ++ creations) := by
  by_cases traffic : action.isTraffic = true
  · have nothing : (Moment.creation? ⟨mux, action⟩).toList = [] := by
      cases action <;> first | rfl | cases traffic
    rw [nothing]
    exact ((Stands.keptByTraffic start place creations).perform traffic ⟨settled, stands⟩).2
  cases action with
  | createServer number port =>
    cases found : mux.factories.get? number with
    | none =>
      simp only [Moment.creation?, Multiplexer.perform, createServer, found]
      exact stands
    | some factory =>
      exact (createServer_creates port found).stands (spares.inPlace found) settled stands
  | startAuthority path pool =>
    obtain ⟨host, authorities, after, change, -⟩ := mux.startAuthority_cases path pool
    have apart : mux.host.files.locateEntry path ≠ .ok place := spares.apart rfl
    simp only [Multiplexer.perform, after]
    refine stands.move (fun _ _ found => found) fun _ _ _ _ holds => ?_
    obtain same | ⟨other, located, cleared | taken⟩ := change
    · exact holds.same same
    · exact holds.cleared cleared fun same => apart (same ▸ located)
    · exact holds.taken taken fun same => apart (same ▸ located)
  | shutDownAuthority number =>
    obtain ⟨host, authorities, after, -, change⟩ := mux.shutDownAuthority_cases number
    simp only [Multiplexer.perform, after]
    refine stands.move (fun _ _ found => found) fun _ listener _ listener_found holds => ?_
    obtain rfl | ⟨authority, found, shut⟩ := change
    · exact holds
    · have holdsShut := holds.closeSocket (settled.socket_ne_authority listener_found found)
      obtain rfl | ⟨other, located, cleared⟩ := shut
      · exact holdsShut
      · refine holdsShut.cleared cleared ?_
        rintro rfl
        exact spares.apart (by simp [Moment.authorityPath?, found]) located
  | dropAuthority number =>
    simp only [Multiplexer.perform, dropAuthority]
    split
    · exact stands
    · next authority found =>
      refine stands.move (fun _ _ found => found) fun _ listener _ listener_found holds => ?_
      exact holds.closeSocket (settled.socket_ne_authority listener_found found)
  | outside host =>
    refine stands.move (fun _ _ found => found) fun _ _ _ _ holds => ?_
    exact holds.same (spares.outside rfl)
  | _ => exact absurd rfl traffic

end Multiplexer

/-- In a run that spares an entry, the listener that took it last holds it. -/
theorem Run.stands {host : Host} {own : PeerCredentials} {history : History}
    {mux : Multiplexer} (run : Run (.initial host own) history mux) (sound : host.Sound)
    {place : Place} (spared : ∀ moment ∈ history, moment.Spares place) :
    mux.Settled host ∧ mux.Stands host place history.creations := by
  apply run.induction
    (motive := fun history mux => mux.Settled host ∧ mux.Stands host place history.creations)
    spared
  · refine ⟨.initial own sound, fun creation number last made => ?_⟩
    cases last
  · intro history mux action spares both
    refine ⟨both.1.perform spares.toIsOrderly, ?_⟩
    rw [History.creations_cons]
    exact both.2.perform both.1 spares

/-- As long as the listener that took an entry last is open, its own socket file stands
there, and whoever connects along a path to the entry reaches the listener. Once it is
closed, and its path still leads to the entry, the entry is gone. The path does so as long
as all links of the start stand. -/
theorem Run.entry_of_last {host : Host} {own : PeerCredentials} {history : History}
    {mux : Multiplexer} (run : Run (.initial host own) history mux) (sound : host.Sound)
    {place : Place} (spared : ∀ moment ∈ history, moment.Spares place) {creation : Creation}
    {number : Nat} (last : lastAt? history.creations place = some creation)
    (made : creation.listener = some number) :
    ∃ listener, mux.listeners.get? number = some listener ∧
      (listener.isClosed = false →
        (∃ file, listener.fileNumber = some file ∧
          mux.host.files.get? place = some ⟨file, .socket⟩) ∧
        ∀ address : LocalAddress, mux.host.files.locateEntry address.bytes = .ok place →
          FileTree.endsWithSlash address.bytes = false →
          Host.checkPath address.bytes = .ok () →
            Transport.plain.connect mux.host address =
              .ok (mux.host.connectTo listener.socket)) ∧
      (listener.isClosed = true → mux.host.files.locateEntry listener.file = .ok place →
        mux.host.files.get? place = none) ∧
      (host.files.KeepsLinks mux.host.files →
        mux.host.files.locateEntry listener.file = .ok place) := by
  obtain ⟨settled, stands⟩ := run.stands sound spared
  obtain ⟨listener, file, found, holds⟩ := stands creation number last made
  refine ⟨listener, found, fun isOpen => ?_, holds.onceClosed, fun links => ?_⟩
  · obtain ⟨present, listens⟩ := holds.whileOpen isOpen
    refine ⟨⟨file, holds.numbered, present⟩, fun address located noSlash fits => ?_⟩
    exact Transport.connectPlainly_of_entry located noSlash fits present settled.sound listens
  · exact (settled.evolves.erodes.locateEntry_iff links).mpr holds.led

/-- A listener is closed after another one took its entry. -/
theorem Run.entry_of_successor :
    let actions := [.makeRootFactory, .createServer 0 100005, .createServer 0 100005,
      .closeListener 0]
    let mux := Multiplexer.blank.after actions
    let history := Multiplexer.blank.momentsOf actions []
    let place : Place := [Text.Utf8.bytesOf "100005.rmi"]
    (lastAt? history.creations place).bind Creation.listener = some 1 ∧
      ∃ listener, mux.listeners.get? 1 = some listener ∧
        (listener.isClosed = false →
          (∃ file, listener.fileNumber = some file ∧
            mux.host.files.get? place = some ⟨file, .socket⟩) ∧
          ∀ address : LocalAddress, mux.host.files.locateEntry address.bytes = .ok place →
            FileTree.endsWithSlash address.bytes = false →
            Host.checkPath address.bytes = .ok () →
              Transport.plain.connect mux.host address =
                .ok (mux.host.connectTo listener.socket)) ∧
        (listener.isClosed = true → mux.host.files.locateEntry listener.file = .ok place →
          mux.host.files.get? place = none) ∧
        (Host.bare.files.KeepsLinks mux.host.files →
          mux.host.files.locateEntry listener.file = .ok place) := by
  intro actions mux history place
  have last : (lastAt? history.creations place).bind Creation.listener = some 1 := by decide
  obtain ⟨creation, latest, made⟩ := Option.bind_eq_some_iff.mp last
  have spares : history.all Moment.sparesEntries = true := by decide
  have spared : ∀ moment ∈ history, moment.Spares place :=
    fun moment member => .of_sparesEntries place (List.all_eq_true.mp spares moment member)
  exact ⟨last, (Run.ofActions _ _).entry_of_last .bare spared latest made⟩

/-- A host with a directory and a link to it. -/
def Host.linked : Host :=
  let entries := [([Text.Utf8.bytesOf "real"], ⟨1, .directory⟩),
    ([Text.Utf8.bytesOf "link"], ⟨2, .link (Text.Utf8.bytesOf "real")⟩)]
  { Host.bare with files := ⟨entries, 3⟩ }

/-- The directory at the root under a name that does not fit into an address. -/
def longRoot : Path := Path.separator :: (List.replicate 60 [Path.dot, Path.separator]).flatten

/-- The listener that took an entry last need not have its file there while it is open,
since a later creation may clear the entry and fail. Nor need the entry be gone once the
listener is closed, since a later creation may clear a link on its path. -/
theorem Run.not_entry_of_lastMade :
    (¬∀ (host : Host) (own : PeerCredentials) (history : History) (mux : Multiplexer)
        (place : Place) (creation : Creation) (number : Nat) (listener : MuxListener),
      Run (.initial host own) history mux → host.Sound →
      (∀ moment ∈ history, moment.Spares place) →
      lastMadeAt? history.creations place = some creation → creation.listener = some number →
      mux.listeners.get? number = some listener → listener.isClosed = false →
        ∃ file, listener.fileNumber = some file ∧
          mux.host.files.get? place = some ⟨file, .socket⟩) ∧
    ¬∀ (host : Host) (own : PeerCredentials) (history : History) (mux : Multiplexer)
        (place : Place) (creation : Creation) (number : Nat) (listener : MuxListener),
      Run (.initial host own) history mux → host.Sound →
      (∀ moment ∈ history, moment.Spares place) →
      lastMadeAt? history.creations place = some creation → creation.listener = some number →
      mux.listeners.get? number = some listener → listener.isClosed = true →
        mux.host.files.get? place = none := by
  constructor
  · intro always
    let actions : List Action := [.makeRootFactory, .makeFactoryAt longRoot Port.defaultRegistry,
      .createServer 0 100005, .createServer 1 100005]
    let mux := Multiplexer.blank.after actions
    let history := Multiplexer.blank.momentsOf actions []
    let place : Place := [Text.Utf8.bytesOf "100005.rmi"]
    have spares : history.all Moment.sparesEntries = true := by decide +kernel
    have spared : ∀ moment ∈ history, moment.Spares place :=
      fun moment member => .of_sparesEntries place (List.all_eq_true.mp spares moment member)
    have last : (lastMadeAt? history.creations place).bind Creation.listener = some 0 := by
      decide +kernel
    have opened : (mux.listeners.get? 0).map MuxListener.isClosed = some false := by
      decide +kernel
    have gone : mux.host.files.get? place = none := by decide +kernel
    obtain ⟨creation, latest, made⟩ := Option.bind_eq_some_iff.mp last
    obtain ⟨listener, found, isOpen⟩ := Option.map_eq_some_iff.mp opened
    obtain ⟨file, -, present⟩ := always .bare ⟨none, 0, 0⟩ history mux place creation 0 listener
      (.ofActions _ actions) .bare spared latest made found isOpen
    rw [gone] at present
    cases present
  · intro always
    let start := Multiplexer.initial .linked ⟨none, 0, 0⟩
    let actions : List Action := [
      .makeFactoryAt (Text.Utf8.bytesOf "/link") Port.defaultRegistry,
      .makeFactoryAt (Text.Utf8.bytesOf "/link") Port.plainFile,
      .createServer 0 100005, .createServer 1 100006, .closeListener 0]
    let mux := start.after actions
    let history := start.momentsOf actions []
    let place : Place := [Text.Utf8.bytesOf "real", Text.Utf8.bytesOf "100005.rmi"]
    have spares : history.all Moment.sparesEntries = true := by decide +kernel
    have spared : ∀ moment ∈ history, moment.Spares place :=
      fun moment member => .of_sparesEntries place (List.all_eq_true.mp spares moment member)
    have last : (lastMadeAt? history.creations place).bind Creation.listener = some 0 := by
      decide +kernel
    have closed : (mux.listeners.get? 0).map MuxListener.isClosed = some true := by
      decide +kernel
    have stays : (mux.host.files.get? place).isSome = true := by decide +kernel
    obtain ⟨creation, latest, made⟩ := Option.bind_eq_some_iff.mp last
    obtain ⟨listener, found, isClosed⟩ := Option.map_eq_some_iff.mp closed
    have gone := always .linked ⟨none, 0, 0⟩ history mux place creation 0 listener
      (.ofActions _ actions) (.of_noSockets rfl) spared latest made found isClosed
    rw [gone] at stays
    cases stays

end SocketMux
