import SocketMux.Proofs.Lifecycle.FactoryClose
import SocketMux.Proofs.Lifecycle.OwnFiles
import SocketMux.Proofs.Lifecycle.SocketFiles

/-!
# The listeners of a closed factory

A factory closes the listeners that it lists, which for each port is the one that it
registered last. So of all multiplexed listeners that it ever made, those are left open that
were open and replaced (`Run.closeFactory_shutsListeners`). Of the others nothing is left:
their ports were given back once, or were lost when they were let go of, and their files are
gone as far as their paths still lead to them.
-/

namespace SocketMux

/-- The number of the file at which a socket was made to listen. -/
def Host.fileAt? (host : Host) (socket : Nat) : Option Nat :=
  match host.spots[socket]? with
  | some (.file file, _) => some file
  | _ => none

theorem Host.spot_of_fileAt? {host : Host} {socket file : Nat}
    (listens : host.fileAt? socket = some file) :
    ∃ isOpen, host.spots[socket]? = some (.file file, isOpen) := by
  unfold Host.fileAt? at listens
  split at listens
  · next isOpen found =>
    injection listens with same
    exact ⟨isOpen, same ▸ found⟩
  · cases listens

/-- Whether a factory made a listener for a port. -/
def History.Made (history : History) (number : Nat) (port : Port) (which : Nat) : Prop :=
  ∃ creation ∈ history.creations,
    creation.factory = number ∧ creation.port = port ∧ creation.listener = some which

instance (history : History) (number : Nat) (port : Port) (which : Nat) :
    Decidable (history.Made number port which) :=
  inferInstanceAs (Decidable (∃ creation ∈ history.creations,
    creation.factory = number ∧ creation.port = port ∧ creation.listener = some which))

namespace Multiplexer

section Untouched

variable {mux : Multiplexer}

/-- The close of a listener leaves all others alone. -/
theorem closeListener_other {number which : Nat} (apart : number ≠ which) :
    (mux.closeListener number).2.listeners.get? which = mux.listeners.get? which := by
  obtain ⟨-, unchanged⟩ | ⟨listener, pools, assigners, -, -, after⟩ :=
    mux.closeListener_cases number
  · rw [unchanged]
  · rw [after]
    simp only [Table.get?_modify, if_neg apart]

theorem closeListeners_other {listeners : List Nat} {which : Nat} (apart : which ∉ listeners) :
    (mux.closeListeners listeners).2.listeners.get? which = mux.listeners.get? which := by
  induction listeners generalizing mux with
  | nil => rfl
  | cons listener others inductionHypothesis =>
    have differs : listener ≠ which := fun same => apart (same ▸ List.mem_cons_self)
    have later : which ∉ others := fun member => apart (List.mem_cons_of_mem _ member)
    exact (inductionHypothesis later).trans (closeListener_other differs)

theorem closeClient_listeners (mux : Multiplexer) (client : Nat) :
    (mux.closeClient client).listeners = mux.listeners := by
  obtain ⟨-, unchanged⟩ | ⟨row, -, -, after⟩ := mux.closeClient_cases client
  · rw [unchanged]
  · rw [after]

theorem closeClients_listeners (mux : Multiplexer) (clients : List Nat) :
    (mux.closeClients clients).listeners = mux.listeners := by
  induction clients generalizing mux with
  | nil => rfl
  | cons client others inductionHypothesis =>
    exact (inductionHypothesis (mux.closeClient client)).trans (mux.closeClient_listeners client)

/-- The close of a factory leaves all listeners alone that it does not list. -/
theorem closeFactory_other {number which : Nat} {factory : Factory}
    (found : mux.factories.get? number = some factory)
    (apart : which ∉ factory.servers.map Prod.snd) :
    (mux.closeFactory number).2.listeners.get? which = mux.listeners.get? which := by
  simp only [closeFactory, found, closeFactoryIn]
  have withdrawn : ∀ later : Multiplexer,
      (later.withdraw number).listeners = later.listeners := by
    intro later
    obtain ⟨coordinators, after⟩ := later.withdraw_eq number
    rw [after]
  rw [withdrawn, closeClients_listeners]
  exact closeListeners_other apart

/-- The close of a factory leaves no port to a background task. -/
theorem closeFactory_due (mux : Multiplexer) (number : Nat) :
    (mux.closeFactory number).2.due = mux.due := by
  have kept : KeptByClosing fun later => later.due = mux.due := by
    refine ⟨fun {later} listener same => ?_, fun {later} client same => ?_, fun _ _ _ same => same,
      fun _ same => same⟩
    · obtain ⟨-, unchanged⟩ | ⟨row, pools, assigners, -, -, after⟩ :=
        later.closeListener_cases listener
      · rw [unchanged, same]
      · rw [after, same]
    · obtain ⟨-, unchanged⟩ | ⟨row, -, -, after⟩ := later.closeClient_cases client
      · rw [unchanged, same]
      · rw [after, same]
  exact kept.closeFactory rfl number

/-- The close of a factory leaves closed listeners closed. -/
theorem closeFactory_hasClosed {which : Nat} (shut : mux.hasClosed which = true) (number : Nat) :
    (mux.closeFactory number).2.hasClosed which = true := by
  have kept : KeptByClosing fun later => later.hasClosed which = true := by
    refine ⟨fun {later} listener shut => ?_, fun {later} client shut => ?_, fun _ _ _ shut => shut,
      fun _ shut => shut⟩
    · obtain ⟨-, unchanged⟩ | ⟨row, pools, assigners, -, -, after⟩ :=
        later.closeListener_cases listener
      · rw [unchanged, shut]
      · rw [after]
        simp only [hasClosed, Table.get?_modify]
        unfold hasClosed at shut
        split
        · cases found : later.listeners.get? which with
          | none => rw [found] at shut; cases shut
          | some row => rfl
        · exact shut
    · unfold hasClosed
      rw [closeClient_listeners]
      exact shut
  exact kept.closeFactory shut number

/-- Whoever accepts on a listener that is not open is told that it is closed. -/
theorem acceptOn_of_not_open {which : Nat} (shut : mux.hasOpen which = false) :
    mux.acceptOn which = (.error .closed, mux) := by
  unfold acceptOn
  unfold hasOpen at shut
  cases found : mux.listeners.get? which with
  | none => rfl
  | some listener =>
    rw [found] at shut
    have closed : listener.isClosed = true := by simpa using shut
    simp only [closed, if_true]

end Untouched

/-- What the close of a factory does to the listeners that it ever made on multiplexed
ports. -/
structure ShutsListeners (host : Host) (history : History) (mux : Multiplexer) (number : Nat)
    (after : Multiplexer) : Prop where
  /-- Those are open that were open though a later listener was registered in their place. -/
  isOpen : ∀ {port which}, history.Made number port which → Port.multiplexedBase ≤ port →
    (after.hasOpen which ↔
      mux.hasOpen which ∧
        ∃ later, lastRegistered? history.creations number port = some later ∧ which < later)
  /-- The others accept nothing. -/
  accept : ∀ {which}, after.hasOpen which = false →
    after.acceptOn which = (.error .closed, after)
  /-- The ports of the listeners that the close closes are given back by it, each once. -/
  givesBack : ∀ issued, after.returned.count issued = mux.returned.count issued +
    history.listenersWith issued fun which => mux.hasOpen which && after.hasClosed which
  /-- So all ports of closed listeners were given back once, but for those that are due to a
  background task or were lost. -/
  accounted : ∀ issued, after.returned.count issued + after.due.count issued +
      history.lost.count issued =
    history.failures issued + history.listenersWith issued after.hasClosed
  /-- Where transports bind what they are asked for and nobody else changes files, the path
  of a closed listener does not lead to its file, which is gone if all links of the start
  stand. -/
  files : host.Sound → host.files.Numbered → (∀ moment ∈ history, moment.IsOrderly) →
    ∀ {port which listener file}, history.Made number port which →
      after.listeners.get? which = some listener → listener.isClosed = true →
      after.host.fileAt? listener.socket = some file →
        after.host.fileNumber listener.file ≠ .ok file ∧
        (host.files.KeepsLinks after.host.files →
          ∀ place node, after.host.files.get? place = some node → node.number ≠ file)

end Multiplexer

section Closed

variable {host : Host} {own : PeerCredentials} {history : History} {mux : Multiplexer}

/-- All ports that were let go of are given back, due or lost. -/
theorem Run.accounted (run : Run (.initial host own) history mux) (issued : Nat × Port) :
    mux.returned.count issued + mux.due.count issued + history.lost.count issued =
      history.failures issued + history.listenersWith issued mux.hasClosed := by
  have balanced := run.balanced issued
  rwa [run.count_closedPorts issued, history.count_refunded issued] at balanced

/-- Creations, the latest first, of which each made a later listener than those before. -/
def Descending (creations : List Creation) : Prop :=
  creations.Pairwise fun later earlier =>
    ∀ first ∈ later.listener, ∀ second ∈ earlier.listener, second < first

/-- The creations of a run made its listeners one after the other. -/
theorem Run.descending (run : Run (.initial host own) history mux) :
    Descending history.creations := by
  have made : (history.creations.filterMap Creation.made?).Pairwise
      fun later earlier => earlier.1 < later.1 := by
    rw [run.records, List.pairwise_reverse, Multiplexer.origins, List.pairwise_map]
    have numbers : (mux.listeners.rows.zipIdx.map Prod.snd).Pairwise (· < ·) := by
      rw [List.zipIdx_map_snd]
      exact List.pairwise_lt_range'
    exact List.pairwise_map.mp numbers
  rw [List.pairwise_filterMap] at made
  refine made.imp fun {later earlier} less first later_made second earlier_made => ?_
  exact less _ (Creation.made?_of_listener later_made) _ (Creation.made?_of_listener earlier_made)

/-- A listener was registered last if one was registered, and none was made after it. -/
theorem Descending.lastRegistered? {creations : List Creation}
    (descending : Descending creations) {creation : Creation} (member : creation ∈ creations)
    (registered : creation.isRegistered = true) {which : Nat}
    (made : creation.listener = some which) :
    ∃ last, lastRegistered? creations creation.factory creation.port = some last ∧
      which ≤ last := by
  induction creations with
  | nil => cases member
  | cons latest earlier inductionHypothesis =>
    obtain ⟨above, descending⟩ := List.pairwise_cons.mp descending
    obtain rfl | member := List.mem_cons.mp member
    · rw [lastRegistered?_cons made, if_pos ⟨rfl, rfl, registered⟩]
      exact ⟨which, rfl, Nat.le_refl which⟩
    · have before := inductionHypothesis descending member
      cases latest_made : latest.listener with
      | none => rwa [lastRegistered?_cons_of_failed latest_made]
      | some last =>
        rw [lastRegistered?_cons latest_made]
        split
        · exact ⟨last, rfl, Nat.le_of_lt (above creation member last latest_made which made)⟩
        · exact before

/-- A factory registered a listener last for each multiplexed port for which it made one. -/
theorem Run.lastRegistered?_of_made (run : Run (.initial host own) history mux) {number : Nat}
    {port : Port} {which : Nat} (made : history.Made number port which)
    (multiplexed : Port.multiplexedBase ≤ port) :
    ∃ last, lastRegistered? history.creations number port = some last ∧ which ≤ last := by
  obtain ⟨creation, member, rfl, rfl, made⟩ := made
  refine run.descending.lastRegistered? member ?_ made
  simp [Creation.isRegistered, Port.isMultiplexed, multiplexed]

/-- A closed factory has closed what it had registered last for each port. -/
theorem Run.closeFactory_hasOpen (run : Run (.initial host own) history mux) {number : Nat}
    {factory : Factory} (found : mux.factories.get? number = some factory) {port : Port}
    {which : Nat} (made : history.Made number port which) :
    (mux.closeFactory number).2.hasOpen which ↔
      mux.hasOpen which ∧ lastRegistered? history.creations number port ≠ some which := by
  have before := run.listsServers
  have members := (before.lists number factory found).2
  obtain ⟨creation, member, rfl, rfl, made⟩ := made
  constructor
  · intro isOpen
    constructor
    · by_cases listed : which ∈ factory.servers.map Prod.snd
      · obtain ⟨entry, present, rfl⟩ := List.mem_map.mp listed
        exact ((members entry).mp present).2.1
      · unfold Multiplexer.hasOpen at isOpen ⊢
        rwa [Multiplexer.closeFactory_other found listed] at isOpen
    · -- The last listener would still be listed if it were open.
      intro last
      have lists := before.closeFactory creation.factory
      have still := ((lists.lists _ _ (Multiplexer.closeFactory_get? found)).2
        (creation.port, which)).mpr ⟨last, isOpen, List.not_mem_nil⟩
      exact List.not_mem_nil still
  · rintro ⟨isOpen, replaced⟩
    have unlisted : which ∉ factory.servers.map Prod.snd := by
      intro listed
      obtain ⟨⟨port, which⟩, present, rfl⟩ := List.mem_map.mp listed
      have last := ((members (port, which)).mp present).1
      obtain ⟨row, row_found, -, row_port, -⟩ := before.records.listener_of_lastRegistered last
      obtain ⟨same, same_found, origin⟩ := before.records.listener_of_creation member made
      cases row_found.symm.trans same_found
      have port_eq : creation.port = port := (congrArg Origin.port origin).symm.trans row_port
      exact replaced (port_eq ▸ last)
    unfold Multiplexer.hasOpen at isOpen ⊢
    rwa [Multiplexer.closeFactory_other found unlisted]

/-- The listeners that are closed after the close of a factory were closed before, or the
close closed them. -/
theorem Run.closeFactory_listenersWith (run : Run (.initial host own) history mux)
    (number : Nat) (issued : Nat × Port) :
    history.listenersWith issued (mux.closeFactory number).2.hasClosed =
      history.listenersWith issued mux.hasClosed +
        history.listenersWith issued fun which =>
          mux.hasOpen which && (mux.closeFactory number).2.hasClosed which := by
  have nothing : history.listenersWith issued (fun _ => false) = 0 := by
    simp [History.listenersWith]
  rw [← Nat.add_zero (_ + _), ← nothing]
  refine countP_split fun creation member => ?_
  cases made : creation.listener with
  | none => cases creation.issued? == some issued <;> rfl
  | some which =>
    obtain ⟨listener, found, -⟩ := run.records.listener_of_creation member made
    have stays : mux.hasClosed which = true →
        (mux.closeFactory number).2.hasClosed which = true :=
      fun shut => Multiplexer.closeFactory_hasClosed shut number
    have either : mux.hasOpen which = !mux.hasClosed which := by
      simp [Multiplexer.hasOpen, Multiplexer.hasClosed, found]
    simp only [Option.any_some, either]
    cases creation.issued? == some issued
    · rfl
    · cases shut : mux.hasClosed which with
      | false => simp
      | true => simp [stays shut]

/-- The close of a factory gives back the ports of the listeners that it closes. -/
theorem Run.closeFactory_givesBack (run : Run (.initial host own) history mux) (number : Nat)
    (issued : Nat × Port) :
    (mux.closeFactory number).2.returned.count issued = mux.returned.count issued +
      history.listenersWith issued fun which =>
        mux.hasOpen which && (mux.closeFactory number).2.hasClosed which := by
  have before := run.accounted issued
  have afterwards : (mux.closeFactory number).2.returned.count issued +
      (mux.closeFactory number).2.due.count issued + history.lost.count issued =
        history.failures issued +
          history.listenersWith issued (mux.closeFactory number).2.hasClosed :=
    (run.more (.closeFactory number)).accounted issued
  rw [Multiplexer.closeFactory_due, run.closeFactory_listenersWith number issued] at afterwards
  omega

/-- In every state of a run the close of a factory, whatever errors it comes to, closes all
multiplexed listeners that the factory ever made, but for those that were open and had been
replaced. -/
theorem Run.closeFactory_shutsListeners (run : Run (.initial host own) history mux)
    {number : Nat} {factory : Factory} (found : mux.factories.get? number = some factory) :
    mux.ShutsListeners host history number (mux.closeFactory number).2 where
  isOpen {port which} made multiplexed := by
    obtain ⟨last, registered, least⟩ := run.lastRegistered?_of_made made multiplexed
    rw [run.closeFactory_hasOpen found made, registered]
    refine and_congr_right fun _ => ?_
    constructor
    · intro replaced
      exact ⟨last, rfl, Nat.lt_of_le_of_ne least fun same => replaced (congrArg some same.symm)⟩
    · rintro ⟨later, same, less⟩ itself
      have backwards : later = which := Option.some.inj (same.symm.trans itself)
      exact absurd backwards (Nat.ne_of_gt less)
  accept := Multiplexer.acceptOn_of_not_open
  givesBack := run.closeFactory_givesBack number
  accounted := (run.more (.closeFactory number)).accounted
  files sound numbered orderly port which listener file made listed closed listens := by
    have known := run.knowsFiles sound numbered orderly
    obtain ⟨settled, knows⟩ : (mux.closeFactory number).2.Settled host ∧
        (mux.closeFactory number).2.KnowsFiles host :=
      (Multiplexer.KnowsFiles.keptByTraffic host).keptByClosing.closeFactory known number
    obtain ⟨isOpen, spot⟩ := Host.spot_of_fileAt? listens
    have ownFile := knows which listener file isOpen listed spot
    exact ⟨ownFile.fileNumber_ne closed, ownFile.gone closed settled.evolves⟩

end Closed

/-- A factory with a listener that another one replaced, and with an anonymous one: its
close leaves the first one open, gives back the port of the last one and removes its file. -/
theorem Run.closeFactory_shutsListeners_replaced :
    let actions := [.makeAssigner (.scripted [110000] fun _ => none), .makeRootFactory,
      .createServer 0 100005, .createServer 0 100005, .createServer 0 Port.anonymous]
    let mux := Multiplexer.blank.after actions
    let history := Multiplexer.blank.momentsOf actions []
    let after := (mux.closeFactory 0).2
    mux.ShutsListeners .bare history 0 after ∧
      after.hasOpen 0 = true ∧ after.hasOpen 1 = false ∧ after.hasOpen 2 = false ∧
      after.returned = [(0, 110000)] ∧
      ∃ listener file, after.listeners.get? 2 = some listener ∧
        after.host.fileAt? listener.socket = some file ∧
        after.host.fileNumber listener.file ≠ .ok file ∧
        ∀ place node, after.host.files.get? place = some node → node.number ≠ file := by
  intro actions mux history after
  have exists_factory : (mux.factories.get? 0).isSome := by decide +kernel
  obtain ⟨factory, found⟩ := Option.isSome_iff_exists.mp exists_factory
  have shuts : mux.ShutsListeners .bare history 0 after :=
    (Run.ofActions _ actions).closeFactory_shutsListeners found
  have replaced : after.hasOpen 0 = true ∧ after.hasOpen 1 = false ∧ after.hasOpen 2 = false ∧
      after.returned = [(0, 110000)] := by
    decide +kernel
  refine ⟨shuts, replaced.1, replaced.2.1, replaced.2.2.1, replaced.2.2.2, ?_⟩
  have closed : (after.listeners.get? 2).map (fun listener =>
      (listener.isClosed, after.host.fileAt? listener.socket)) = some (true, some 3) := by
    decide +kernel
  obtain ⟨listener, listed, same⟩ := Option.map_eq_some_iff.mp closed
  obtain ⟨isClosed, listens⟩ := Prod.mk.inj same
  have inside : history.all Moment.staysInside = true := by decide +kernel
  have orderly : ∀ moment ∈ history, moment.IsOrderly :=
    fun moment member => .of_staysInside (List.all_eq_true.mp inside moment member)
  have made : history.Made 0 110000 2 := by decide +kernel
  obtain ⟨unfound, gone⟩ := shuts.files .bare .bare orderly made listed isClosed listens
  exact ⟨listener, 3, listed, listens, unfound, gone (.bare _)⟩

/-- Whether a listener is closed and the file at which its socket listened is still there. -/
def Multiplexer.leavesFile (mux : Multiplexer) (which : Nat) : Bool :=
  (mux.listeners.get? which).any fun listener =>
    listener.isClosed && mux.host.files.entries.any fun (_, node) =>
      mux.host.fileAt? listener.socket == some node.number

/-- What the close of a factory need not undo. A listener stays open if another one was
registered for its port. The port of a listener does not go back that was let go of without
background tasks. The file of a closed listener stays if a later creation cleared a link on
its path, if the transport bound another path, or if somebody moved the file. -/
theorem Run.closeFactory_leavesSome :
    let replaced := Multiplexer.blank.after [.makeRootFactory, .createServer 0 100005,
      .createServer 0 100005, .closeFactory 0]
    let lost := Multiplexer.blank.after [.makeAssigner (.scripted [110000] fun _ => none),
      .makeRootFactory, .createServer 0 Port.anonymous, .dropListener 0 false, .closeFactory 0]
    let misled := (Multiplexer.initial .linked ⟨none, 0, 0⟩).after [
      .makeFactoryAt (Text.Utf8.bytesOf "/link") Port.defaultRegistry,
      .makeFactoryAt (Text.Utf8.bytesOf "/link") Port.plainFile,
      .createServer 0 100005, .createServer 1 100006, .closeFactory 0]
    let elsewhere := Multiplexer.blank.after [.makeRootFactory,
      .changeTransport 0 { Transport.plain with boundPath := some (Text.Utf8.bytesOf "/other") },
      .createServer 0 100005, .closeFactory 0]
    let bound := Multiplexer.blank.after [.makeRootFactory, .createServer 0 100005]
    let files : FileTree := ⟨[([Text.Utf8.bytesOf "moved"], ⟨1, .socket⟩)], 2⟩
    let moved := bound.after [.outside { bound.host with files }, .closeFactory 0]
    (replaced.hasOpen 0 = true ∧ replaced.hasOpen 1 = false) ∧
      (lost.hasClosed 0 = true ∧ lost.returned = [] ∧ lost.due = []) ∧
      misled.leavesFile 0 = true ∧ elsewhere.leavesFile 0 = true ∧
      moved.leavesFile 0 = true := by
  decide +kernel

end SocketMux
