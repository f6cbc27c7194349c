import SocketMux.Proofs.Lifecycle.Sockets

/-!
# The file of a closed listener

The file that came to be when a listener was bound stands nowhere but at the entry to which
the path of the listener led at the start. The close of the listener removes it, unless the
path leads elsewhere by then, and then it never leads back (`Multiplexer.KnowsFiles`). All
orderly runs keep this (`Run.knowsFiles`), whatever else takes or clears entries in the
meantime. What a close removes is therefore no link, and no traffic takes links away
(`Multiplexer.keepsLinks_keptByTraffic`).
-/

namespace SocketMux

/-- What is known of the file at which the socket of a listener was made to listen. -/
structure OwnFile (start host : Host) (listener : MuxListener) (file : Nat) : Prop where
  numbered : listener.fileNumber = some file
  noSlash : FileTree.endsWithSlash listener.file = false
  given : file < host.files.nextNumber
  /-- The file stands at most where the path of the listener led at the start. -/
  only : ∀ place node, host.files.get? place = some node → node.number = file →
    node.kind = .socket ∧ start.files.locateEntry listener.file = .ok place
  /-- Once the listener is closed its path does not lead to the file. -/
  removed : listener.isClosed = true → ∀ place node,
    host.files.locateEntry listener.file = .ok place → host.files.get? place = some node →
      node.number ≠ file

namespace OwnFile

variable {start host after : Host} {listener : MuxListener} {file : Nat}

/-- A file that was made earlier stands where it stood. -/
theorem there (own : OwnFile start host listener file) (evolves : host.Evolves after)
    {place : Place} {node : FileNode} (found : after.files.get? place = some node)
    (same : node.number = file) : host.files.get? place = some node := by
  obtain there | ⟨least, -⟩ := evolves.erodes.fresh place node found
  · exact there
  · have given := own.given
    omega

/-- What is known stays known while the host evolves. -/
theorem evolve (own : OwnFile start host listener file) (evolves : host.Evolves after) :
    OwnFile start after listener file where
  numbered := own.numbered
  noSlash := own.noSlash
  given := Nat.lt_of_lt_of_le own.given evolves.erodes.next
  only place node found same := own.only place node (own.there evolves found same) same
  removed closed place node located found same :=
    own.removed closed place node (evolves.erodes.locateEntry located)
      (own.there evolves found same) same

/-- The end of the listener removes the file, if the path still leads to it. -/
theorem ended (own : OwnFile start host listener file) :
    OwnFile start (host.withoutListener listener) listener.closed file := by
  have evolves := Multiplexer.Settled.withoutListener_evolves host listener
  have kept := own.evolve evolves
  refine { kept with removed := fun _ place node located found same => ?_ }
  have before : host.files.locateEntry listener.file = .ok place :=
    evolves.erodes.locateEntry located
  have present := own.there evolves found same
  obtain ⟨number, kind⟩ := node
  obtain ⟨rfl, -⟩ := own.only place _ present same
  obtain rfl : number = file := same
  rw [← Host.closeSocket_files host listener.socket] at before present
  obtain ⟨after, removed, cleared⟩ := Host.removeNumbered_of_entry before own.noSlash present
  have after_eq : host.withoutListener listener = after := by
    unfold Host.withoutListener
    simp only [own.numbered, removed]
    rfl
  rw [after_eq, cleared.entry, if_pos rfl] at found
  cases found

/-- Whoever looks along the path of a closed listener does not find its file. -/
theorem fileNumber_ne (own : OwnFile start host listener file)
    (closed : listener.isClosed = true) : host.fileNumber listener.file ≠ .ok file := by
  intro numbered
  unfold Host.fileNumber at numbered
  cases found : host.files.find false listener.file with
  | error fault => rw [found] at numbered; cases numbered
  | ok node =>
    rw [found] at numbered
    injection numbered with same
    obtain ⟨place, located, present⟩ := FileTree.entry_of_find found own.noSlash
    exact own.removed closed place node located present same

/-- As long as all links of the start stand, the file of a closed listener is gone. -/
theorem gone (own : OwnFile start host listener file) (closed : listener.isClosed = true)
    (evolves : start.Evolves host) (links : start.files.KeepsLinks host.files) (place : Place)
    (node : FileNode) (found : host.files.get? place = some node) : node.number ≠ file := by
  intro same
  obtain ⟨-, led⟩ := own.only place node found same
  have located := (evolves.erodes.locateEntry_iff links).mpr led
  exact own.removed closed place node located found same

/-- The file of a listener that has just been made. -/
theorem made {factory : Factory} {port : Port} {socket : Nat} {isOpen : Bool}
    (inPlace : factory.transport.bindsInPlace = true) (evolves : start.Evolves host)
    (numbered : host.files.Numbered) (bind : factory.bindFile host port = (.ok socket, after))
    (listens : after.spots[socket]? = some (SocketSpot.file file, isOpen)) (number : Nat)
    (issuer : Option Nat) (registered : Bool) :
    OwnFile start after
      (Multiplexer.listenerFor number factory issuer port registered socket after) file := by
  obtain ⟨-, same, only⟩ | ⟨place, -, located, ⟨err, failed, -⟩ |
      ⟨made, noSlash, -, taken, found⟩⟩ := Factory.bindFile_cases inPlace bind
  · -- An abstract name is no file, so nothing listens at a file under the new number.
    obtain ⟨last, -⟩ := only socket rfl
    have before := same.spot_before listens
    have bounded := (List.getElem?_eq_some_iff.mp before).1
    omega
  · cases failed
  · injection made with last
    rw [taken.spot, if_pos last] at listens
    obtain rfl : host.files.nextNumber = file :=
      SocketSpot.file.inj (congrArg Prod.fst (Option.some.inj listens))
    refine ⟨?_, noSlash, ?_, fun other node present same => ?_, nofun⟩
    · simp [Multiplexer.listenerFor, found, Except.toOption]
    · rw [taken.next]
      exact Nat.lt_succ_self _
    · rw [taken.entry] at present
      split at present
      · next here =>
        obtain rfl := Option.some.inj present
        exact ⟨rfl, here ▸ evolves.erodes.locateEntry located⟩
      · have earlier := numbered other node present
        omega

end OwnFile

namespace Multiplexer

/-- What is known of the files of all listeners. -/
def KnowsFiles (start : Host) (mux : Multiplexer) : Prop :=
  ∀ number listener file isOpen, mux.listeners.get? number = some listener →
    mux.host.spots[listener.socket]? = some (SocketSpot.file file, isOpen) →
      OwnFile start mux.host listener file

/-- A socket that listens at a file has listened there since it was made. -/
theorem Settled.spot_before {start : Host} {mux : Multiplexer} (settled : mux.Settled start)
    {after : Host} (evolves : mux.host.Evolves after) {number : Nat} {listener : MuxListener}
    (found : mux.listeners.get? number = some listener) {spot : SocketSpot} {isOpen : Bool}
    (listens : after.spots[listener.socket]? = some (spot, isOpen)) :
    ∃ wasOpen, mux.host.spots[listener.socket]? = some (spot, wasOpen) := by
  have member : listener.socket ∈ mux.ownSockets :=
    List.mem_append_left _ (List.mem_map_of_mem (List.mem_of_getElem? found))
  have bounded := settled.bounded _ member
  have there := List.getElem?_eq_getElem bounded
  obtain ⟨nowOpen, still⟩ := evolves.spots _ _ _ there
  rw [still] at listens
  obtain ⟨rfl, -⟩ := Prod.mk.inj (Option.some.inj listens)
  exact ⟨_, there⟩

namespace KnowsFiles

variable {start : Host} {mux after : Multiplexer}

/-- What is known stays known while the host evolves and the listeners stay the same. -/
theorem evolve (knows : mux.KnowsFiles start) (settled : mux.Settled start)
    (evolves : mux.host.Evolves after.host) (listeners : after.listeners = mux.listeners) :
    after.KnowsFiles start := by
  intro number listener file isOpen found listens
  rw [listeners] at found
  obtain ⟨wasOpen, there⟩ := settled.spot_before evolves found listens
  exact (knows _ _ _ _ found there).evolve evolves

/-- Traffic keeps the sockets settled and the files known. -/
theorem keptByTraffic (start : Host) :
    KeptByTraffic fun mux => mux.Settled start ∧ mux.KnowsFiles start where
  same both same := by
    obtain ⟨settled, knows⟩ := both
    exact ⟨(Settled.keptByTraffic start).same settled same,
      knows.evolve settled same.host.evolves same.listeners⟩
  ended {mux other ending} endingFound isOpen both := by
    obtain ⟨settled, knows⟩ := both
    have evolves := Settled.withoutListener_evolves mux.host ending
    refine ⟨(Settled.keptByTraffic start).ended endingFound isOpen settled, ?_⟩
    intro number listener file isOpen found listens
    rw [Table.get?_modify] at found
    split at found
    · next same =>
      subst same
      rw [endingFound] at found
      obtain rfl := Option.some.inj found
      obtain ⟨wasOpen, there⟩ := settled.spot_before evolves endingFound listens
      exact (knows _ _ _ _ endingFound there).ended
    · obtain ⟨wasOpen, there⟩ := settled.spot_before evolves found listens
      exact (knows _ _ _ _ found there).evolve evolves

end KnowsFiles

/-- A call for a server keeps the files known. -/
theorem Creates.knowsFiles {start : Host} {mux after : Multiplexer} {number : Nat}
    {factory : Factory} {creation : Option Creation}
    (creates : Creates mux number factory creation after)
    (inPlace : factory.transport.bindsInPlace = true) (numbered : start.files.Numbered)
    (settled : mux.Settled start) (knows : mux.KnowsFiles start) : after.KnowsFiles start := by
  cases creates with
  | nothing remembers =>
    refine knows.evolve settled (Host.SameListening.evolves ?_) rfl
    exact .of_eq rfl rfl
  | @failed port bound issuer ready err host prepared unbound =>
    obtain ⟨pools, assigners, remember, remembers, rfl⟩ := ready_eq prepared
    obtain ⟨morePools, moreAssigners, refunded⟩ := refund_eq
      { mux with host, pools, assigners, factories := mux.factories.modify number remember }
      issuer bound
    rw [refunded]
    exact knows.evolve settled (Factory.bindFile_evolves inPlace unbound) rfl
  | @made port bound issuer ready socket host prepared bind =>
    obtain ⟨pools, assigners, remember, remembers, rfl⟩ := ready_eq prepared
    have evolves := Factory.bindFile_evolves inPlace bind
    intro other listener file isOpen found listens
    simp only [enlist, Table.get?_add] at found
    split at found
    · obtain rfl := Option.some.inj found
      exact .made inPlace settled.evolves (settled.evolves.erodes.numbered numbered) bind listens
        _ _ _
    · obtain ⟨wasOpen, there⟩ := settled.spot_before evolves found listens
      exact (knows _ _ _ _ found there).evolve evolves

/-- Every action at an orderly moment keeps the files known. -/
theorem KnowsFiles.perform {start : Host} {mux : Multiplexer} (knows : mux.KnowsFiles start)
    (settled : mux.Settled start) (numbered : start.files.Numbered) {action : Action}
    (orderly : Moment.IsOrderly ⟨mux, action⟩) : (mux.perform action).KnowsFiles start := by
  by_cases traffic : action.isTraffic = true
  · exact ((keptByTraffic start).perform traffic ⟨settled, knows⟩).2
  cases action with
  | createServer number port =>
    cases found : mux.factories.get? number with
    | none =>
      simp only [Multiplexer.perform, createServer, found]
      exact knows
    | some factory =>
      exact (createServer_creates port found).knowsFiles (orderly.inPlace found) numbered settled
        knows
  | startAuthority path pool =>
    have listeners : (mux.startAuthority path pool).2.listeners = mux.listeners := by
      obtain ⟨host, authorities, after⟩ := mux.startAuthority_eq path pool
      rw [after]
    exact knows.evolve settled (mux.startAuthority_evolves path pool) listeners
  | shutDownAuthority number =>
    have listeners : (mux.shutDownAuthority number).2.listeners = mux.listeners := by
      obtain ⟨host, authorities, after⟩ := mux.shutDownAuthority_eq number
      rw [after]
    exact knows.evolve settled (mux.shutDownAuthority_evolves number) listeners
  | dropAuthority number =>
    have listeners : (mux.dropAuthority number).listeners = mux.listeners := by
      obtain ⟨host, after⟩ := mux.dropAuthority_eq number
      rw [after]
    exact knows.evolve settled (mux.dropAuthority_evolves number) listeners
  | outside host => exact knows.evolve settled (orderly.outside rfl).evolves rfl
  | _ => exact absurd rfl traffic

section Links

variable {start : Host} {tree : FileTree} {mux : Multiplexer}

/-- The end of a listener clears no link. -/
theorem KnowsFiles.keepsLinks (knows : mux.KnowsFiles start) (settled : mux.Settled start)
    {number : Nat} {listener : MuxListener} (found : mux.listeners.get? number = some listener)
    (links : tree.KeepsLinks mux.host.files) :
    tree.KeepsLinks (mux.host.withoutListener listener).files := by
  intro place node target there isLink
  have before := links place node target there isLink
  rw [← Host.closeSocket_files mux.host listener.socket] at before
  unfold Host.withoutListener
  simp only
  split
  · exact before
  · next own numbered =>
    cases removed : (mux.host.closeSocket listener.socket).removeNumbered listener.file own with
    | error fault => exact before
    | ok host =>
      obtain rfl | ⟨other, kind, -, present, cleared⟩ := Host.removeNumbered_ok removed
      · exact before
      · refine (cleared.entry place).trans ((if_neg ?_).trans before)
        rintro rfl
        -- What is removed is the socket file that was made for the listener.
        obtain ⟨isOpen, listens⟩ := settled.files found numbered
        have owned := knows number listener own isOpen found listens
        obtain rfl := Option.some.inj (before.symm.trans present)
        rw [Host.closeSocket_files] at present
        obtain ⟨socket, -⟩ := owned.only place _ present rfl
        cases socket.symm.trans isLink

/-- Traffic keeps all links. -/
theorem keepsLinks_keptByTraffic (start : Host) (tree : FileTree) :
    KeptByTraffic fun mux =>
      (mux.Settled start ∧ mux.KnowsFiles start) ∧ tree.KeepsLinks mux.host.files where
  same both same := by
    refine ⟨(KnowsFiles.keptByTraffic start).same both.1 same, ?_⟩
    rw [same.host.files]
    exact both.2
  ended found isOpen both :=
    ⟨(KnowsFiles.keptByTraffic start).ended found isOpen both.1,
      both.1.2.keepsLinks both.1.1 found both.2⟩

/-- A call for a server keeps all links but one that it clears for its file. -/
theorem Creates.keepsLinks {after : Multiplexer} {number : Nat} {factory : Factory}
    {creation : Option Creation} (creates : Creates mux number factory creation after)
    (inPlace : factory.transport.bindsInPlace = true)
    (apart : ∀ made, creation = some made → ∀ place node target, made.place = some place →
      tree.get? place = some node → node.kind ≠ .link target)
    (links : tree.KeepsLinks mux.host.files) : tree.KeepsLinks after.host.files := by
  cases creates with
  | nothing remembers => exact links
  | @failed port bound issuer ready err host prepared unbound =>
    obtain ⟨pools, assigners, refunded⟩ := refund_eq { ready with host } issuer bound
    rw [refunded]
    intro place node target there isLink
    refine (Factory.bindFile_entry inPlace unbound fun here => ?_).trans (links _ _ _ there isLink)
    exact apart _ rfl place node target here there isLink
  | @made port bound issuer ready socket host prepared bind =>
    intro place node target there isLink
    refine (Factory.bindFile_entry inPlace bind fun here => ?_).trans (links _ _ _ there isLink)
    exact apart _ rfl place node target here there isLink

end Links

end Multiplexer

/-- Every orderly run keeps the files known. -/
theorem Run.knowsFiles {host : Host} {own : PeerCredentials} {history : History}
    {mux : Multiplexer} (run : Run (.initial host own) history mux) (sound : host.Sound)
    (numbered : host.files.Numbered) (orderly : ∀ moment ∈ history, moment.IsOrderly) :
    mux.Settled host ∧ mux.KnowsFiles host := by
  apply run.induction (motive := fun _ mux => mux.Settled host ∧ mux.KnowsFiles host) orderly
  · exact ⟨.initial own sound, nofun⟩
  · exact fun action known both => ⟨both.1.perform known, both.2.perform both.1 numbered known⟩

end SocketMux
