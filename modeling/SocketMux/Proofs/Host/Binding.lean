import SocketMux.Proofs.Host.Occupancy
import SocketMux.Proofs.Outcome

/-!
# Binding, reaching and removing socket files

What the operations of a host do to entries: removing a file clears its entry, listening
takes a free entry, and binding with reuse does one after the other. A path that leads to
the file of an open socket reaches that socket (`Host.reach_of_entry`), and a removal that
asks for a number clears the entry only if the file there has this number
(`Host.removeNumbered_ok`).
-/

namespace SocketMux

namespace FileTree

/-- A file that is no directory can be removed at its entry. -/
theorem unlink_of_entry {tree : FileTree} {path : Path} {place : Place} {node : FileNode}
    (located : tree.locateEntry path = .ok place) (noSlash : endsWithSlash path = false)
    (present : tree.get? place = some node) (noDirectory : node.kind ≠ .directory) :
    tree.unlink path = .ok (tree.erase place) := by
  unfold unlink
  simp only [located, bind, Except.bind, present, noDirectory, if_false, noSlash,
    Bool.false_eq_true]
  rfl

/-- A path whose entry is located is not empty. -/
theorem ne_nil_of_locateEntry {tree : FileTree} {path : Path} {place : Place}
    (located : tree.locateEntry path = .ok place) : path ≠ [] := by
  rintro rfl
  cases located

/-- A path whose entry is located holds no zero byte. -/
theorem no_zero_of_locateEntry {tree : FileTree} {path : Path} {place : Place}
    (located : tree.locateEntry path = .ok place) : path.contains 0 = false := by
  cases zero : path.contains 0 with
  | false => rfl
  | true =>
    unfold locateEntry checkPath at located
    rw [if_pos zero] at located
    cases located

end FileTree

namespace Host

theorem spots_length (host : Host) : host.spots.length = host.sockets.size := by
  simp [spots, Table.size]

/-- A path whose entry is located is no abstract name. -/
theorem abstractName?_of_locateEntry {tree : FileTree} {path : Path} {place : Place}
    (located : tree.locateEntry path = .ok place) : abstractName? path = none := by
  cases path with
  | nil => rfl
  | cons first rest =>
    have noZero : first ≠ 0 := by
      rintro rfl
      cases located
    simp [abstractName?, noZero]

/-- The entry of a path is cleared by removing the file there. -/
theorem cleared_erase (host : Host) {place : Place} {node : FileNode}
    (present : host.files.get? place = some node) (noDirectory : node.kind ≠ .directory) :
    Cleared place host { host with files := host.files.erase place } := by
  have only : ∀ other, host.files.get? place = some other → other.kind ≠ .directory := by
    intro other found
    rw [present] at found
    injection found with same
    exact same ▸ noDirectory
  exact ⟨fun other => FileTree.get?_erase _ other (FileTree.ne_root_of_not_directory only),
    rfl, rfl, only⟩

/-- An entry where nothing stands is clear. -/
theorem cleared_of_free {host : Host} {place : Place} (free : host.files.get? place = none) :
    Cleared place host host := by
  refine ⟨fun other => ?_, rfl, rfl, fun node found => ?_⟩
  · split
    · next asked => rw [asked, free]
    · rfl
  · rw [free] at found
    cases found

/-- A removal clears the entry of its path, if the path has one. -/
theorem removeIfPresent_ok {host after : Host} {path : Path}
    (removed : host.removeIfPresent path = .ok after) :
    (∃ place, host.files.locateEntry path = .ok place ∧ Cleared place host after) ∨
      ((∃ fault, host.files.locateEntry path = .error fault) ∧ after = host) := by
  unfold removeIfPresent removeFile at removed
  cases unlinked : host.files.unlink path with
  | ok files =>
    obtain ⟨place, node, located, present, noDirectory, -, rfl⟩ := FileTree.unlink_ok unlinked
    simp only [unlinked, bind, Except.bind, pure, Except.pure] at removed
    injection removed with removed
    exact .inl ⟨place, located, removed ▸ host.cleared_erase present noDirectory⟩
  | error fault =>
    simp only [unlinked, bind, Except.bind] at removed
    split at removed
    · next missing =>
      injection removed with removed
      subst removed
      cases located : host.files.locateEntry path with
      | ok place =>
        exact .inl ⟨place, rfl, cleared_of_free (FileTree.unlink_error unlinked missing located)⟩
      | error fault => exact .inr ⟨⟨fault, rfl⟩, rfl⟩
    · cases removed

/-- Listening at a path takes its entry, which has to be free. -/
theorem listen_ok {host after : Host} {path : Path} {socket : Nat}
    (listened : host.listen path = .ok (socket, after)) (isPath : abstractName? path = none)
    (nonempty : path ≠ []) :
    ∃ place, host.files.locateEntry path = .ok place ∧ host.files.get? place = none ∧
      FileTree.endsWithSlash path = false ∧ checkPath path = .ok () ∧
        socket = host.spots.length ∧ Taken place host after := by
  unfold listen at listened
  rw [isPath] at listened
  cases checked : checkPath path with
  | error fault => simp only [checked, bind, Except.bind] at listened; cases listened
  | ok =>
    simp only [checked, bind, Except.bind, nonempty, if_false] at listened
    cases made : host.files.makeSocket path with
    | error fault => simp only [made] at listened; cases listened
    | ok fresh =>
      obtain ⟨number, files⟩ := fresh
      obtain ⟨place, located, free, noSlash, rfl, rfl⟩ := FileTree.makeSocket_ok made
      simp only [made, pure, Except.pure] at listened
      injection listened with listened
      have below : place ≠ [] := by
        rintro rfl
        cases free
      refine ⟨place, located, free, noSlash, rfl, ?_, ?_⟩
      · rw [spots_length]
        exact (congrArg Prod.fst listened).symm
      · have after_eq := congrArg Prod.snd listened
        simp only at after_eq
        rw [← after_eq]
        refine ⟨fun other => FileTree.get?_insert _ _ other below, rfl, ?_, ?_⟩
        · exact spots_listenAt { host with files := host.files.insert place .socket } _
        · intro node found
          rw [free] at found
          cases found

/-- Listening takes the entry of a path, or it is no listening at a file. -/
theorem listen_cases {host after : Host} {path : Path} {socket : Nat}
    (listened : host.listen path = .ok (socket, after)) :
    socket = host.spots.length ∧ after.spots.length = host.spots.length + 1 ∧
      (host.SameListening after ∨
        ∃ place, host.files.locateEntry path = .ok place ∧ Taken place host after) := by
  cases isPath : abstractName? path with
  | some name =>
    unfold listen at listened
    rw [isPath] at listened
    obtain ⟨last, -, extended⟩ := spots_listenUnder listened
    exact ⟨by rw [last, spots_length], by simp [extended],
      .inl (listenUnder_listening listened)⟩
  | none =>
    by_cases nonempty : path = []
    · subst nonempty
      have done : (host.listenAt .nowhere) = (socket, after) := by
        unfold listen at listened
        injection listened
      obtain ⟨rfl, rfl⟩ := Prod.mk.inj done
      have extended := spots_listenAt host .nowhere
      exact ⟨(spots_length host).symm, (congrArg List.length extended).trans List.length_append,
        .inl ⟨rfl, [(.nowhere, true)], extended, by simp⟩⟩
    · obtain ⟨place, located, -, -, -, last, taken⟩ := listen_ok listened isPath nonempty
      exact ⟨last, by simp [taken.spots], .inr ⟨place, located, taken⟩⟩

/-- A path with a zero byte leads to no file. -/
theorem fileNumber_of_zero (host : Host) {path : Path} (zero : path.contains 0 = true) :
    host.fileNumber path = .error FileTree.zeroInPath := by
  unfold fileNumber FileTree.find FileTree.locate FileTree.checkPath
  rw [if_pos zero]
  rfl

/-- Taking a free entry keeps all directories and links. -/
theorem Taken.within {place : Place} {before after : Host} (taken : Taken place before after)
    (free : before.files.get? place = none) : before.files.PassagesWithin after.files := by
  intro other node found _
  rw [taken.entry, if_neg]
  · exact found
  · rintro rfl
    rw [free] at found
    cases found

/-- The file of a socket that took a free entry is found by the path to the entry. -/
theorem Taken.fileNumber {place : Place} {before after : Host} (taken : Taken place before after)
    {path : Path} (located : before.files.locateEntry path = .ok place)
    (free : before.files.get? place = none) (noSlash : FileTree.endsWithSlash path = false) :
    after.fileNumber path = .ok before.files.nextNumber := by
  have within := taken.within free
  have present : after.files.get? place = some ⟨before.files.nextNumber, .socket⟩ := by
    rw [taken.entry, if_pos rfl]
  have found := FileTree.find_of_entry (FileTree.locateEntry_within within located) noSlash
    present nofun false
  unfold Host.fileNumber
  rw [found]
  rfl

/-- A removal that asks for a number clears an entry with a file of that number, or
nothing. -/
theorem removeNumbered_ok {host after : Host} {path : Path} {number : Nat}
    (removed : host.removeNumbered path number = .ok after) :
    after = host ∨ ∃ place kind, host.files.locateEntry path = .ok place ∧
      host.files.get? place = some ⟨number, kind⟩ ∧ Cleared place host after := by
  unfold removeNumbered at removed
  split at removed
  · next present numbered =>
    split at removed
    · next same =>
      subst same
      unfold removeIfPresent removeFile at removed
      cases unlinked : host.files.unlink path with
      | ok files =>
        obtain ⟨place, node, located, entry, noDirectory, noSlash, rfl⟩ :=
          FileTree.unlink_ok unlinked
        simp only [unlinked, bind, Except.bind, pure, Except.pure] at removed
        injection removed with removed
        have found : host.files.find false path = .ok node := by
          have here : host.files.locate false path = .ok place := by
            unfold FileTree.locate FileTree.route
            rw [noSlash]
            exact located
          unfold FileTree.find
          simp only [here, bind, Except.bind, entry]
          rfl
        unfold fileNumber at numbered
        rw [found] at numbered
        injection numbered with numbered
        refine .inr ⟨place, node.kind, located, ?_, removed ▸ host.cleared_erase entry noDirectory⟩
        rw [entry, ← numbered]
      | error fault =>
        simp only [unlinked, bind, Except.bind] at removed
        split at removed
        · injection removed with removed
          exact .inl removed.symm
        · cases removed
    · injection removed with removed
      exact .inl removed.symm
  · split at removed
    · injection removed with removed
      exact .inl removed.symm
    · cases removed

/-- A socket file with the right number is removed. -/
theorem removeNumbered_of_entry {host : Host} {path : Path} {place : Place} {number : Nat}
    (located : host.files.locateEntry path = .ok place)
    (noSlash : FileTree.endsWithSlash path = false)
    (present : host.files.get? place = some ⟨number, .socket⟩) :
    ∃ after, host.removeNumbered path number = .ok after ∧ Cleared place host after := by
  have found := FileTree.find_of_entry located noSlash present nofun false
  have unlinked := FileTree.unlink_of_entry located noSlash present nofun
  refine ⟨{ host with files := host.files.erase place }, ?_, host.cleared_erase present nofun⟩
  unfold removeNumbered fileNumber removeIfPresent removeFile
  simp only [found, unlinked, Except.map, if_true, bind, Except.bind]
  rfl

/-- A path that leads to the file of an open socket reaches that socket. -/
theorem reach_of_entry {host : Host} {path : Path} {place : Place} {number socket : Nat}
    (located : host.files.locateEntry path = .ok place)
    (noSlash : FileTree.endsWithSlash path = false) (fits : checkPath path = .ok ())
    (present : host.files.get? place = some ⟨number, .socket⟩) (sound : host.Sound)
    (spot : host.spots[socket]? = some (SocketSpot.file number, true)) :
    host.reach path = .ok socket := by
  have isPath := abstractName?_of_locateEntry located
  have found := FileTree.find_of_entry located noSlash present nofun true
  have listens : host.socketAt? (.file number) = some socket :=
    socketAt?_of_unique spot fun other there => sound.unique there spot
  unfold reach
  rw [isPath]
  simp only [fits, bind, Except.bind, FileTree.ne_nil_of_locateEntry located, if_false, found,
    listens]
  rfl

/-- A path without a slash at its end that leads to a socket has an entry. -/
theorem exists_entry_of_reach {host : Host} {path : Path} {socket : Nat}
    (reached : host.reach path = .ok socket) (isPath : abstractName? path = none)
    (noSlash : FileTree.endsWithSlash path = false) :
    ∃ place, host.files.locateEntry path = .ok place := by
  unfold reach at reached
  rw [isPath] at reached
  obtain ⟨-, -, reached⟩ := Outcome.bind_eq_ok_iff.mp reached
  split at reached
  · cases reached
  · obtain ⟨node, found, -⟩ := Outcome.bind_eq_ok_iff.mp reached
    exact FileTree.exists_entry_of_find found noSlash

/-- A removal that succeeds and asks for a number, or fails and leaves everything as it is,
lets a host evolve. -/
theorem removeNumbered_evolves (host : Host) (path : Path) (number : Nat) :
    host.Evolves (((host.removeNumbered path number).toOption).getD host) := by
  cases removed : host.removeNumbered path number with
  | error fault => exact .refl host
  | ok after =>
    obtain same | ⟨place, kind, -, -, cleared⟩ := removeNumbered_ok removed
    · exact same ▸ .refl host
    · exact cleared.evolves

end Host

namespace LocalAddress

/-- An address is abstract if its bytes are a name to the host. -/
theorem isAbstract_eq (address : LocalAddress) :
    address.isAbstract = (Host.abstractName? address.bytes).isSome := by
  unfold isAbstract Host.abstractName?
  cases address.bytes with
  | nil => rfl
  | cons first rest => by_cases zero : first = 0 <;> simp [zero]

/-- The bytes of an abstract address begin with a zero. -/
theorem contains_of_isAbstract (address : LocalAddress) (isAbstract : address.isAbstract = true) :
    address.bytes.contains 0 = true := by
  unfold LocalAddress.isAbstract at isAbstract
  simpa using List.mem_of_head? (by simpa using isAbstract)

end LocalAddress

namespace Transport

/-- Whoever connects to an address that leads to the file of an open socket reaches that
socket. -/
theorem connectPlainly_of_entry {host : Host} {address : LocalAddress} {place : Place}
    {number socket : Nat} (located : host.files.locateEntry address.bytes = .ok place)
    (noSlash : FileTree.endsWithSlash address.bytes = false)
    (fits : Host.checkPath address.bytes = .ok ())
    (present : host.files.get? place = some ⟨number, .socket⟩) (sound : host.Sound)
    (spot : host.spots[socket]? = some (SocketSpot.file number, true)) :
    connectPlainly host address = .ok (host.connectTo socket) := by
  have reached := Host.reach_of_entry located noSlash fits present sound spot
  have isPath : address.isAbstract = false := by
    rw [address.isAbstract_eq, Host.abstractName?_of_locateEntry located]
    rfl
  simp only [connectPlainly, isPath, Bool.false_eq_true, if_false, reached]

/-- Whether a transport makes connections and knows who their peers are. -/
def connects (transport : Transport) : Bool :=
  transport.connectFailure.isNone && transport.credentialsFailure.isNone

theorem connect_of_connects {transport : Transport} (connects : transport.connects = true)
    (host : Host) (address : LocalAddress) :
    transport.connect host address = connectPlainly host address := by
  simp only [Transport.connects, Bool.and_eq_true, Option.isNone_iff_eq_none] at connects
  unfold connect
  rw [connects.1]

theorem peer_of_connects {transport : Transport} (connects : transport.connects = true)
    (own : PeerCredentials) : ∃ credentials, transport.peer own = .ok credentials := by
  simp only [Transport.connects, Bool.and_eq_true, Option.isNone_iff_eq_none] at connects
  unfold peer
  rw [connects.2]
  exact ⟨_, rfl⟩

/-- Whether a transport binds no other path than the one it is asked to bind. -/
def bindsInPlace (transport : Transport) : Bool := transport.boundPath.isNone

theorem bind_of_bindFailure {transport : Transport} {err : MuxError}
    (fails : transport.bindFailure = some err) (host : Host) (address : LocalAddress)
    (reuse : Bool) : transport.bind host address reuse = (.error err, host) := by
  unfold bind
  rw [fails]

theorem bind_of_bindsInPlace {transport : Transport} (inPlace : transport.bindsInPlace = true)
    (works : transport.bindFailure = none) (host : Host) (address : LocalAddress)
    (reuse : Bool) : transport.bind host address reuse = bindPlainly host address reuse := by
  unfold bindsInPlace at inPlace
  unfold bind
  rw [works, Option.isNone_iff_eq_none.mp inPlace]

end Transport

end SocketMux
