import SocketMux.Socket.Host

/-!
# Where a host listens

`Host.spots` is all that a lookup sees of the sockets of a host: where each of them
listens and whether it is still open. Traffic on connections, and accepting, change
neither the spots nor the files; `Host.SameListening` says so. Abstract names are no
files, so it also admits sockets that start to listen under such names.

A socket is found at a file exactly if it is the one open socket there
(`Host.socketAt?_of_unique`).
-/

namespace SocketMux

namespace Host

/-- Where each socket listens, and whether it is open. -/
def spots (host : Host) : List (SocketSpot × Bool) :=
  host.sockets.rows.map fun socket => (socket.spot, socket.isOpen)

/-- Two states of a host with the same files, in which the same sockets listen at files. -/
structure SameListening (before after : Host) : Prop where
  files : after.files = before.files
  spots : ∃ others : List (SocketSpot × Bool), after.spots = before.spots ++ others ∧
    ∀ spot ∈ others, ∀ number, spot.1 ≠ .file number

namespace SameListening

theorem refl (host : Host) : SameListening host host :=
  ⟨rfl, [], (List.append_nil _).symm, by simp⟩

theorem trans {first second third : Host} (former : SameListening first second)
    (latter : SameListening second third) : SameListening first third := by
  obtain ⟨others, extended, apart⟩ := former.spots
  obtain ⟨more, further, apartToo⟩ := latter.spots
  refine ⟨latter.files.trans former.files, others ++ more, ?_, ?_⟩
  · rw [further, extended, List.append_assoc]
  · intro spot member
    rcases List.mem_append.mp member with member | member
    · exact apart spot member
    · exact apartToo spot member

/-- States with the same files and spots. -/
theorem of_eq {before after : Host} (files : after.files = before.files)
    (spots : after.spots = before.spots) : SameListening before after :=
  ⟨files, [], by rw [spots, List.append_nil], by simp⟩

end SameListening

/-- Changing what waits at a socket leaves the spots alone. -/
theorem spots_modify (host : Host) (sockets : Table ListeningSocket) (number : Nat)
    (change : ListeningSocket → ListeningSocket)
    (same : ∀ socket,
      ((change socket).spot, (change socket).isOpen) = (socket.spot, socket.isOpen)) :
    spots { host with sockets := sockets.modify number change } =
      spots { host with sockets } :=
  sockets.map_modify number _ same

theorem connectTo_listening (host : Host) (socket : Nat) :
    SameListening host (host.connectTo socket).2 := by
  simp only [connectTo]
  split
  · exact .of_eq rfl (spots_modify host _ _ _ fun _ => rfl)
  · exact .of_eq rfl (spots_modify host _ _ _ fun _ => rfl)

theorem accept_listening (host : Host) (socket : Nat) :
    SameListening host (host.accept socket).2 := by
  unfold accept
  split
  · exact .of_eq rfl (spots_modify _ _ _ _ fun _ => rfl)
  · exact .refl host

theorem beginAccept_listening (host : Host) (socket : Nat) :
    SameListening host (host.beginAccept socket).2 := by
  have accepted := accept_listening host socket
  unfold beginAccept
  split
  · next connection after taken =>
    rw [taken] at accepted
    exact accepted.trans (.of_eq rfl rfl)
  · next after taken =>
    rw [taken] at accepted
    exact accepted.trans (.of_eq rfl (spots_modify _ _ _ _ fun _ => rfl))

theorem noteAccept_listening (host : Host) (state : PendingAccept) :
    SameListening host (host.noteAccept state).2 := .of_eq rfl rfl

theorem modifyConnection_listening (host : Host) (connection : Nat)
    (change : Connection → Connection) :
    SameListening host (host.modifyConnection connection change) := .of_eq rfl rfl

theorem release_listening (host : Host) (connection : Nat) (side : Side) :
    SameListening host (host.release connection side) := .of_eq rfl rfl

/-- A socket that starts to listen comes after all others. -/
theorem spots_listenAt (host : Host) (spot : SocketSpot) :
    (host.listenAt spot).2.spots = host.spots ++ [(spot, true)] := by
  simp [listenAt, spots, Table.add]

/-- A socket that listens under an abstract name comes after all others. -/
theorem spots_listenUnder {host after : Host} {name : List UInt8} {socket : Nat}
    (listened : host.listenUnder name = .ok (socket, after)) :
    socket = host.sockets.size ∧ after.files = host.files ∧
      after.spots = host.spots ++ [(.abstractName name, true)] := by
  unfold listenUnder at listened
  split at listened
  · cases listened
  · split at listened
    · cases listened
    · injection listened with listened
      obtain ⟨socket_eq, after_eq⟩ := Prod.mk.inj listened
      subst after_eq
      exact ⟨socket_eq.symm, rfl, spots_listenAt host _⟩

/-- Listening under an abstract name is no listening at a file. -/
theorem listenUnder_listening {host after : Host} {name : List UInt8} {socket : Nat}
    (listened : host.listenUnder name = .ok (socket, after)) : SameListening host after := by
  obtain ⟨-, files, spots⟩ := spots_listenUnder listened
  exact ⟨files, [(.abstractName name, true)], spots, by simp⟩

@[simp]
theorem closeSocket_files (host : Host) (socket : Nat) :
    (host.closeSocket socket).files = host.files := by
  unfold closeSocket
  split <;> rfl

/-- Closing a socket only marks its own spot as closed. -/
theorem spots_closeSocket (host : Host) (socket : Nat) :
    (host.closeSocket socket).spots =
      host.spots.modify socket fun spot => (spot.1, false) := by
  apply List.ext_getElem?
  intro index
  unfold closeSocket
  split
  · next missing =>
    have absent : host.sockets.rows[socket]? = none := missing
    by_cases asked : socket = index
    · subst asked
      simp [spots, absent]
    · simp [spots, asked]
  · by_cases asked : socket = index
    · subst asked
      simp [spots, Table.modify, Function.comp_def]
    · simp [spots, Table.modify, asked]

/-- The one open socket at a spot is the one that is found there. -/
theorem socketAt?_of_unique {host : Host} {spot : SocketSpot} {socket : Nat}
    (present : host.spots[socket]? = some (spot, true))
    (unique : ∀ other, host.spots[other]? = some (spot, true) → other = socket) :
    host.socketAt? spot = some socket := by
  have view : ∀ number, (host.sockets.get? number).any
      (fun state => state.isOpen && state.spot == spot) = true ↔
        host.spots[number]? = some (spot, true) := by
    intro number
    simp only [spots, Table.get?, List.getElem?_map]
    cases host.sockets.rows[number]? with
    | none => simp
    | some state => simp [and_comm]
  let numbers := host.sockets.numbersWhere fun state => state.isOpen && state.spot == spot
  have member : socket ∈ numbers := by
    have bounded : socket < host.sockets.size := by
      have below := (List.getElem?_eq_some_iff.mp present).1
      simpa [spots, Table.size] using below
    exact List.mem_filter.mpr ⟨List.mem_range.mpr bounded, (view socket).mpr present⟩
  have alone : ∀ number ∈ numbers, number = socket := fun number found =>
    unique number ((view number).mp (List.mem_filter.mp found).2)
  change numbers.head? = some socket
  cases listed : numbers with
  | nil => rw [listed] at member; cases member
  | cons first rest =>
    have first_eq : first = socket := alone first (by rw [listed]; exact List.mem_cons_self)
    simp [first_eq]

end Host

end SocketMux
