import SocketMux.Proofs.File.Erosion
import SocketMux.Proofs.Host.Listening
import SocketMux.Transport

/-!
# Clearing and taking entries

Binding a socket file clears its entry and then takes it, where clearing may succeed and
taking fail. `Host.Cleared` and `Host.Taken` describe both for all entries and sockets at
once. They only ever let a host evolve (`Host.Evolves`): its tree erodes, its sockets stay
where they listen, and no two sockets come to listen at one file (`Host.Sound`).
-/

namespace SocketMux.Host

/-- Sockets listen at different files, all of which have been made. -/
structure Sound (host : Host) : Prop where
  known : ∀ {socket number : Nat} {isOpen : Bool},
    host.spots[socket]? = some (SocketSpot.file number, isOpen) → number < host.files.nextNumber
  unique : ∀ {first second number : Nat} {firstOpen secondOpen : Bool},
    host.spots[first]? = some (SocketSpot.file number, firstOpen) →
    host.spots[second]? = some (SocketSpot.file number, secondOpen) → first = second

/-- A host without sockets is sound. -/
theorem Sound.of_noSockets {host : Host} (noSockets : host.spots = []) : host.Sound := by
  constructor
  · intro socket number isOpen found
    simp [noSockets] at found
  · intro first second number firstOpen secondOpen found
    simp [noSockets] at found

/-- No socket listens on a bare host. -/
theorem Sound.bare : Host.bare.Sound := .of_noSockets rfl

/-- What becomes of a host when entries are cleared and taken and sockets are closed. -/
structure Evolves (before after : Host) : Prop where
  erodes : before.files.Erodes after.files
  sound : before.Sound → after.Sound
  spots : ∀ (socket : Nat) spot isOpen, before.spots[socket]? = some (spot, isOpen) →
    ∃ nowOpen, after.spots[socket]? = some (spot, nowOpen)

namespace Evolves

theorem refl (host : Host) : Evolves host host :=
  ⟨.refl _, id, fun _ _ isOpen found => ⟨isOpen, found⟩⟩

theorem trans {first second third : Host} (former : Evolves first second)
    (latter : Evolves second third) : Evolves first third where
  erodes := former.erodes.trans latter.erodes
  sound sound := latter.sound (former.sound sound)
  spots socket spot isOpen found := by
    obtain ⟨inBetween, there⟩ := former.spots socket spot isOpen found
    exact latter.spots socket spot inBetween there

/-- No socket disappears. -/
theorem length_le {before after : Host} (evolves : Evolves before after) :
    before.spots.length ≤ after.spots.length := by
  rcases Nat.lt_or_ge after.spots.length before.spots.length with fewer | more
  · have found := List.getElem?_eq_getElem fewer
    obtain ⟨nowOpen, there⟩ := evolves.spots after.spots.length _ _ found
    exact absurd (List.getElem?_eq_some_iff.mp there).1 (Nat.lt_irrefl _)
  · exact more

end Evolves

/-- Where traffic goes on, the old sockets listen as before. -/
theorem SameListening.spot {before after : Host} (same : before.SameListening after)
    {socket : Nat} {spot : SocketSpot × Bool} (found : before.spots[socket]? = some spot) :
    after.spots[socket]? = some spot := by
  obtain ⟨others, extended, -⟩ := same.spots
  rw [extended, List.getElem?_append_left (List.getElem?_eq_some_iff.mp found).1]
  exact found

/-- Where traffic goes on, no new socket listens at a file. -/
theorem SameListening.spot_before {before after : Host} (same : before.SameListening after)
    {socket number : Nat} {isOpen : Bool}
    (found : after.spots[socket]? = some (SocketSpot.file number, isOpen)) :
    before.spots[socket]? = some (SocketSpot.file number, isOpen) := by
  obtain ⟨others, extended, apart⟩ := same.spots
  rw [extended, List.getElem?_append] at found
  split at found
  · exact found
  · exact absurd rfl (apart _ (List.mem_of_getElem? found) number)

theorem SameListening.evolves {before after : Host} (same : before.SameListening after) :
    before.Evolves after where
  erodes := by
    rw [same.files]
    exact .refl _
  sound sound := by
    refine ⟨fun found => ?_, fun first second => ?_⟩
    · rw [same.files]
      exact sound.known (same.spot_before found)
    · exact sound.unique (same.spot_before first) (same.spot_before second)
  spots _ _ isOpen found := ⟨isOpen, same.spot found⟩

/-- A closed socket keeps its spot. -/
theorem spot_closeSocket (host : Host) (socket other : Nat) :
    (host.closeSocket socket).spots[other]? =
      if socket = other then (host.spots[other]?).map fun spot => (spot.1, false)
      else host.spots[other]? := by
  rw [spots_closeSocket, List.getElem?_modify]
  split <;> simp

theorem closeSocket_evolves (host : Host) (socket : Nat) :
    host.Evolves (host.closeSocket socket) := by
  have before : ∀ {other number : Nat} {isOpen : Bool},
      (host.closeSocket socket).spots[other]? = some (SocketSpot.file number, isOpen) →
        ∃ wasOpen, host.spots[other]? = some (SocketSpot.file number, wasOpen) := by
    intro other number isOpen found
    rw [spot_closeSocket] at found
    split at found
    · obtain ⟨⟨spot, wasOpen⟩, there, same⟩ := Option.map_eq_some_iff.mp found
      injection same with spot_eq
      exact ⟨wasOpen, by rw [there, ← spot_eq]⟩
    · exact ⟨isOpen, found⟩
  refine ⟨by rw [closeSocket_files]; exact .refl _, fun sound => ⟨?_, ?_⟩, ?_⟩
  · intro other number isOpen found
    obtain ⟨wasOpen, there⟩ := before found
    rw [closeSocket_files]
    exact sound.known there
  · intro first second number firstOpen secondOpen firstFound secondFound
    obtain ⟨_, firstThere⟩ := before firstFound
    obtain ⟨_, secondThere⟩ := before secondFound
    exact sound.unique firstThere secondThere
  · intro other spot isOpen found
    rw [spot_closeSocket, found]
    split
    · exact ⟨false, rfl⟩
    · exact ⟨isOpen, rfl⟩

/-- An entry that was no directory is cleared, and everything else is as before. -/
structure Cleared (place : Place) (before after : Host) : Prop where
  entry : ∀ other, after.files.get? other =
    if other = place then none else before.files.get? other
  next : after.files.nextNumber = before.files.nextNumber
  sockets : after.sockets = before.sockets
  noDirectory : ∀ node, before.files.get? place = some node → node.kind ≠ .directory

/-- A fresh socket file takes an entry that was no directory, and a new socket listens at
it. Everything else is as before. -/
structure Taken (place : Place) (before after : Host) : Prop where
  entry : ∀ other, after.files.get? other =
    if other = place then some ⟨before.files.nextNumber, .socket⟩ else before.files.get? other
  next : after.files.nextNumber = before.files.nextNumber + 1
  spots : after.spots = before.spots ++ [(SocketSpot.file before.files.nextNumber, true)]
  noDirectory : ∀ node, before.files.get? place = some node → node.kind ≠ .directory

theorem Cleared.spots {place : Place} {before after : Host} (cleared : Cleared place before after) :
    after.spots = before.spots := by
  unfold Host.spots
  rw [cleared.sockets]

theorem Cleared.evolves {place : Place} {before after : Host}
    (cleared : Cleared place before after) : before.Evolves after where
  erodes := by
    refine .of_entry place ?_ ?_ cleared.noDirectory (Nat.le_of_eq cleared.next.symm)
    · intro other elsewhere
      rw [cleared.entry, if_neg elsewhere]
    · intro node found
      rw [cleared.entry, if_pos rfl] at found
      cases found
  sound sound := by
    refine ⟨fun found => ?_, fun first second => ?_⟩
    · rw [cleared.spots] at found
      rw [cleared.next]
      exact sound.known found
    · rw [cleared.spots] at first second
      exact sound.unique first second
  spots _ _ isOpen found := ⟨isOpen, by rw [cleared.spots]; exact found⟩

/-- All old sockets stay where they listen, and the new one comes after them. -/
theorem Taken.spot {place : Place} {before after : Host} (taken : Taken place before after)
    (socket : Nat) : after.spots[socket]? =
      if socket = before.spots.length then some (SocketSpot.file before.files.nextNumber, true)
      else before.spots[socket]? := by
  rw [taken.spots]
  rcases Nat.lt_trichotomy socket before.spots.length with bounded | last | beyond
  · rw [List.getElem?_append_left bounded, if_neg (Nat.ne_of_lt bounded)]
  · simp [last]
  · rw [if_neg (Nat.ne_of_gt beyond), List.getElem?_eq_none (Nat.le_of_lt beyond)]
    refine List.getElem?_eq_none ?_
    rw [List.length_append, List.length_singleton]
    omega

theorem Taken.evolves {place : Place} {before after : Host} (taken : Taken place before after) :
    before.Evolves after where
  erodes := by
    refine .of_entry place ?_ ?_ taken.noDirectory (by rw [taken.next]; omega)
    · intro other elsewhere
      rw [taken.entry, if_neg elsewhere]
    · intro node found
      rw [taken.entry, if_pos rfl] at found
      obtain rfl := Option.some.inj found
      exact ⟨rfl, Nat.le_refl _, by rw [taken.next]; exact Nat.lt_succ_self _⟩
  sound sound := by
    constructor
    · intro socket number isOpen found
      rw [taken.next]
      rw [taken.spot] at found
      split at found
      · cases found
        omega
      · have known := sound.known found
        omega
    · intro first second number firstOpen secondOpen firstFound secondFound
      rw [taken.spot] at firstFound secondFound
      split at firstFound <;> split at secondFound
      · next firstLast secondLast => rw [firstLast, secondLast]
      · cases firstFound
        exact absurd (sound.known secondFound) (Nat.lt_irrefl _)
      · cases secondFound
        exact absurd (sound.known firstFound) (Nat.lt_irrefl _)
      · exact sound.unique firstFound secondFound
  spots socket spot isOpen found := by
    have bounded := (List.getElem?_eq_some_iff.mp found).1
    exact ⟨isOpen, by rw [taken.spot, if_neg (Nat.ne_of_lt bounded)]; exact found⟩

/-- Taking an entry after clearing it is taking it. -/
theorem Cleared.taken {place : Place} {before between after : Host}
    (cleared : Cleared place before between) (taken : Taken place between after) :
    Taken place before after where
  entry other := by
    rw [taken.entry, cleared.entry, cleared.next]
    split <;> rfl
  next := by rw [taken.next, cleared.next]
  spots := by rw [taken.spots, cleared.spots, cleared.next]
  noDirectory := cleared.noDirectory

end SocketMux.Host
