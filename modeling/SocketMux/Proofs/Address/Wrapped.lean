import SocketMux.Address.Wrapped
import SocketMux.Proofs.Address.Family

/-!
# Wrapped addresses that are unwrapped

The hosts that hold an address are its descriptor in hexadecimal, the name of its family and
the common ending (`WrappedAddress.Holds`). Unwrapping succeeds on these hosts alone, and
wrapping again writes the digits in lower case. What is refused because its host has no family
label, or another one than is asked for, is of another sort (`WrappedAddress.RefusedAs`); what
is refused behind the right label is malformed. `WrappedAddress.Unwraps` says all this of one
host and port.
-/

namespace SocketMux

open SocketMux.Text

/-- No family name holds the full stop that stands before it in a host. -/
theorem Family.dot_not_mem_name (family : Family) : '.' ∉ family.name.toList := by
  cases family <;> decide

theorem Family.name_injective : Function.Injective Family.name := by
  intro first second same
  cases first <;> cases second <;> first | rfl | exact absurd same (by decide)

/-- A registered family is found by its name. -/
theorem FamilyRegistry.byName?_standard (family : Family) :
    standard.byName? family.name = some family := by
  cases family <;> decide

namespace WrappedAddress

/-- The host of digits and a family label. -/
def hostOf (digits : List Char) (label : String) : String :=
  String.ofList (digits ++ ['.'] ++ label.toList ++ hostEnding)

/-- Whether a host shows a family label behind digits, whatever these are. -/
structure Shows (wrapped : WrappedAddress) (digits : List Char) (label : String) : Prop where
  host : wrapped.host = hostOf digits label
  label : '.' ∉ label.toList

/-- Whether a host shows no family label: it does not have the ending, or no full stop stands
before the ending. -/
def HasNoLabel (wrapped : WrappedAddress) : Prop :=
  ∀ stem, wrapped.host.toList = stem ++ hostEnding → '.' ∉ stem

/-- Whether a host and port hold the address of a descriptor, written in digits. -/
structure Holds (wrapped : WrappedAddress) (family : Family) (digits : List Char)
    (bytes : List UInt8) : Prop where
  host : wrapped.host = hostOf digits family.name
  digits : Hex.Denotes digits bytes
  admits : family.Admits bytes
  port : -1 ≤ wrapped.port

theorem Holds.shows {wrapped : WrappedAddress} {family : Family} {digits : List Char}
    {bytes : List UInt8} (holds : wrapped.Holds family digits bytes) :
    wrapped.Shows digits family.name :=
  ⟨holds.host, family.dot_not_mem_name⟩

/-- Whether an outcome refuses an address as being of another sort, and not as malformed. -/
def RefusedAs (expected actual : String) (outcome : Except AddressError SocketAddress) : Prop :=
  ∃ err, outcome = .error err ∧ err = .unsupportedAddress expected actual ∧
    err.isMalformed = false

/-- The reading of a host and port that belongs to the addresses of one family. -/
def unwrapOwn (wrapped : WrappedAddress) : Family → Except AddressError SocketAddress
  | .local => wrapped.unwrapLocal.map .local
  | .cluster => wrapped.unwrapCluster.map .cluster

variable {wrapped : WrappedAddress} {digits : List Char} {label : String} {family : Family}
  {bytes : List UInt8} {address : SocketAddress}

section Hosts

theorem splitHost_eq_ok_iff :
    wrapped.splitHost = .ok (digits, label) ↔ wrapped.Shows digits label := by
  unfold splitHost
  dsimp only
  constructor
  · intro read
    split at read
    · cases read
    · next stem dropped =>
      split at read
      · cases read
      · next front tail cut =>
        cases read
        obtain ⟨rfl, noDot⟩ := Cut.last?_eq_some cut
        have whole := Cut.dropEnding?_eq_some_iff.mp dropped
        refine ⟨?_, by simpa using noDot⟩
        rw [← String.ofList_toList (s := wrapped.host), whole, hostOf]
        simp
  · rintro ⟨whole, noDot⟩
    have spelled : wrapped.host.toList = (digits ++ '.' :: label.toList) ++ hostEnding := by
      rw [whole, hostOf, String.toList_ofList]
      simp
    rw [Cut.dropEnding?_eq_some_iff.mpr spelled]
    dsimp only
    rw [Cut.last?_append digits noDot]
    simp

/-- A host without a label is refused by all readings. -/
theorem splitHost_of_hasNoLabel (bare : wrapped.HasNoLabel) : wrapped.splitHost =
    .error (.unsupportedAddress "wrapped socket address" wrapped.host) := by
  unfold splitHost
  dsimp only
  split
  · rfl
  · next stem dropped =>
    have noDot := bare stem (Cut.dropEnding?_eq_some_iff.mp dropped)
    rw [Cut.last?_eq_none noDot]

end Hosts

section Readings

/-- Behind the label of the family, the digits denote a descriptor. -/
theorem unwrapAs_of_shows (shows : wrapped.Shows digits family.name) : wrapped.unwrapAs family =
    match Hex.decode (Utf8.encode digits) with
    | .error fault => .error (.malformedUri family.name wrapped.host (.hex fault))
    | .ok bytes => family.ofDescriptor bytes wrapped.port := by
  unfold unwrapAs
  rw [splitHost_eq_ok_iff.mpr shows]
  exact if_pos rfl

/-- Another label than the family's is refused. -/
theorem unwrapAs_of_ne (shows : wrapped.Shows digits label) (other : label ≠ family.name) :
    RefusedAs family.name label (wrapped.unwrapAs family) := by
  refine ⟨_, ?_, rfl, rfl⟩
  unfold unwrapAs
  rw [splitHost_eq_ok_iff.mpr shows]
  exact if_neg other

theorem unwrapAs_eq_ok_iff : wrapped.unwrapAs family = .ok address ↔
    ∃ digits bytes, wrapped.Holds family digits bytes ∧
      family.ofDescriptor bytes wrapped.port = .ok address := by
  constructor
  · intro read
    obtain ⟨⟨digits, label⟩, split, _⟩ := Outcome.bind_eq_ok_iff.mp read
    have shows := splitHost_eq_ok_iff.mp split
    by_cases own : label = family.name
    · subst own
      rw [unwrapAs_of_shows shows] at read
      split at read
      · cases read
      · next bytes decoded =>
        obtain ⟨admits, least, _⟩ := Family.ofDescriptor_eq_ok read
        exact ⟨digits, bytes, ⟨shows.host, Hex.decode_encode_eq_ok_iff.mp decoded, admits, least⟩,
          read⟩
    · obtain ⟨err, refused, _⟩ := unwrapAs_of_ne shows own
      rw [refused] at read
      cases read
  · rintro ⟨digits, bytes, holds, made⟩
    rw [unwrapAs_of_shows holds.shows, Hex.decode_encode_eq_ok_iff.mpr holds.digits]
    exact made

/-- A registered family reads what has its label. -/
theorem unwrapWith_of_shows (shows : wrapped.Shows digits label) (registry : FamilyRegistry) :
    wrapped.unwrapWith registry = match registry.byName? label with
      | none => .error (.unsupportedAddress "registered address family" label)
      | some family => wrapped.unwrapAs family := by
  unfold unwrapWith
  rw [splitHost_eq_ok_iff.mpr shows]
  rfl

/-- Behind a registered label, the registry reads what the family reads. -/
theorem unwrapWith_standard_of_shows (shows : wrapped.Shows digits family.name) :
    wrapped.unwrapWith .standard = wrapped.unwrapAs family := by
  rw [unwrapWith_of_shows shows, FamilyRegistry.byName?_standard]

theorem unwrapWith_standard_eq_ok_iff : wrapped.unwrapWith .standard = .ok address ↔
    ∃ family, wrapped.unwrapAs family = .ok address := by
  constructor
  · intro read
    obtain ⟨⟨digits, label⟩, split, later⟩ := Outcome.bind_eq_ok_iff.mp read
    dsimp only at later
    split at later
    · cases later
    · next family found => exact ⟨family, later⟩
  · rintro ⟨family, read⟩
    obtain ⟨digits, bytes, holds, _⟩ := unwrapAs_eq_ok_iff.mp read
    rw [unwrapWith_standard_of_shows holds.shows]
    exact read

/-- What is read for a family is of that family. -/
theorem family_of_unwrapAs (read : wrapped.unwrapAs family = .ok address) :
    address.family = family := by
  obtain ⟨digits, bytes, _, made⟩ := unwrapAs_eq_ok_iff.mp read
  obtain ⟨_, _, own, _⟩ := Family.ofDescriptor_eq_ok made
  exact own

/-- The reading that belongs to a family's addresses is the reading for the family. -/
theorem unwrapOwn_eq (wrapped : WrappedAddress) (family : Family) :
    wrapped.unwrapOwn family = wrapped.unwrapAs family := by
  cases family <;> unfold unwrapOwn <;> dsimp only
  · unfold unwrapLocal
    cases read : wrapped.unwrapAs .local with
    | error err => rfl
    | ok address =>
      have own := family_of_unwrapAs read
      cases address with
      | «local» address => rfl
      | cluster address => cases own
  · unfold unwrapCluster
    cases read : wrapped.unwrapAs .cluster with
    | error err => rfl
    | ok address =>
      have own := family_of_unwrapAs read
      cases address with
      | «local» address => cases own
      | cluster address => rfl

end Readings

section Wrapping

/-- An address is wrapped with the digits of its descriptor. -/
theorem wrap_of_ofDescriptor {port : Port} (made : family.ofDescriptor bytes port = .ok address) :
    wrap address = ⟨hostOf (Hex.encode bytes) family.name, port⟩ := by
  obtain ⟨_, _, rfl, rfl, rfl⟩ := Family.ofDescriptor_eq_ok made
  rfl

/-- A wrapped address holds the descriptor that it was made from. -/
theorem holds_wrap {port : Port} (made : family.ofDescriptor bytes port = .ok address) :
    (wrap address).Holds family (Hex.encode bytes) bytes := by
  obtain ⟨admits, least, _⟩ := Family.ofDescriptor_eq_ok made
  rw [wrap_of_ofDescriptor made]
  exact ⟨rfl, Hex.denotes_encode bytes, admits, least⟩

theorem unwrapAs_wrap {port : Port} (made : family.ofDescriptor bytes port = .ok address) :
    (wrap address).unwrapAs family = .ok address := by
  refine unwrapAs_eq_ok_iff.mpr ⟨_, bytes, holds_wrap made, ?_⟩
  rw [wrap_of_ofDescriptor made]
  exact made

end Wrapping

/-- What unwrapping makes of a host and port. -/
structure Unwraps (wrapped : WrappedAddress) : Prop where
  /-- Nothing is unwrapped but what holds a descriptor. -/
  succeeds : (∃ address, wrapped.unwrapWith .standard = .ok address) ↔
    ∃ family digits bytes, wrapped.Holds family digits bytes
  /-- The address is the one of the descriptor, whichever way it is unwrapped, and it is wrapped
  with the same port and the same digits in lower case. -/
  canonical : ∀ {family digits bytes address}, wrapped.Holds family digits bytes →
    wrapped.unwrapWith .standard = .ok address →
    family.ofDescriptor bytes wrapped.port = .ok address ∧
      wrapped.unwrapAs family = .ok address ∧
      wrap address = ⟨hostOf (digits.map Char.toLower) family.name, wrapped.port⟩
  /-- Behind a registered label, all ways give the same, also where they fail. -/
  agree : ∀ {digits family}, wrapped.Shows digits family.name →
    wrapped.unwrapWith .standard = wrapped.unwrapAs family
  own : ∀ family, wrapped.unwrapOwn family = wrapped.unwrapAs family
  noLabel : wrapped.HasNoLabel →
    (∀ registry, RefusedAs "wrapped socket address" wrapped.host (wrapped.unwrapWith registry)) ∧
      ∀ family, RefusedAs "wrapped socket address" wrapped.host (wrapped.unwrapAs family)
  unregistered : ∀ {digits label registry}, wrapped.Shows digits label →
    FamilyRegistry.byName? registry label = none →
    RefusedAs "registered address family" label (wrapped.unwrapWith registry)
  foreign : ∀ {digits label family}, wrapped.Shows digits label → label ≠ family.name →
    RefusedAs family.name label (wrapped.unwrapAs family)
  malformed : ∀ {digits family err}, wrapped.Shows digits family.name →
    wrapped.unwrapAs family = .error err → err.isMalformed = true

theorem unwraps (wrapped : WrappedAddress) : wrapped.Unwraps where
  succeeds := by
    constructor
    · rintro ⟨address, read⟩
      obtain ⟨family, own⟩ := unwrapWith_standard_eq_ok_iff.mp read
      obtain ⟨digits, bytes, holds, _⟩ := unwrapAs_eq_ok_iff.mp own
      exact ⟨family, digits, bytes, holds⟩
    · rintro ⟨family, digits, bytes, holds⟩
      obtain ⟨address, made⟩ := Family.exists_ofDescriptor holds.admits holds.port
      exact ⟨address, unwrapWith_standard_eq_ok_iff.mpr
        ⟨family, unwrapAs_eq_ok_iff.mpr ⟨digits, bytes, holds, made⟩⟩⟩
  canonical := by
    intro family digits bytes address holds read
    rw [unwrapWith_standard_of_shows holds.shows] at read
    have made := read
    rw [unwrapAs_of_shows holds.shows, Hex.decode_encode_eq_ok_iff.mpr holds.digits] at made
    refine ⟨made, read, ?_⟩
    rw [wrap_of_ofDescriptor made, holds.digits.encode_eq]
  agree := unwrapWith_standard_of_shows
  own := wrapped.unwrapOwn_eq
  noLabel := by
    intro bare
    have refused := splitHost_of_hasNoLabel bare
    constructor
    · intro registry
      refine ⟨_, ?_, rfl, rfl⟩
      unfold unwrapWith
      rw [refused]
      rfl
    · intro family
      refine ⟨_, ?_, rfl, rfl⟩
      unfold unwrapAs
      rw [refused]
      rfl
  unregistered := by
    intro digits label registry shows unknown
    refine ⟨_, ?_, rfl, rfl⟩
    rw [unwrapWith_of_shows shows, unknown]
  foreign := unwrapAs_of_ne
  malformed := by
    intro digits family err shows fails
    rw [unwrapAs_of_shows shows] at fails
    split at fails
    · cases fails
      rfl
    · exact Family.isMalformed_of_ofDescriptor fails

/-- Wrapped addresses and their hosts. Each host and port is unwrapped as it should be, and
every address that was made of a descriptor is unwrapped from its own host and port, by its
family alone. -/
theorem hosts_read_back :
    (∀ wrapped : WrappedAddress, wrapped.Unwraps) ∧
    ∀ (family : Family) (bytes : List UInt8) (port : Port), family.Admits bytes → -1 ≤ port →
      ∃ address, family.ofDescriptor bytes port = .ok address ∧
        (wrap address).unwrapWith .standard = .ok address ∧
        (wrap address).unwrapAs family = .ok address ∧
        (wrap address).unwrapOwn family = .ok address ∧
        ∀ other, other ≠ family →
          RefusedAs other.name family.name ((wrap address).unwrapAs other) := by
  refine ⟨unwraps, ?_⟩
  intro family bytes port admits least
  obtain ⟨address, made⟩ := Family.exists_ofDescriptor admits least
  have read := unwrapAs_wrap made
  refine ⟨address, made, unwrapWith_standard_eq_ok_iff.mpr ⟨family, read⟩, read, ?_, ?_⟩
  · rw [unwrapOwn_eq]
    exact read
  · intro other different
    have shows := (holds_wrap made).shows
    exact unwrapAs_of_ne shows fun same => different (Family.name_injective same).symm

/-- Digits in both cases, a cluster address without a port, a label of no family and a host of
another kind. -/
theorem hosts_read_back_mixedCase :
    (∃ address, (⟨"2F746d70.un.junixsocket", 5⟩ : WrappedAddress).unwrapWith .standard =
        .ok address ∧ wrap address = ⟨"2f746d70.un.junixsocket", 5⟩) ∧
    (∃ address, Family.cluster.ofDescriptor (List.replicate 20 7) (-1) = .ok address ∧
      (wrap address).unwrapWith .standard = .ok address ∧
      RefusedAs "un" "tipc" ((wrap address).unwrapAs .local)) ∧
    RefusedAs "registered address family" "vm"
      ((⟨"2f.vm.junixsocket", 0⟩ : WrappedAddress).unwrapWith .standard) ∧
    RefusedAs "wrapped socket address" "localhost"
      ((⟨"localhost", 0⟩ : WrappedAddress).unwrapWith .standard) := by
  refine ⟨?_, ?_, ?_, ?_⟩
  · have holds : (⟨"2F746d70.un.junixsocket", 5⟩ : WrappedAddress).Holds .local
        "2F746d70".toList [47, 116, 109, 112] :=
      ⟨by decide, Hex.decode_encode_eq_ok_iff.mp (by decide), List.cons_ne_nil _ _, by decide⟩
    have unwraps := hosts_read_back.1 ⟨"2F746d70.un.junixsocket", 5⟩
    obtain ⟨address, read⟩ := unwraps.succeeds.mpr ⟨_, _, _, holds⟩
    exact ⟨address, read, (unwraps.canonical holds read).2.2⟩
  · obtain ⟨address, made, read, _, _, refused⟩ :=
      hosts_read_back.2 .cluster (List.replicate 20 7) (-1) rfl (by decide)
    exact ⟨address, made, read, refused .local (by decide)⟩
  · have shows : (⟨"2f.vm.junixsocket", 0⟩ : WrappedAddress).Shows "2f".toList "vm" :=
      ⟨by decide, by decide⟩
    exact (hosts_read_back.1 _).unregistered shows (by decide)
  · have bare : (⟨"localhost", 0⟩ : WrappedAddress).HasNoLabel := by
      intro stem whole
      have ends : hostEnding <:+ "localhost".toList := ⟨stem, whole.symm⟩
      exact absurd ends.length_le (by decide)
    exact ((hosts_read_back.1 ⟨"localhost", 0⟩).noLabel bare).1 .standard

end WrappedAddress

end SocketMux
