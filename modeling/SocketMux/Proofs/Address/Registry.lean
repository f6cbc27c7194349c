import SocketMux.Proofs.Address.GivenPort

/-!
# Registries of address families

A registry cuts the scheme off a text without checking it, and leaves all else to the family that
it finds; a family cuts the text by itself and accepts plain schemes alone. No scheme belongs to
two families (`Family.eq_of_mem_schemes`), so at most one family reads a text
(`Family.eq_of_ofUri`), and a registry finds the family of a scheme whatever the order of its
families is (`FamilyRegistry.byScheme?_eq_some_iff`). So a registry makes an address of a text if
and only if one of its families does (`FamilyRegistry.ofUri_eq_ok_iff`), and registering families
in another order or once more changes nothing (`FamilyRegistry.uris_dispatched`).
-/

namespace SocketMux

open SocketMux.Text

variable {text : String} {replacement : Option Port}

namespace Family

/-- No scheme belongs to two families. -/
theorem eq_of_mem_schemes {first second : Family} {scheme : String}
    (former : scheme ∈ first.schemes) (latter : scheme ∈ second.schemes) : first = second := by
  have apart : ∀ scheme ∈ LocalAddress.schemes, scheme ∉ Cluster.schemes := by decide
  cases first <;> cases second
  · rfl
  · exact absurd latter (apart scheme former)
  · exact absurd former (apart scheme latter)
  · rfl

/-- At most one family makes an address of a text, whatever ports are given beside it. -/
theorem eq_of_ofUri {first second : Family} {other : Option Port} {address made : SocketAddress}
    (former : first.ofUri text replacement = .ok address)
    (latter : second.ofUri text other = .ok made) : first = second := by
  obtain ⟨_, firstReads⟩ := exists_reads former
  obtain ⟨_, secondReads⟩ := exists_reads latter
  obtain ⟨scheme, found, own⟩ := firstReads.ownScheme
  obtain ⟨again, foundAgain, shared⟩ := secondReads.ownScheme
  rw [found] at foundAgain
  obtain rfl := Option.some.inj foundAgain
  exact eq_of_mem_schemes own shared

end Family

namespace FamilyRegistry

/-- The registry of families that are registered one after the other. -/
def ofList (families : List Family) : FamilyRegistry := families.foldl register empty

variable {registry other : FamilyRegistry} {family : Family} {families : List Family}

section Registered

theorem mem_register {added : Family} :
    family ∈ (registry.register added).families ↔ family ∈ registry.families ∨ family = added := by
  unfold register
  split
  · next listed =>
    constructor
    · exact .inl
    · rintro (member | rfl)
      · exact member
      · exact listed
  · rw [List.mem_append, List.mem_singleton]

theorem mem_foldl_register : family ∈ (families.foldl register registry).families ↔
    family ∈ registry.families ∨ family ∈ families := by
  induction families generalizing registry with
  | nil => simp
  | cons added families inductionHypothesis =>
    rw [List.foldl_cons, inductionHypothesis, mem_register, List.mem_cons, or_assoc]

/-- What is registered is what was added, in any order and any number of times. -/
theorem mem_ofList : family ∈ (ofList families).families ↔ family ∈ families := by
  have nobody : family ∉ empty.families := List.not_mem_nil
  unfold ofList
  rw [mem_foldl_register, or_iff_right nobody]

end Registered

section Dispatch

/-- A registry finds the family of a scheme if that is registered. -/
theorem byScheme?_eq_some_iff {scheme : String} : registry.byScheme? scheme = some family ↔
    family ∈ registry.families ∧ scheme ∈ family.schemes := by
  unfold byScheme?
  constructor
  · intro found
    have supports := List.find?_some found
    exact ⟨List.mem_of_find?_eq_some found, List.contains_iff_mem.mp supports⟩
  · rintro ⟨registered, isScheme⟩
    cases found : registry.families.find? fun family => family.schemes.contains scheme with
    | none =>
      have unsupported := List.find?_eq_none.mp found family registered
      exact absurd (List.contains_iff_mem.mpr isScheme) unsupported
    | some first =>
      have supports := List.find?_some found
      rw [Family.eq_of_mem_schemes (List.contains_iff_mem.mp supports) isScheme]

/-- A lookup goes by which families are registered alone. -/
theorem byScheme?_congr
    (same : ∀ family, family ∈ registry.families ↔ family ∈ other.families) (scheme : String) :
    registry.byScheme? scheme = other.byScheme? scheme := by
  ext family
  rw [byScheme?_eq_some_iff, byScheme?_eq_some_iff, same]

theorem ofUri_congr (same : ∀ family, family ∈ registry.families ↔ family ∈ other.families) :
    registry.ofUri text replacement = other.ofUri text replacement := by
  unfold ofUri
  simp only [byScheme?_congr same]

/-- A text of which a family makes an address is left to this family if it is registered. -/
theorem ofUri_of_ofUri {address : SocketAddress} (registered : family ∈ registry.families)
    (made : family.ofUri text replacement = .ok address) :
    registry.ofUri text replacement = .ok address := by
  obtain ⟨_, reads⟩ := Family.exists_reads made
  obtain ⟨scheme, cut, isScheme⟩ := reads.ownScheme
  unfold ofUri
  rw [cut]
  dsimp only
  rw [byScheme?_eq_some_iff.mpr ⟨registered, isScheme⟩]
  exact made

/-- A registry makes an address of a text if and only if one of its families does. -/
theorem ofUri_eq_ok_iff {address : SocketAddress} :
    registry.ofUri text replacement = .ok address ↔
      ∃ family ∈ registry.families, family.ofUri text replacement = .ok address := by
  constructor
  · intro made
    unfold ofUri at made
    split at made
    · cases made
    · split at made
      · cases made
      · next family found => exact ⟨family, (byScheme?_eq_some_iff.mp found).1, made⟩
  · rintro ⟨family, registered, made⟩
    exact ofUri_of_ofUri registered made

/-- A text is refused as malformed: for its scheme, or by the family of the scheme. -/
theorem isMalformed_of_ofUri {err : AddressError}
    (fails : registry.ofUri text replacement = .error err) : err.isMalformed = true := by
  unfold ofUri at fails
  split at fails
  · cases fails
    rfl
  · split at fails
    · cases fails
      rfl
    · exact Family.isMalformed_of_ofUri fails

end Dispatch

/-- What a registry does with a text, compared to what the families do. -/
structure Dispatches (families : List Family) (text : String) (replacement : Option Port) :
    Prop where
  /-- An address is made if a registered family makes it. -/
  accepted : ∀ address, (ofList families).ofUri text replacement = .ok address ↔
    ∃ family ∈ families, family.ofUri text replacement = .ok address
  ownFamily : ∀ (family : Family) (address : SocketAddress),
    family.ofUri text replacement = .ok address → address.family = family
  /-- No two families make addresses of the text, also with different ports. -/
  alone : ∀ (first second : Family) (given other : Option Port) (address made : SocketAddress),
    first.ofUri text given = .ok address → second.ofUri text other = .ok made → first = second
  /-- Neither the order nor the number of registrations has a part in what comes of the text. -/
  unordered : ∀ others : List Family, (∀ family, family ∈ others ↔ family ∈ families) →
    (ofList others).ofUri text replacement = (ofList families).ofUri text replacement
  malformed : ∀ err, (ofList families).ofUri text replacement = .error err → err.isMalformed = true
  ownMalformed : ∀ (family : Family) (err : AddressError),
    family.ofUri text replacement = .error err → err.isMalformed = true

/-- Registries and the families in them. A registry makes an address of a text if and only if a
registered family does; it is the address that the family makes, which no other family can. What
comes of a text depends on which families are registered alone, and whatever is refused, by a
registry or a family, is malformed. -/
theorem uris_dispatched (families : List Family) (text : String) (replacement : Option Port) :
    Dispatches families text replacement where
  accepted address := by
    rw [ofUri_eq_ok_iff]
    simp only [mem_ofList]
  ownFamily family address made := by
    obtain ⟨own, reads⟩ := Family.exists_reads made
    exact reads.family_of_ofUri made
  alone _ _ _ _ _ _ former latter := Family.eq_of_ofUri former latter
  unordered others same := by
    refine ofUri_congr fun family => ?_
    rw [mem_ofList, mem_ofList, same]
  malformed _ fails := isMalformed_of_ofUri fails
  ownMalformed _ _ fails := Family.isMalformed_of_ofUri fails

/-- Both families in two orders, one of them registered twice; and a text whose family is not
registered. -/
theorem uris_dispatched_repeated :
    (ofList [.cluster, .local, .cluster]).ofUri "http+unix://%00a:9/" (some 7) =
      .ok (.local ⟨[0, 97], 7⟩) ∧
    (ofList [.local, .cluster]).ofUri "http+unix://%00a:9/" (some 7) =
      (ofList [.cluster, .local, .cluster]).ofUri "http+unix://%00a:9/" (some 7) ∧
    ∃ err, (ofList [.local, .local]).ofUri "tipc://1.2" none = .error err ∧
      err.isMalformed = true := by
  have own : Family.local.ofUri "http+unix://%00a:9/" (some 7) = .ok (.local ⟨[0, 97], 7⟩) := by
    decide +kernel
  have twice := uris_dispatched [.cluster, .local, .cluster] "http+unix://%00a:9/" (some 7)
  have missing := uris_dispatched [.local, .local] "tipc://1.2" none
  refine ⟨(twice.accepted _).mpr ⟨.local, by simp, own⟩, twice.unordered _ ?_, ?_⟩
  · intro family
    cases family <;> simp
  · cases outcome : (ofList [.local, .local]).ofUri "tipc://1.2" none with
    | error err => exact ⟨err, rfl, missing.malformed err outcome⟩
    | ok address =>
      obtain ⟨family, registered, made⟩ := (missing.accepted address).mp outcome
      have refused : Family.local.ofUri "tipc://1.2" none =
          .error (.unsupportedScheme "tipc") := by
        decide +kernel
      obtain rfl : family = .local := by simpa using registered
      rw [refused] at made
      cases made

end FamilyRegistry

end SocketMux
