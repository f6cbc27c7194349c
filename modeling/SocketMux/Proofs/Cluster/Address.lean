import SocketMux.Proofs.Address.Wrapped
import SocketMux.Proofs.Cluster.Grammar

/-!
# Addresses and what their descriptors say

An address keeps its descriptor beside the values that it was made from. However an address comes
about (`ClusterAddress.Obtained`), its descriptor is what its values are written as, and its kind
goes by its name (`Obtained.isWritten`). So reading the descriptor gives the values back, unless
a service was made with a scope that has a name and does not go by it
(`ClusterAddress.values_are_read`): such an address differs from the one that its own descriptor
denotes (`ClusterAddress.not_values_are_read`).
-/

namespace SocketMux

namespace Cluster.Scope

/-- The scopes that have a name and do not go by it. -/
def misnamed : List Scope := [.other 0, .other 2, .other 3]

theorem isNamed_iff {scope : Scope} : scope.IsNamed ↔ scope ∉ misnamed := by
  cases scope with
  | notSpecified => decide
  | cluster => decide
  | node => decide
  | other value =>
    constructor
    · rintro named listed
      obtain rfl | rfl | rfl : value = 0 ∨ value = 2 ∨ value = 3 := by
        simpa [misnamed] using listed
      all_goals exact absurd named (by decide)
    · intro unlisted
      obtain ⟨notZero, notTwo, notThree⟩ : value ≠ 0 ∧ value ≠ 2 ∧ value ≠ 3 := by
        simpa [misnamed] using unlisted
      simp [IsNamed, Scope.value, ofValue, notZero, notTwo, notThree]

end Cluster.Scope

namespace ClusterAddress

open Cluster

/-- The addresses that come about, if services are made with scopes of some sort. -/
inductive Obtained (given : Scope → Prop) : ClusterAddress → Prop where
  | service {scope : Scope} (allowed : given scope)
      (serviceType serviceInstance domain : UInt32) :
      Obtained given (ofService scope serviceType serviceInstance domain)
  | serviceRange {scope : Scope} (allowed : given scope) (serviceType least most : UInt32) :
      Obtained given (ofServiceRange scope serviceType least most)
  | socket (reference node : UInt32) : Obtained given (ofSocket reference node)
  | topologyService : Obtained given ofTopologyService
  | descriptor {bytes : List UInt8} {port : Port} {address : ClusterAddress}
      (made : ofDescriptor bytes port = .ok address) : Obtained given address
  | uri {text : String} {replacement : Option Port} {address : ClusterAddress}
      (read : ofUri text replacement = .ok address) : Obtained given address
  | unwrapped {wrapped : WrappedAddress} {address : ClusterAddress}
      (read : wrapped.unwrapCluster = .ok address) : Obtained given address
  | withPort {address other : ClusterAddress} {port : Port} (earlier : Obtained given address)
      (made : address.withPort port = .ok other) : Obtained given other

variable {given : Scope → Prop} {address other : ClusterAddress}

section Routes

/-- An address whose descriptor is what its values are written as. -/
structure IsWritten (address : ClusterAddress) : Prop where
  descriptor : address.descriptor = address.fields.encode
  kind : address.fields.kind.IsNamed

theorem isWritten_ofFields {fields : Fields} (named : fields.kind.IsNamed) (port : Port) :
    (ofFields fields port).IsWritten := ⟨rfl, named⟩

/-- What is made of a descriptor has the values that were read. -/
theorem named_of_ofDescriptor {bytes : List UInt8} {port : Port}
    (made : ofDescriptor bytes port = .ok address) :
    address.IsWritten ∧ address.fields.IsNamed := by
  obtain ⟨fields, decoded, -, rfl⟩ := ofDescriptor_eq_ok_iff.mp made
  obtain ⟨named, written⟩ := Fields.encode_of_decode decoded
  exact ⟨⟨written.symm, named.kind⟩, named⟩

/-- What is read from a URI has values that go by their names, whatever the port. -/
theorem named_of_ofUri {text : String} {replacement : Option Port}
    (read : ofUri text replacement = .ok address) :
    address.IsWritten ∧ address.fields.IsNamed := by
  obtain ⟨⟨fields, own⟩, values, later⟩ := Outcome.bind_eq_ok_iff.mp read
  obtain ⟨port, -, rest⟩ := Outcome.bind_eq_ok_iff.mp later
  obtain rfl := Except.ok.inj rest
  have named := (readUri_eq_ok_iff.mp values).isNamed
  exact ⟨isWritten_ofFields named.kind port, named⟩

/-- What is unwrapped was made of a descriptor. -/
theorem exists_of_unwrapCluster {wrapped : WrappedAddress}
    (read : wrapped.unwrapCluster = .ok address) :
    ∃ bytes, ofDescriptor bytes wrapped.port = .ok address := by
  have own : wrapped.unwrapAs .cluster = .ok (.cluster address) := by
    rw [← wrapped.unwrapOwn_eq .cluster]
    exact Outcome.map_eq_ok_iff.mpr ⟨address, read, rfl⟩
  obtain ⟨digits, bytes, -, made⟩ := WrappedAddress.unwrapAs_eq_ok_iff.mp own
  obtain ⟨found, madeOwn, same⟩ := Outcome.map_eq_ok_iff.mp made
  obtain rfl := SocketAddress.cluster.inj same
  exact ⟨bytes, madeOwn⟩

/-- Another port leaves the descriptor and the values. -/
theorem of_withPort {port : Port} (made : address.withPort port = .ok other) :
    other.descriptor = address.descriptor ∧ other.fields = address.fields := by
  obtain ⟨accepted, -, rest⟩ := Outcome.bind_eq_ok_iff.mp made
  obtain rfl := Except.ok.inj rest
  exact ⟨rfl, rfl⟩

end Routes

namespace Obtained

/-- The descriptor of an address is what its values are written as. -/
theorem isWritten (obtained : Obtained given address) : address.IsWritten := by
  induction obtained with
  | service allowed serviceType serviceInstance domain =>
    exact isWritten_ofFields (show Kind.service.IsNamed by decide) 0
  | serviceRange allowed serviceType least most =>
    exact isWritten_ofFields (show Kind.serviceRange.IsNamed by decide) 0
  | socket reference node => exact isWritten_ofFields (show Kind.socket.IsNamed by decide) 0
  | topologyService => exact isWritten_ofFields (show Kind.service.IsNamed by decide) 0
  | descriptor made => exact (named_of_ofDescriptor made).1
  | uri read => exact (named_of_ofUri read).1
  | unwrapped read =>
    obtain ⟨bytes, made⟩ := exists_of_unwrapCluster read
    exact (named_of_ofDescriptor made).1
  | withPort earlier made inductionHypothesis =>
    obtain ⟨sameDescriptor, sameFields⟩ := of_withPort made
    refine ⟨?_, ?_⟩
    · rw [sameDescriptor, sameFields, inductionHypothesis.descriptor]
    · rw [sameFields]
      exact inductionHypothesis.kind

/-- Scopes go by their names if those of services do. -/
theorem scope_isNamed (obtained : Obtained given address)
    (namedGiven : ∀ scope, given scope → scope.IsNamed) : address.fields.scope.IsNamed := by
  induction obtained with
  | service allowed serviceType serviceInstance domain => exact namedGiven _ allowed
  | serviceRange allowed serviceType least most => exact namedGiven _ allowed
  | socket reference node => exact (by decide : Scope.notSpecified.IsNamed)
  | topologyService => exact (by decide : Scope.notSpecified.IsNamed)
  | descriptor made => exact (named_of_ofDescriptor made).2.scope
  | uri read => exact (named_of_ofUri read).2.scope
  | unwrapped read =>
    obtain ⟨bytes, made⟩ := exists_of_unwrapCluster read
    exact (named_of_ofDescriptor made).2.scope
  | withPort earlier made inductionHypothesis =>
    rw [(of_withPort made).2]
    exact inductionHypothesis

/-- The descriptor of an address is read as its values, with the scope by its name. -/
theorem decode_descriptor (obtained : Obtained given address) :
    Fields.decode address.descriptor =
      .ok { address.fields with scope := .ofValue address.fields.scope.value } := by
  obtain ⟨written, kind⟩ := obtained.isWritten
  rw [written, Fields.decode_encode]
  unfold Fields.named
  rw [kind]

/-- Addresses are the same if their descriptors, their ports and their scopes are. -/
theorem eq_of_descriptor (first : Obtained given address) (second : Obtained given other)
    (sameDescriptor : address.descriptor = other.descriptor) (samePort : address.port = other.port)
    (sameScope : address.fields.scope = other.fields.scope) : address = other := by
  have same := first.decode_descriptor
  rw [sameDescriptor, second.decode_descriptor] at same
  obtain ⟨descriptor, ⟨kind, scope, a, b, c⟩, port⟩ := address
  obtain ⟨otherDescriptor, ⟨otherKind, otherScope, otherA, otherB, otherC⟩, otherPort⟩ := other
  obtain rfl : descriptor = otherDescriptor := sameDescriptor
  obtain rfl : port = otherPort := samePort
  obtain rfl : scope = otherScope := sameScope
  obtain ⟨rfl, -, rfl, rfl, rfl⟩ := Fields.mk.inj (Except.ok.inj same)
  rfl

end Obtained

/-- Addresses and the values that their descriptors are read as. Whatever the scopes that services
are made with, the descriptor of an address is read as its values with the scope by its name,
which are those of the address exactly if that is no bare number of a name; and addresses are
the same exactly if their descriptors, ports and scopes are. If no service is made with a bare
number of a name, every descriptor is read as the values of its address, so that addresses are
the same exactly if their descriptors and ports are. -/
theorem values_are_read (first : Obtained given address) (second : Obtained given other) :
    Fields.decode address.descriptor =
      .ok { address.fields with scope := .ofValue address.fields.scope.value } ∧
    (Fields.decode address.descriptor = .ok address.fields ↔
      address.fields.scope ∉ Scope.misnamed) ∧
    (address = other ↔ address.descriptor = other.descriptor ∧ address.port = other.port ∧
      address.fields.scope = other.fields.scope) ∧
    ((∀ scope, given scope → scope ∉ Scope.misnamed) →
      Fields.decode address.descriptor = .ok address.fields ∧
      (address = other ↔
        address.descriptor = other.descriptor ∧ address.port = other.port)) := by
  have read := first.decode_descriptor
  refine ⟨read, ?_, ?_, ?_⟩
  · rw [read, ← Scope.isNamed_iff]
    constructor
    · intro same
      exact congrArg Fields.scope (Except.ok.inj same)
    · intro named
      rw [named]
  · constructor
    · rintro rfl
      exact ⟨rfl, rfl, rfl⟩
    · rintro ⟨sameDescriptor, samePort, sameScope⟩
      exact first.eq_of_descriptor second sameDescriptor samePort sameScope
  · intro noneBare
    have namedGiven : ∀ scope, given scope → scope.IsNamed := fun scope allowed =>
      Scope.isNamed_iff.mpr (noneBare scope allowed)
    have firstNamed := first.scope_isNamed namedGiven
    have secondNamed := second.scope_isNamed namedGiven
    refine ⟨by rw [read, firstNamed], ?_⟩
    constructor
    · rintro rfl
      exact ⟨rfl, rfl⟩
    · rintro ⟨sameDescriptor, samePort⟩
      have same := second.decode_descriptor
      rw [← sameDescriptor, read, firstNamed, secondNamed] at same
      exact first.eq_of_descriptor second sameDescriptor samePort
        (congrArg Fields.scope (Except.ok.inj same))

/-- A scope without a name is read as it was given, also behind another port; a bare number of a
name is not. -/
theorem values_are_read_unnamed :
    let service := ofService (.other 7) 1 2 3
    let moved : ClusterAddress := { service with port := 5 }
    let bare := ofServiceRange (.other 3) 1 2 9
    (∀ scope : Scope, scope.IsNamed → scope ∉ Scope.misnamed) ∧
      Obtained Scope.IsNamed service ∧ Obtained Scope.IsNamed moved ∧
      Fields.decode moved.descriptor = .ok moved.fields ∧ moved ≠ service ∧
      Obtained (fun _ => True) bare ∧ Fields.decode bare.descriptor ≠ .ok bare.fields ∧
      Fields.decode bare.descriptor = .ok ⟨.serviceRange, .node, 1, 2, 9⟩ := by
  intro service moved bare
  have noneBare : ∀ scope : Scope, scope.IsNamed → scope ∉ Scope.misnamed :=
    fun _ named => Scope.isNamed_iff.mp named
  have made : Obtained Scope.IsNamed service := .service (by decide) 1 2 3
  have movedToo : Obtained Scope.IsNamed moved :=
    .withPort made (show service.withPort 5 = .ok moved from rfl)
  have bareToo : Obtained (fun _ => True) bare := .serviceRange trivial 1 2 9
  obtain ⟨-, -, -, ofNamed⟩ := values_are_read movedToo made
  obtain ⟨read, same⟩ := ofNamed noneBare
  obtain ⟨misread, exactly, -, -⟩ := values_are_read bareToo bareToo
  refine ⟨noneBare, made, movedToo, read, ?_, bareToo, ?_, misread⟩
  · exact fun equal => absurd (same.mp equal).2 (by decide)
  · exact fun equal => absurd (exactly.mp equal) (by decide)

/-- A service that is made with the bare number of a scope that has a name. Its descriptor is read
as other values than its own, and it has descriptor and port in common with another address,
which is what it is unwrapped as. -/
theorem not_values_are_read :
    let bare := ofService (.other 2) 1 1 0
    let named := ofService .cluster 1 1 0
    Obtained (fun _ => True) bare ∧ Obtained (fun _ => True) named ∧
      Fields.decode bare.descriptor ≠ .ok bare.fields ∧
      Fields.decode bare.descriptor = .ok named.fields ∧
      bare.descriptor = named.descriptor ∧ bare.port = named.port ∧ bare ≠ named ∧
      (WrappedAddress.wrap (.cluster bare)).unwrapCluster = .ok named :=
  ⟨.service trivial 1 1 0, .service trivial 1 1 0, by decide, by decide, rfl, rfl, by decide,
    by decide +kernel⟩

end ClusterAddress

end SocketMux
