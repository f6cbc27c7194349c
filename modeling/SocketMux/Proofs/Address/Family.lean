import SocketMux.Address.Family
import SocketMux.Proofs.Address.Uri
import SocketMux.Proofs.Cluster.Descriptor

/-!
# Descriptors of addresses

A family makes an address of each byte string that it admits and of each port from -1 on
(`Family.ofDescriptor_eq_ok`, `Family.exists_ofDescriptor`). What it refuses is malformed
(`Family.isMalformed_of_ofDescriptor`).
-/

namespace SocketMux

variable {bytes : List UInt8} {port : Port}

/-- A port is refused as malformed. -/
theorem Port.isMalformed_of_checked {err : AddressError} (fails : port.checked = .error err) :
    err.isMalformed = true := by
  unfold checked at fails
  split at fails
  · cases fails
    rfl
  · cases fails

namespace LocalAddress

theorem ofBytes_eq_ok_iff {address : LocalAddress} :
    ofBytes bytes port = .ok address ↔ bytes ≠ [] ∧ -1 ≤ port ∧ address = ⟨bytes, port⟩ := by
  unfold ofBytes
  constructor
  · intro made
    split at made
    · cases made
    · next nonempty =>
      obtain ⟨accepted, checked, rest⟩ := Outcome.bind_eq_ok_iff.mp made
      obtain ⟨least, rfl⟩ := Port.checked_eq_ok_iff.mp checked
      exact ⟨nonempty, least, (Except.ok.inj rest).symm⟩
  · rintro ⟨nonempty, least, rfl⟩
    rw [if_neg nonempty]
    exact Outcome.bind_eq_ok_iff.mpr ⟨port, Port.checked_of_le least, rfl⟩

theorem isMalformed_of_ofBytes {err : AddressError} (fails : ofBytes bytes port = .error err) :
    err.isMalformed = true := by
  unfold ofBytes at fails
  split at fails
  · cases fails
    rfl
  · rcases Outcome.bind_eq_error_iff.mp fails with refused | ⟨accepted, _, rest⟩
    · exact Port.isMalformed_of_checked refused
    · cases rest

end LocalAddress

namespace Cluster.Fields

theorem isMalformed_of_decode {err : AddressError} (fails : decode bytes = .error err) :
    err.isMalformed = true := by
  unfold decode at fails
  split at fails
  · cases fails
    rfl
  · dsimp only at fails
    split at fails
    · cases fails
      rfl
    · split at fails
      · cases fails
      · cases fails
        rfl

end Cluster.Fields

namespace ClusterAddress

open Cluster

theorem ofDescriptor_eq_ok_iff {address : ClusterAddress} : ofDescriptor bytes port = .ok address ↔
    ∃ fields, Fields.decode bytes = .ok fields ∧ -1 ≤ port ∧ address = ⟨bytes, fields, port⟩ := by
  unfold ofDescriptor
  rw [Outcome.bind_eq_ok_iff]
  refine exists_congr fun fields => and_congr_right fun _ => ?_
  rw [Outcome.bind_eq_ok_iff]
  constructor
  · rintro ⟨accepted, checked, rest⟩
    obtain ⟨least, rfl⟩ := Port.checked_eq_ok_iff.mp checked
    exact ⟨least, (Except.ok.inj rest).symm⟩
  · rintro ⟨least, rfl⟩
    exact ⟨port, Port.checked_of_le least, rfl⟩

/-- The address of a descriptor that was read. -/
theorem ofDescriptor_of_decode {fields : Fields} (decoded : Fields.decode bytes = .ok fields)
    (least : -1 ≤ port) : ofDescriptor bytes port = .ok ⟨bytes, fields, port⟩ :=
  ofDescriptor_eq_ok_iff.mpr ⟨fields, decoded, least, rfl⟩

theorem isMalformed_of_ofDescriptor {err : AddressError}
    (fails : ofDescriptor bytes port = .error err) : err.isMalformed = true := by
  rcases Outcome.bind_eq_error_iff.mp fails with undecoded | ⟨fields, _, later⟩
  · exact Fields.isMalformed_of_decode undecoded
  · rcases Outcome.bind_eq_error_iff.mp later with refused | ⟨accepted, _, rest⟩
    · exact Port.isMalformed_of_checked refused
    · cases rest

end ClusterAddress

namespace Family

/-- The byte strings that are descriptors of a family. -/
def Admits : Family → List UInt8 → Prop
  | .local, bytes => bytes ≠ []
  | .cluster, bytes => bytes.length = Cluster.descriptorLength

variable {family : Family}

/-- What is made of a descriptor. -/
theorem ofDescriptor_eq_ok {address : SocketAddress}
    (made : family.ofDescriptor bytes port = .ok address) : family.Admits bytes ∧ -1 ≤ port ∧
      address.family = family ∧ address.descriptor = bytes ∧ address.port = port := by
  cases family with
  | «local» =>
    obtain ⟨address, own, rfl⟩ := Outcome.map_eq_ok_iff.mp made
    obtain ⟨nonempty, least, rfl⟩ := LocalAddress.ofBytes_eq_ok_iff.mp own
    exact ⟨nonempty, least, rfl, rfl, rfl⟩
  | cluster =>
    obtain ⟨address, own, rfl⟩ := Outcome.map_eq_ok_iff.mp made
    obtain ⟨fields, decoded, least, rfl⟩ := ClusterAddress.ofDescriptor_eq_ok_iff.mp own
    exact ⟨Cluster.Fields.length_of_decode decoded, least, rfl, rfl, rfl⟩

/-- Every descriptor makes an address. -/
theorem exists_ofDescriptor (admits : family.Admits bytes) (least : -1 ≤ port) :
    ∃ address, family.ofDescriptor bytes port = .ok address := by
  cases family with
  | «local» =>
    exact ⟨_, Outcome.map_eq_ok_iff.mpr
      ⟨_, LocalAddress.ofBytes_eq_ok_iff.mpr ⟨admits, least, rfl⟩, rfl⟩⟩
  | cluster =>
    obtain ⟨fields, decoded, _⟩ := Cluster.Fields.decode_of_length admits
    exact ⟨_, Outcome.map_eq_ok_iff.mpr
      ⟨_, ClusterAddress.ofDescriptor_of_decode decoded least, rfl⟩⟩

/-- What is no descriptor is refused as malformed. -/
theorem isMalformed_of_ofDescriptor {err : AddressError}
    (fails : family.ofDescriptor bytes port = .error err) : err.isMalformed = true := by
  cases family with
  | «local» =>
    exact LocalAddress.isMalformed_of_ofBytes (Outcome.map_eq_error_iff.mp fails)
  | cluster =>
    exact ClusterAddress.isMalformed_of_ofDescriptor (Outcome.map_eq_error_iff.mp fails)

end Family

end SocketMux
