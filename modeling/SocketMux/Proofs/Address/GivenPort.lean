import SocketMux.Proofs.Cluster.Grammar
import SocketMux.Proofs.Local.Uri

/-!
# Ports that are given beside a URI

A family either reads a text or refuses it, whatever port is given beside it
(`Family.reads_or_refuses`). The text decides everything of the address but the port
(`Family.Reads`): a given port is checked in the place of the one in the URI, which is never out
of range itself. A text that is refused is refused for one cause with all ports
(`Family.Refuses`). So a given port acts as a change of port on the address that the URI denotes
by itself, and hides no flaw of the text (`Family.given_port_replaces`).
-/

namespace SocketMux

open SocketMux.Text

variable {text : String} {replacement : Option Port} {port own : Port}

theorem Port.checked_of_lt (outside : port < -1) : port.checked = .error (.portOutOfRange port) :=
  if_pos outside

namespace SocketAddress

/-- The same address at another port, whichever that is. -/
def atPort : SocketAddress → Port → SocketAddress
  | .local address, port => .local { address with port }
  | .cluster address, port => .cluster { address with port }

@[simp] theorem family_atPort (address : SocketAddress) (port : Port) :
    (address.atPort port).family = address.family := by
  cases address <;> rfl

@[simp] theorem atPort_port (address : SocketAddress) : address.atPort address.port = address := by
  cases address <;> rfl

/-- A change of port checks the port, and nothing else. -/
theorem withPort_eq (address : SocketAddress) (port : Port) :
    address.withPort port = port.checked.map address.atPort := by
  cases address with
  | «local» address =>
    unfold withPort LocalAddress.withPort
    cases port.checked <;> rfl
  | cluster address =>
    unfold withPort ClusterAddress.withPort
    cases port.checked <;> rfl

end SocketAddress

namespace LocalAddress

variable {bytes : List UInt8}

/-- A URI has no negative port of its own. -/
theorem zero_le_of_readUri (read : readUri text = .ok (bytes, own)) : 0 ≤ own := by
  obtain ⟨parts, escaped, shown, splits, _, located, _, _, rfl⟩ := readUri_eq_ok_iff.mp read
  unfold locate at located
  split at located
  · split at located
    · cases located
      exact Int32.le_refl 0
    · cases located
  · cases located
    exact splits.zero_le

theorem isMalformed_of_readUri {err : AddressError} (fails : readUri text = .error err) :
    err.isMalformed = true := by
  unfold readUri at fails
  extract_lets at fails
  repeat' split at fails
  all_goals cases fails
  all_goals rfl

/-- Only the port is left to be checked once the bytes are read. -/
theorem ofUri_eq_checked (read : readUri text = .ok (bytes, own)) :
    ofUri text replacement = (replacement.getD own).checked.map (LocalAddress.mk bytes) := by
  obtain ⟨_, _, _, _, _, _, _, nonempty, _⟩ := readUri_eq_ok_iff.mp read
  have made : ofUri text replacement = ofBytes bytes (replacement.getD own) := by
    unfold ofUri
    rw [read]
    rfl
  rw [made, ofBytes, if_neg nonempty]
  cases (replacement.getD own).checked <;> rfl

end LocalAddress

/-- Only the port is left to be checked once the values are read. -/
theorem ClusterAddress.ofUri_eq_checked {fields : Cluster.Fields}
    (read : readUri text = .ok (fields, own)) :
    ofUri text replacement = (replacement.getD own).checked.map (ofFields fields) := by
  have made : ofUri text replacement =
      ((replacement.getD own).checked >>= fun port => return ofFields fields port) := by
    unfold ofUri
    rw [read]
    rfl
  rw [made]
  cases (replacement.getD own).checked <;> rfl

namespace Family

/-- Whether a family reads a text, as an address with the port of the text. -/
structure Reads (family : Family) (text : String) (address : SocketAddress) : Prop where
  ownFamily : address.family = family
  ownScheme : ∃ scheme, Uri.schemeOf? text.toList = some scheme ∧
    String.ofList scheme ∈ family.schemes
  ownPort : 0 ≤ address.port
  /-- A given port is checked in the place of the one in the text. -/
  made : ∀ replacement, family.ofUri text replacement =
    (replacement.getD address.port).checked.map address.atPort

/-- Whether a family refuses a text, with every port. -/
structure Refuses (family : Family) (text : String) (err : AddressError) : Prop where
  malformed : err.isMalformed = true
  refused : ∀ replacement, family.ofUri text replacement = .error err

variable {family : Family} {address : SocketAddress}

/-- The port has no part in whether a text is read. -/
theorem reads_or_refuses (family : Family) (text : String) :
    (∃ address, family.Reads text address) ∨ ∃ err, family.Refuses text err := by
  cases family with
  | «local» =>
    cases read : LocalAddress.readUri text with
    | error err =>
      refine .inr ⟨err, LocalAddress.isMalformed_of_readUri read, fun replacement => ?_⟩
      exact Outcome.map_eq_error_iff.mpr (Outcome.bind_eq_error_iff.mpr (.inl read))
    | ok values =>
      obtain ⟨bytes, own⟩ := values
      obtain ⟨parts, _, _, splits, isScheme, _⟩ := LocalAddress.readUri_eq_ok_iff.mp read
      refine .inl ⟨.local ⟨bytes, own⟩, rfl, ⟨_, splits.schemeOf?_eq, isScheme⟩,
        LocalAddress.zero_le_of_readUri read, fun replacement => ?_⟩
      unfold ofUri
      dsimp only
      rw [LocalAddress.ofUri_eq_checked read, Outcome.map_map]
      rfl
  | cluster =>
    cases read : ClusterAddress.readUri text with
    | error err =>
      refine .inr ⟨err, ClusterAddress.isMalformed_of_readUri read, fun replacement => ?_⟩
      exact Outcome.map_eq_error_iff.mpr (Outcome.bind_eq_error_iff.mpr (.inl read))
    | ok values =>
      obtain ⟨fields, own⟩ := values
      have denotes := ClusterAddress.readUri_eq_ok_iff.mp read
      obtain ⟨parts, splits, isScheme, _⟩ := ClusterAddress.denotes_iff.mp denotes
      refine .inl ⟨.cluster (.ofFields fields own), rfl, ⟨_, splits.schemeOf?_eq, isScheme⟩,
        denotes.zero_le, fun replacement => ?_⟩
      unfold ofUri
      dsimp only
      rw [ClusterAddress.ofUri_eq_checked read, Outcome.map_map]
      rfl

namespace Reads

variable (reads : family.Reads text address)
include reads

/-- Without a given port the address has the port of the text. -/
theorem ofUri_none : family.ofUri text none = .ok address := by
  have least : -1 ≤ address.port :=
    Int32.le_trans (show (-1 : Port) ≤ 0 by decide) reads.ownPort
  rw [reads.made, Option.getD_none, Port.checked_of_le least]
  exact congrArg Except.ok address.atPort_port

/-- A given port acts as a change of port. -/
theorem ofUri_some (port : Port) : family.ofUri text (some port) = address.withPort port := by
  rw [reads.made, Option.getD_some, address.withPort_eq]

theorem family_of_ofUri {made : SocketAddress}
    (outcome : family.ofUri text replacement = .ok made) : made.family = family := by
  rw [reads.made] at outcome
  obtain ⟨port, _, rfl⟩ := Outcome.map_eq_ok_iff.mp outcome
  rw [address.family_atPort, reads.ownFamily]

end Reads

/-- A text of which an address is made is read. -/
theorem exists_reads {made : SocketAddress} (outcome : family.ofUri text replacement = .ok made) :
    ∃ address, family.Reads text address := by
  rcases family.reads_or_refuses text with reads | ⟨err, refuses⟩
  · exact reads
  · rw [refuses.refused] at outcome
    cases outcome

/-- Whatever fails is malformed: the text, or the port. -/
theorem isMalformed_of_ofUri {err : AddressError}
    (outcome : family.ofUri text replacement = .error err) : err.isMalformed = true := by
  rcases family.reads_or_refuses text with ⟨address, reads⟩ | ⟨cause, refuses⟩
  · rw [reads.made, Outcome.map_eq_error_iff] at outcome
    exact Port.isMalformed_of_checked outcome
  · rw [refuses.refused] at outcome
    obtain rfl := Except.error.inj outcome
    exact refuses.malformed

/-- What a port does that is given beside a text. -/
structure TakesPort (family : Family) (text : String) (port : Port) : Prop where
  /-- It acts as a change of port. -/
  changed : family.ofUri text (some port) =
    (family.ofUri text none >>= fun address => address.withPort port)
  succeeds : (∃ address, family.ofUri text (some port) = .ok address) ↔
    (∃ address, family.ofUri text none = .ok address) ∧ -1 ≤ port
  /-- Nothing but the port of the address differs. -/
  replaced : ∀ address given, family.ofUri text none = .ok address →
    family.ofUri text (some port) = .ok given → given = address.atPort port
  /-- A flaw of the text is reported before the port is looked at. -/
  unread : ∀ err, family.ofUri text none = .error err → family.ofUri text (some port) = .error err
  outOfRange : ∀ address, family.ofUri text none = .ok address → port < -1 →
    family.ofUri text (some port) = .error (.portOutOfRange port)

theorem Reads.takesPort (reads : family.Reads text address) (port : Port) :
    family.TakesPort text port := by
  have alone := reads.ofUri_none
  have given := reads.ofUri_some port
  rw [address.withPort_eq] at given
  refine ⟨?_, ?_, ?_, ?_, ?_⟩
  · rw [reads.ofUri_some, alone]
    rfl
  · rw [given, alone]
    constructor
    · rintro ⟨made, changed⟩
      obtain ⟨accepted, checked, _⟩ := Outcome.map_eq_ok_iff.mp changed
      exact ⟨⟨address, rfl⟩, (Port.checked_eq_ok_iff.mp checked).1⟩
    · rintro ⟨_, least⟩
      exact ⟨_, Outcome.map_eq_ok_iff.mpr ⟨port, Port.checked_of_le least, rfl⟩⟩
  · intro found made foundAlone madeGiven
    rw [alone] at foundAlone
    obtain rfl := Except.ok.inj foundAlone
    rw [given] at madeGiven
    obtain ⟨accepted, checked, rfl⟩ := Outcome.map_eq_ok_iff.mp madeGiven
    rw [(Port.checked_eq_ok_iff.mp checked).2]
  · intro err fails
    rw [alone] at fails
    cases fails
  · intro _ _ outside
    rw [given]
    exact Outcome.map_eq_error_iff.mpr (Port.checked_of_lt outside)

theorem Refuses.takesPort {err : AddressError} (refuses : family.Refuses text err) (port : Port) :
    family.TakesPort text port := by
  have alone := refuses.refused none
  have given := refuses.refused (some port)
  refine ⟨?_, ?_, ?_, ?_, ?_⟩
  · rw [given, alone]
    rfl
  · rw [given, alone]
    constructor
    · rintro ⟨_, made⟩
      cases made
    · rintro ⟨⟨_, made⟩, _⟩
      cases made
  · intro _ _ made
    rw [alone] at made
    cases made
  · intro cause fails
    rw [given, ← fails, alone]
  · intro _ made
    rw [alone] at made
    cases made

/-- Ports that are given beside a URI. With a given port a text is read if and only if it is read
without one and the port is not below -1; the address then differs in its port alone. A text that
is refused without a port is refused with it for the same cause, and for the port only a text is
refused that is read without it. -/
theorem given_port_replaces (family : Family) (text : String) (port : Port) :
    family.TakesPort text port := by
  rcases family.reads_or_refuses text with ⟨address, reads⟩ | ⟨err, refuses⟩
  · exact reads.takesPort port
  · exact refuses.takesPort port

/-- A port of -1 in the place of one that the URI shows; one below it beside a URI that is read, and
beside one with a flaw behind the port. -/
theorem given_port_replaces_flawed :
    Family.cluster.ofUri "tipc://node-service.1.2:80" (some (-1)) =
      .ok (.cluster (.ofFields ⟨.service, .node, 1, 2, 0⟩ (-1))) ∧
    Family.local.ofUri "http+unix://%2fa:80" (some (-2)) = .error (.portOutOfRange (-2)) ∧
    Family.local.ofUri "http+unix://%2:80" (some (-2)) =
      .error (.malformedUri "un" "http+unix://%2:80" .invalidEscape) := by
  have service : Family.cluster.ofUri "tipc://node-service.1.2:80" none =
      .ok (.cluster (.ofFields ⟨.service, .node, 1, 2, 0⟩ 80)) := by
    decide +kernel
  have path : Family.local.ofUri "http+unix://%2fa:80" none = .ok (.local ⟨[47, 97], 80⟩) := by
    decide +kernel
  have flawed : Family.local.ofUri "http+unix://%2:80" none =
      .error (.malformedUri "un" "http+unix://%2:80" .invalidEscape) := by
    decide +kernel
  have accepted := given_port_replaces .cluster "tipc://node-service.1.2:80" (-1)
  obtain ⟨given, made⟩ := accepted.succeeds.mpr ⟨⟨_, service⟩, by decide⟩
  refine ⟨?_, ?_, ?_⟩
  · rw [made, accepted.replaced _ _ service made]
    rfl
  · exact (given_port_replaces .local _ _).outOfRange _ path (by decide)
  · exact (given_port_replaces .local _ _).unread _ flawed

end Family

end SocketMux
