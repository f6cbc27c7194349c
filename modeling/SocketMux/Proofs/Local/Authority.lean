import SocketMux.Proofs.Local.Uri

/-!
# Authorities behind the plain scheme

The plain scheme has no use for an authority, but only the host of one is refused. A user part
and a port are dropped before the host is looked at, so a text that has nothing else in the place
of the authority is accepted, and the address does not show that it was there
(`LocalAddress.accepted_of_hostless`). A text without an authority is accepted if and only if it
has a path and two digits follow every percent sign in it.
-/

namespace SocketMux.LocalAddress

open SocketMux.Text

variable {text : String} {rest : List Char} {bytes : List UInt8} {replacement : Option Port}
  {address : LocalAddress}

/-- A text of the plain scheme starts with it. -/
theorem exists_rest (isPlain : Uri.schemeOf? text.toList = some "unix".toList) :
    ∃ rest, text.toList = "unix".toList ++ ("://".toList ++ rest) := by
  obtain ⟨⟨scheme, rest⟩, cut, rfl⟩ := Option.map_eq_some_iff.mp isPlain
  exact ⟨rest, Cut.first?_eq_some cut⟩

/-- A text of the plain scheme is read if no host is left of its authority; its path denotes the
bytes, and it has no port. -/
theorem readUri_plain_eq_ok_iff (starts : text.toList = "unix".toList ++ ("://".toList ++ rest))
    {port : Port} : readUri text = .ok (bytes, port) ↔
      (∃ shown, Uri.Authority (Uri.authorityOf rest) [] shown) ∧
        Percent.Denotes (Uri.pathOf rest) bytes ∧ Uri.pathOf rest ≠ [] ∧ port = 0 := by
  have split := @Uri.splits_append_iff "unix".toList (by decide) (by decide) rest
  rw [readUri_eq_ok_iff, starts]
  constructor
  · rintro ⟨parts, escaped, own, splits, isScheme, located, decoded, nonempty, rfl⟩
    obtain ⟨host, shown, shows, rfl⟩ := split.mp splits
    unfold locate at located
    rw [if_pos String.ofList_toList] at located
    split at located
    · next noHost =>
      cases located
      dsimp only at noHost
      rw [noHost] at shows
      have denotes := Percent.decode_eq_some_iff.mp decoded
      exact ⟨⟨shown, shows⟩, denotes, mt denotes.eq_nil_iff.mpr nonempty, rfl⟩
    · cases located
  · rintro ⟨⟨shown, shows⟩, denotes, given, rfl⟩
    have isScheme : String.ofList "unix".toList ∈ schemes := by decide
    exact ⟨_, Uri.pathOf rest, none, split.mpr ⟨[], shown, shows, rfl⟩, isScheme, rfl,
      Percent.decode_eq_some_iff.mpr denotes, mt denotes.eq_nil_iff.mp given, rfl⟩

/-- The address of a text of the plain scheme has the bytes of the path and the given port. -/
theorem ofUri_plain_eq_ok_iff (starts : text.toList = "unix".toList ++ ("://".toList ++ rest))
    (least : ∀ port ∈ replacement, -1 ≤ port) : ofUri text replacement = .ok address ↔
      (∃ shown, Uri.Authority (Uri.authorityOf rest) [] shown) ∧
        Percent.Denotes (Uri.pathOf rest) address.bytes ∧ Uri.pathOf rest ≠ [] ∧
        address.port = replacement.getD 0 := by
  have accepted : -1 ≤ replacement.getD 0 := by
    cases replacement with
    | none => decide
    | some port => exact least port rfl
  constructor
  · intro made
    obtain ⟨⟨bytes, own⟩, read, later⟩ := Outcome.bind_eq_ok_iff.mp made
    obtain ⟨nonempty, _, rfl⟩ := ofBytes_eq_ok_iff.mp later
    obtain ⟨noHost, denotes, given, rfl⟩ := (readUri_plain_eq_ok_iff starts).mp read
    exact ⟨noHost, denotes, given, rfl⟩
  · rintro ⟨noHost, denotes, given, same⟩
    have read := (readUri_plain_eq_ok_iff starts).mpr ⟨noHost, denotes, given, rfl⟩
    have made := ofUri_of_readUri read (mt denotes.eq_nil_iff.mp given) accepted
    rw [made, ← same]

/-- A path behind no authority. -/
theorem parts_of_path (rest : List Char) :
    Uri.authorityOf (Uri.pathOf rest) = [] ∧ Uri.pathOf (Uri.pathOf rest) = Uri.pathOf rest := by
  obtain ⟨authority, beyond, rfl, unbroken, stops⟩ := Uri.exists_authority rest
  rw [(Uri.authorityOf_append unbroken stops).2]
  have first : ∀ char ∈ (beyond.takeWhile fun char => !Uri.endsText char).head?,
      Uri.endsAuthority char = true := by
    intro char found
    refine stops char ?_
    cases beyond with
    | nil => cases found
    | cons first others =>
      rw [List.takeWhile_cons] at found
      split at found
      · exact found
      · cases found
  have alone := Uri.authorityOf_append (List.forall_mem_nil _) first
  rw [List.nil_append] at alone
  exact ⟨alone.1, alone.2.trans List.takeWhile_idem⟩

/-- A text of the plain scheme is accepted if and only if a user part and a port are all that
stands in the place of the authority, there is a path, and two digits follow every percent sign in
it. Nothing of such an authority is left: the address is that of the path alone, with the given
port. -/
theorem accepted_of_hostless (isPlain : Uri.schemeOf? text.toList = some "unix".toList)
    (least : ∀ port ∈ replacement, -1 ≤ port) :
    ∃ rest, text.toList = "unix".toList ++ ("://".toList ++ rest) ∧
      ((∃ address, ofUri text replacement = .ok address) ↔
        (∃ shown, Uri.Authority (Uri.authorityOf rest) [] shown) ∧ Uri.pathOf rest ≠ [] ∧
          Percent.IsWellFormed (Uri.pathOf rest)) ∧
      (Uri.authorityOf rest = [] → ((∃ address, ofUri text replacement = .ok address) ↔
        Uri.pathOf rest ≠ [] ∧ Percent.IsWellFormed (Uri.pathOf rest))) ∧
      ∀ address, ofUri text replacement = .ok address →
        address.port = replacement.getD 0 ∧
          ofUri (String.ofList ("unix".toList ++ ("://".toList ++ Uri.pathOf rest))) replacement =
            .ok address := by
  obtain ⟨rest, starts⟩ := exists_rest isPlain
  have acceptedIff : (∃ address, ofUri text replacement = .ok address) ↔
      (∃ shown, Uri.Authority (Uri.authorityOf rest) [] shown) ∧ Uri.pathOf rest ≠ [] ∧
        Percent.IsWellFormed (Uri.pathOf rest) := by
    rw [← Percent.exists_denotes_iff]
    constructor
    · rintro ⟨address, made⟩
      obtain ⟨noHost, denotes, given, _⟩ := (ofUri_plain_eq_ok_iff starts least).mp made
      exact ⟨noHost, given, address.bytes, denotes⟩
    · rintro ⟨noHost, given, bytes, denotes⟩
      exact ⟨⟨bytes, replacement.getD 0⟩,
        (ofUri_plain_eq_ok_iff starts least).mpr ⟨noHost, denotes, given, rfl⟩⟩
  have noAuthority : ∃ shown, Uri.Authority [] [] shown :=
    ⟨none, .intro .absent List.not_mem_nil .absent fun _ => List.not_mem_nil⟩
  refine ⟨rest, starts, acceptedIff, ?_, ?_⟩
  · intro empty
    rw [acceptedIff, empty, and_iff_right noAuthority]
  · intro address made
    obtain ⟨_, denotes, given, same⟩ := (ofUri_plain_eq_ok_iff starts least).mp made
    obtain ⟨none, path⟩ := parts_of_path rest
    refine ⟨same, (ofUri_plain_eq_ok_iff (String.toList_ofList) least).mpr ?_⟩
    rw [none, path]
    exact ⟨noAuthority, denotes, given, same⟩

/-- A user part, a port and a query around a path with an escape. -/
theorem accepted_of_hostless_dropped :
    ofUri "unix:///run/%2fx" (some (-1)) = .ok ⟨[47, 114, 117, 110, 47, 47, 120], -1⟩ := by
  have isPlain : Uri.schemeOf? "unix://me:1@:5/run/%2fx?q".toList = some "unix".toList := by
    decide +kernel
  have least : ∀ port ∈ some (-1 : Port), -1 ≤ port := by simp
  obtain ⟨rest, starts, _, _, keeps⟩ := accepted_of_hostless isPlain least
  have whole : "unix://".toList ++ "me:1@:5/run/%2fx?q".toList = "unix://".toList ++ rest := starts
  have same := List.append_cancel_left whole
  obtain ⟨_, made⟩ := keeps ⟨[47, 114, 117, 110, 47, 47, 120], -1⟩ (by decide +kernel)
  rw [← same] at made
  exact made

/-- A user part or a port in the place of the authority does not lead to a refusal. -/
theorem not_refused_with_authority :
    ¬((∃ address, ofUri "unix://user@/run/x.sock" none = .ok address) ↔
      Uri.authorityOf "user@/run/x.sock".toList = [] ∧ Uri.pathOf "user@/run/x.sock".toList ≠ [] ∧
        Percent.IsWellFormed (Uri.pathOf "user@/run/x.sock".toList)) ∧
    ¬((∃ address, ofUri "unix://:5/run/x.sock" (some 7) = .ok address) ↔
      Uri.authorityOf ":5/run/x.sock".toList = [] ∧ Uri.pathOf ":5/run/x.sock".toList ≠ [] ∧
        Percent.IsWellFormed (Uri.pathOf ":5/run/x.sock".toList)) := by
  constructor
  · intro claimed
    have made : ofUri "unix://user@/run/x.sock" none =
        .ok ⟨[47, 114, 117, 110, 47, 120, 46, 115, 111, 99, 107], 0⟩ := by
      decide +kernel
    exact absurd (claimed.mp ⟨_, made⟩).1 (by decide)
  · intro claimed
    have made : ofUri "unix://:5/run/x.sock" (some 7) =
        .ok ⟨[47, 114, 117, 110, 47, 120, 46, 115, 111, 99, 107], 7⟩ := by
      decide +kernel
    exact absurd (claimed.mp ⟨_, made⟩).1 (by decide)

end SocketMux.LocalAddress
