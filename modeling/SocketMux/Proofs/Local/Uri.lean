import Mathlib.Data.List.Basic
import SocketMux.Proofs.Address.Family
import SocketMux.Proofs.Text.Percent

/-!
# URIs of local addresses that are read back

Two schemes put all bytes of an address into the host, where nothing is left that could be a
separator (`LocalAddress.isSeparator_of_mem_host`); the plain scheme puts an absolute path
behind an empty authority. Either text is split into what it was written from, so reading gives
the bytes back. A URI of the plain scheme is only read if its path is absolute, so what is read
from it has such a URI again.
-/

namespace SocketMux.LocalAddress

open SocketMux.Text

variable {bytes : List UInt8} {port : Port} {text : String} {address : LocalAddress}
  {replacement : Option Port}

section Reading

/-- A URI is read if it holds escapes of some bytes where its scheme puts them. -/
theorem readUri_eq_ok_iff : readUri text = .ok (bytes, port) ↔
    ∃ parts escaped shown, Uri.Splits text.toList parts ∧ String.ofList parts.scheme ∈ schemes ∧
      locate parts = .ok (escaped, shown) ∧ Percent.decode escaped = some bytes ∧ bytes ≠ [] ∧
      shown.getD 0 = port := by
  unfold readUri
  dsimp only
  constructor
  · intro read
    split at read
    · cases read
    · next parts split =>
      split at read
      · next isScheme =>
        split at read
        · cases read
        · next escaped shown located =>
          split at read
          · cases read
          · cases read
          · next bytes nonempty decoded =>
            cases read
            refine ⟨parts, escaped, shown, Uri.split_eq_ok_iff.mp split, isScheme, located, decoded,
              ?_, rfl⟩
            rintro rfl
            exact nonempty rfl
      · cases read
  · rintro ⟨parts, escaped, shown, splits, isScheme, located, decoded, nonempty, rfl⟩
    rw [Uri.split_eq_ok_iff.mpr splits]
    dsimp only
    rw [if_pos isScheme, located]
    dsimp only
    rw [decoded]
    cases bytes with
    | nil => exact absurd rfl nonempty
    | cons byte rest => rfl

/-- A given port replaces the one of the URI. -/
theorem ofUri_of_readUri (read : readUri text = .ok (bytes, port)) (nonempty : bytes ≠ [])
    (least : -1 ≤ replacement.getD port) :
    ofUri text replacement = .ok ⟨bytes, replacement.getD port⟩ :=
  Outcome.bind_eq_ok_iff.mpr
    ⟨(bytes, port), read, ofBytes_eq_ok_iff.mpr ⟨nonempty, least, rfl⟩⟩

end Reading

section Writing

/-- Nothing that is written into a host separates. -/
theorem isSeparator_of_mem_host {char : Char} (member : char ∈ Percent.encode [] bytes) :
    Uri.isSeparator char = false := by
  have table : "@:/?#".toList.all (fun separator =>
      separator != '%' && !Percent.isUnreserved (UInt8.ofNat separator.toNat)) = true := by
    decide
  refine Uri.isSeparator_of_ne ?_
  rintro separator listed rfl
  have separates := List.all_eq_true.mp table _ listed
  simp only [Bool.and_eq_true, bne_iff_ne, Bool.not_eq_true'] at separates
  exact Percent.not_mem_encode separates.1 separates.2 List.not_mem_nil member

/-- Nothing that is written into a path ends it. -/
theorem endsText_of_mem_path {char : Char} (member : char ∈ Percent.encode [slash] bytes) :
    Uri.endsText char = false := by
  have noQuery : char ≠ '?' := by
    rintro rfl
    exact Percent.not_mem_encode (by decide) (by decide) (by decide) member
  have noFragment : char ≠ '#' := by
    rintro rfl
    exact Percent.not_mem_encode (by decide) (by decide) (by decide) member
  simp [Uri.endsText, noQuery, noFragment]

theorem isKept_nil : Percent.IsKept [] := ⟨nofun, List.not_mem_nil⟩

theorem isKept_slash : Percent.IsKept [slash] where
  ascii byte member := by
    rw [List.mem_singleton.mp member]
    decide
  noPercent := by decide

/-- The schemes that put all bytes into the host. -/
def hostSchemes : List String := ["http+unix", "https+unix"]

/-- A URI with all bytes in the host is read as these bytes and the port that it shows. -/
theorem exists_hostUri (nonempty : address.bytes ≠ []) {scheme : String}
    (member : scheme ∈ hostSchemes) : ∃ text, address.uri scheme = .ok text ∧
      readUri text = .ok (address.bytes, max address.port 0) := by
  have table : ∀ scheme ∈ hostSchemes, scheme ≠ "unix" ∧ scheme ∈ schemes ∧
      scheme.toList ≠ [] ∧ scheme.toList.all Uri.isSchemeChar = true := by
    decide
  obtain ⟨other, isScheme, named, plain⟩ := table scheme member
  have written : address.uri scheme = .ok (String.ofList (scheme.toList ++ "://".toList ++
      Percent.encode [] address.bytes ++ Uri.portText address.port ++ ['/'])) := by
    unfold uri
    rw [if_neg other, if_pos isScheme]
    rfl
  refine ⟨_, written, ?_⟩
  have whole : ∀ char ∈ Percent.encode [] address.bytes, Uri.isSeparator char = false :=
    fun _ => isSeparator_of_mem_host
  have stops : ∀ char ∈ ['/'].head?, Uri.endsAuthority char = true := by
    rintro char ⟨⟩
    rfl
  have split := Uri.split_shown named plain whole address.port ['/'] stops
  rw [readUri_eq_ok_iff, String.toList_ofList]
  refine ⟨_, _, _, Uri.split_eq_ok_iff.mp split, ?_, ?_, Percent.decode_encode isKept_nil _,
    nonempty, Uri.getD_shownPort address.port⟩
  · rw [String.ofList_toList]
    exact isScheme
  · unfold locate
    rw [String.ofList_toList, if_neg other]

/-- A URI of the plain scheme is written for absolute paths. -/
theorem uri_unix_eq_ok_iff : address.uri "unix" = .ok text ↔
    address.bytes.head? = some slash ∧
      text = String.ofList ("unix://".toList ++ Percent.encode [slash] address.bytes) := by
  unfold uri
  rw [if_pos rfl]
  constructor
  · intro written
    split at written
    · cases written
    · next path found =>
      have same : address.bytes = path := by
        unfold file at found
        split at found
        · cases found
        · exact Except.ok.inj found
      rw [← same] at written
      split at written
      · next absolute => exact ⟨absolute, (Except.ok.inj written).symm⟩
      · cases written
  · rintro ⟨absolute, rfl⟩
    have found : address.file = .ok address.bytes := by
      unfold file isAbstract
      rw [absolute]
      rfl
    rw [found]
    exact if_pos absolute

/-- A path behind an empty authority is read as its bytes. -/
theorem readUri_unix (absolute : bytes.head? = some slash) :
    readUri (String.ofList ("unix://".toList ++ Percent.encode [slash] bytes)) =
      .ok (bytes, 0) := by
  obtain ⟨rest, rfl⟩ : ∃ rest, bytes = slash :: rest := List.head?_eq_some_iff.mp absolute
  have whole : (Percent.encode [slash] (slash :: rest)).takeWhile (fun char => !Uri.endsText char) =
      Percent.encode [slash] (slash :: rest) := by
    rw [List.takeWhile_eq_self_iff]
    intro char member
    simp [endsText_of_mem_path member]
  have starts : ∀ char ∈ (Percent.encode [slash] (slash :: rest)).head?,
      Uri.endsAuthority char = true := by
    rintro char ⟨⟩
    decide
  have split := Uri.split_shown (show "unix".toList ≠ [] by decide) (by decide)
    (show ∀ char ∈ [], Uri.isSeparator char = false from nofun) 0 _ starts
  rw [whole] at split
  rw [readUri_eq_ok_iff, String.toList_ofList]
  have isScheme : String.ofList "unix".toList ∈ schemes := by decide
  exact ⟨_, _, _, Uri.split_eq_ok_iff.mp split, isScheme, rfl,
    Percent.decode_encode isKept_slash _, List.cons_ne_nil _ _, rfl⟩

end Writing

section Plain

/-- The scheme of a text that starts with it is what stands before the first colon. -/
theorem scheme_of_starts {uri : List Char} {parts : Uri.Parts} (splits : Uri.Splits uri parts)
    (starts : "unix:".toList <+: uri) : parts.scheme = "unix".toList := by
  obtain ⟨rest, same⟩ := starts
  cases splits with
  | @intro scheme authority beyond host port named plain shows unbroken stops =>
    have noColon : ':' ∉ scheme := Uri.not_mem_of_plain plain rfl
    have whole := Cut.first?_append noColon [] ("//".toList ++ (authority ++ beyond))
    have known := Cut.first?_append (show ':' ∉ "unix".toList by decide) [] rest
    have equal : "unix".toList ++ ':' :: ([] ++ rest) =
        scheme ++ ':' :: ([] ++ ("//".toList ++ (authority ++ beyond))) := same
    rw [equal, whole] at known
    exact (Prod.mk.inj (Option.some.inj known)).1

/-- Escapes behind a slash denote a path from the root. -/
theorem head?_of_decode {escaped : List Char}
    (decoded : Percent.decode ('/' :: escaped) = some bytes) : bytes.head? = some slash := by
  have kept : Percent.decode ('/' :: escaped) =
      (Percent.decodeBytes (Utf8.encode escaped)).map (slash :: ·) :=
    Percent.decodeBytes_kept (show slash.toNat < 0x80 by decide) (by decide)
  rw [kept] at decoded
  obtain ⟨rest, _, rfl⟩ := Option.map_eq_some_iff.mp decoded
  rfl

/-- What is read from the plain scheme is an absolute path without a port. -/
theorem absolute_of_readUri (read : readUri text = .ok (bytes, port))
    (starts : "unix:".toList <+: text.toList) : bytes.head? = some slash ∧ port = 0 := by
  obtain ⟨parts, escaped, shown, splits, _, located, decoded, nonempty, rfl⟩ :=
    readUri_eq_ok_iff.mp read
  unfold locate at located
  rw [scheme_of_starts splits starts, if_pos (by decide)] at located
  split at located
  · cases located
    have given : parts.path ≠ [] := by
      intro empty
      rw [empty] at decoded
      cases decoded
      exact nonempty rfl
    obtain ⟨others, path⟩ := splits.exists_path given
    rw [path] at decoded
    exact ⟨head?_of_decode decoded, rfl⟩
  · cases located

end Plain

/-- Local addresses and their URIs. The bytes of every address come back from the URI with the
bytes in the host, with the port, or zero for one that is not given. The plain scheme has URIs
for absolute paths alone; the bytes come back without the port, and with it if the reader is
given the port. The address of a URI of the plain scheme is never abstract and has such a URI
again, from which it is read. -/
theorem bytes_read_back :
    (∀ address : LocalAddress, address.bytes ≠ [] → -1 ≤ address.port →
      ofBytes address.bytes address.port = .ok address ∧
        (∀ scheme ∈ hostSchemes, ∃ text, address.uri scheme = .ok text ∧
          ofUri text none = .ok { address with port := max address.port 0 }) ∧
        ((∃ text, address.uri "unix" = .ok text) ↔ address.bytes.head? = some slash) ∧
        ∀ text, address.uri "unix" = .ok text → ofUri text none = .ok { address with port := 0 } ∧
          ofUri text (some address.port) = .ok address) ∧
    ∀ (text : String) (replacement : Option Port) (address : LocalAddress),
      "unix:".toList <+: text.toList → ofUri text replacement = .ok address →
      address.isAbstract = false ∧
        ∃ shown, address.uri "unix" = .ok shown ∧ ofUri shown replacement = .ok address := by
  constructor
  · intro address nonempty least
    refine ⟨ofBytes_eq_ok_iff.mpr ⟨nonempty, least, rfl⟩, ?_, ?_, ?_⟩
    · intro scheme member
      obtain ⟨text, written, read⟩ := exists_hostUri nonempty member
      have least : -1 ≤ max address.port 0 :=
        Int32.le_trans (show (-1 : Port) ≤ 0 by decide) (Port.zero_le_max address.port)
      exact ⟨text, written, ofUri_of_readUri read nonempty least⟩
    · constructor
      · rintro ⟨text, written⟩
        exact (uri_unix_eq_ok_iff.mp written).1
      · intro absolute
        exact ⟨_, uri_unix_eq_ok_iff.mpr ⟨absolute, rfl⟩⟩
    · intro text written
      obtain ⟨absolute, rfl⟩ := uri_unix_eq_ok_iff.mp written
      have read := readUri_unix absolute
      exact ⟨ofUri_of_readUri read nonempty (by decide), ofUri_of_readUri read nonempty least⟩
  · intro text replacement address starts made
    obtain ⟨⟨bytes, own⟩, read, later⟩ := Outcome.bind_eq_ok_iff.mp made
    obtain ⟨nonempty, least, rfl⟩ := ofBytes_eq_ok_iff.mp later
    obtain ⟨absolute, rfl⟩ := absolute_of_readUri read starts
    refine ⟨?_, _, uri_unix_eq_ok_iff.mpr ⟨absolute, rfl⟩,
      ofUri_of_readUri (readUri_unix absolute) nonempty least⟩
    unfold isAbstract
    rw [absolute]
    rfl

/-- A path with a zero, a byte beyond ASCII and everything that separates, without a port; and a
URI with an escaped slash and a query. -/
theorem bytes_read_back_separators :
    (∃ text, (⟨[47, 0, 58, 64, 63, 35, 37, 255], -1⟩ : LocalAddress).uri "http+unix" = .ok text ∧
      ofUri text none = .ok ⟨[47, 0, 58, 64, 63, 35, 37, 255], max (-1) 0⟩) ∧
    (∃ text, (⟨[47, 0, 58, 64, 63, 35, 37, 255], -1⟩ : LocalAddress).uri "unix" = .ok text ∧
      ofUri text (some (-1)) = .ok ⟨[47, 0, 58, 64, 63, 35, 37, 255], -1⟩) ∧
    ∃ shown, (⟨[47, 47, 97], 0⟩ : LocalAddress).uri "unix" = .ok shown ∧
      ofUri shown none = .ok ⟨[47, 47, 97], 0⟩ := by
  obtain ⟨_, host, plain, given⟩ := bytes_read_back.1 ⟨[47, 0, 58, 64, 63, 35, 37, 255], -1⟩
    (List.cons_ne_nil _ _) (by decide)
  obtain ⟨text, written⟩ := plain.mpr rfl
  have read : ofUri "unix:///%2fa?b" none = .ok ⟨[47, 47, 97], 0⟩ := by decide +kernel
  exact ⟨host "http+unix" (by decide), ⟨text, written, (given text written).2⟩,
    (bytes_read_back.2 _ none _ (by decide) read).2⟩

end SocketMux.LocalAddress
