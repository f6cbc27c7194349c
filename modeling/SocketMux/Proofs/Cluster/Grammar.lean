import SocketMux.Proofs.Address.Family
import SocketMux.Proofs.Cluster.Host

/-!
# The grammar of cluster URIs

A cluster URI is a scheme of the family, a user part, a host that denotes five values, a port
and a rest that is not looked at (`ClusterAddress.Denotes`). A URI is read exactly if it has this
shape (`ClusterAddress.ofUri_eq_ok_iff`); everything else is refused as malformed.
-/

namespace SocketMux

open SocketMux.Text

namespace ClusterAddress

open Cluster

/-- The URIs that denote five values and a port: a scheme of the family, a user part, a host, a
port, and a rest that starts at the first slash, query or fragment. -/
inductive Denotes : List Char → Fields → Port → Prop where
  | uri {scheme user host shown rest : List Char} {fields : Fields} {port : Option Port}
      (isScheme : String.ofList scheme ∈ schemes) (isUser : Uri.IsUser user)
      (isHost : HostOf host fields) (plain : '@' ∉ host ∧ ':' ∉ host)
      (showsPort : Uri.ShowsPort shown port)
      (unbroken : ∀ char ∈ user ++ (host ++ shown), Uri.endsAuthority char = false)
      (beyond : ∀ char ∈ rest.head?, Uri.endsAuthority char = true) :
      Denotes (scheme ++ ("://".toList ++ (user ++ (host ++ shown) ++ rest))) fields
        (port.getD 0)

/-- The schemes of the family are plain text. -/
theorem scheme_isPlain {scheme : String} (member : scheme ∈ schemes) :
    scheme.toList ≠ [] ∧ scheme.toList.all Uri.isSchemeChar = true := by
  have table : ∀ scheme ∈ schemes,
      scheme.toList ≠ [] ∧ scheme.toList.all Uri.isSchemeChar = true := by
    decide
  exact table scheme member

variable {uri : List Char} {text : String} {fields : Fields} {port : Port}

theorem denotes_iff : Denotes uri fields port ↔ ∃ parts, Uri.Splits uri parts ∧
    String.ofList parts.scheme ∈ schemes ∧ HostOf parts.host fields ∧
    parts.port.getD 0 = port := by
  constructor
  · rintro ⟨isScheme, isUser, isHost, plain, showsPort, unbroken, beyond⟩
    obtain ⟨named, allPlain⟩ := scheme_isPlain isScheme
    rw [String.toList_ofList] at named allPlain
    have authority := Uri.Authority.intro isUser plain.1 showsPort fun _ => plain.2
    exact ⟨_, .intro named allPlain authority unbroken beyond, isScheme, isHost, rfl⟩
  · rintro ⟨parts, ⟨named, allPlain, shows, unbroken, beyond⟩, isScheme, isHost, rfl⟩
    cases shows with
    | intro isUser noUser showsPort noPort =>
      exact .uri isScheme isUser isHost ⟨noUser, isHost.colon_not_mem⟩ showsPort unbroken beyond

/-- A URI is read as the values and the port that it denotes. -/
theorem readUri_eq_ok_iff :
    readUri text = .ok (fields, port) ↔ Denotes text.toList fields port := by
  rw [denotes_iff]
  unfold readUri
  dsimp only
  constructor
  · intro read
    split at read
    · cases read
    · next parts split =>
      split at read
      · next isScheme =>
        split at read
        · cases read
        · split at read
          · cases read
          · next found =>
            cases read
            exact ⟨parts, Uri.split_eq_ok_iff.mp split, isScheme, readHost_eq_ok_iff.mp found, rfl⟩
      · cases read
  · rintro ⟨parts, splits, isScheme, isHost, rfl⟩
    rw [Uri.split_eq_ok_iff.mpr splits]
    dsimp only
    rw [if_pos isScheme, if_neg isHost.ne_nil, readHost_eq_ok_iff.mpr isHost]

/-- What a URI denotes goes by its names. -/
theorem Denotes.isNamed (denotes : Denotes uri fields port) : fields.IsNamed := by
  obtain ⟨_, _, _, isHost, _⟩ := denotes_iff.mp denotes
  exact isHost.isNamed

/-- A URI denotes no negative port. -/
theorem Denotes.zero_le (denotes : Denotes uri fields port) : 0 ≤ port := by
  cases denotes with
  | uri isScheme isUser isHost plain showsPort unbroken beyond =>
    cases showsPort with
    | absent => exact Int32.le_refl 0
    | given denotes same => exact (Uri.ShowsPort.given denotes same).zero_le

/-- A URI is read as the address of what it denotes. -/
theorem ofUri_eq_ok_iff {address : ClusterAddress} : ofUri text none = .ok address ↔
    ∃ fields port, Denotes text.toList fields port ∧ address = ofFields fields port := by
  constructor
  · intro read
    obtain ⟨⟨fields, port⟩, values, later⟩ := Outcome.bind_eq_ok_iff.mp read
    obtain ⟨accepted, checked, rest⟩ := Outcome.bind_eq_ok_iff.mp later
    obtain ⟨_, rfl⟩ := Port.checked_eq_ok_iff.mp checked
    exact ⟨fields, port, readUri_eq_ok_iff.mp values, (Except.ok.inj rest).symm⟩
  · rintro ⟨fields, port, denotes, rfl⟩
    have least : -1 ≤ port := Int32.le_trans (show (-1 : Port) ≤ 0 by decide) denotes.zero_le
    refine Outcome.bind_eq_ok_iff.mpr ⟨(fields, port), readUri_eq_ok_iff.mpr denotes, ?_⟩
    exact Outcome.bind_eq_ok_iff.mpr ⟨port, Port.checked_of_le least, rfl⟩

theorem isMalformed_of_readUri {err : AddressError} (fails : readUri text = .error err) :
    err.isMalformed = true := by
  unfold readUri at fails
  extract_lets at fails
  repeat' split at fails
  all_goals cases fails
  all_goals rfl

theorem isMalformed_of_ofUri {err : AddressError} (fails : ofUri text none = .error err) :
    err.isMalformed = true := by
  rcases Outcome.bind_eq_error_iff.mp fails with unread | ⟨values, _, later⟩
  · exact isMalformed_of_readUri unread
  · rcases Outcome.bind_eq_error_iff.mp later with refused | ⟨port, _, rest⟩
    · exact Port.isMalformed_of_checked refused
    · cases rest

/-- The grammar of the family's URIs. A URI is read exactly if it denotes values and a port, as
the address of what it denotes. Every other text is refused as malformed. -/
theorem uris_denote :
    (∀ (text : String) (address : ClusterAddress), ofUri text none = .ok address ↔
      ∃ fields port, Denotes text.toList fields port ∧ address = ofFields fields port) ∧
    ∀ text : String, (∀ fields port, ¬Denotes text.toList fields port) →
      ∃ err, ofUri text none = .error err ∧ err.isMalformed = true := by
  refine ⟨fun text address => ofUri_eq_ok_iff, ?_⟩
  intro text undenoted
  cases read : ofUri text none with
  | ok address =>
    obtain ⟨fields, port, denotes, _⟩ := ofUri_eq_ok_iff.mp read
    exact absurd denotes (undenoted fields port)
  | error err => exact ⟨err, rfl, isMalformed_of_ofUri read⟩

/-- A user part with an `@` of its own, a scope before the word that holds a hyphen itself,
numbers in both forms with a capital digit, no third value and a query; and a host without
segments enough. -/
theorem uris_denote_range :
    ofUri "http+tipc://a@b@7-service-range.12.0xAf:80?x:/y" none =
      .ok (ofFields ⟨.serviceRange, .other 7, 12, 175, 175⟩ 80) ∧
    ∃ err, ofUri "tipc://12" none = .error err ∧ err.isMalformed = true := by
  have seven : Numeral.Word "7".toList 7 := Numeral.word?_eq_some_iff.mp (by decide)
  have twelve : Numeral.Word "12".toList 12 := Numeral.word?_eq_some_iff.mp (by decide)
  have capital : Numeral.Word "0xAf".toList 175 := Numeral.word?_eq_some_iff.mp (by decide)
  have port : Uri.ShowsPort ":80".toList (some 80) := by
    obtain ⟨number, denotes, same⟩ := Numeral.nonNegative?_eq_some_iff.mp
      (show Numeral.nonNegative? "80".toList = some 80 by decide)
    exact .given denotes same
  have spelled : Kind.token? .serviceRange = some "service-range".toList := rfl
  have host : HostOf "7-service-range.12.0xAf".toList ⟨.serviceRange, .other 7, 12, 175, 175⟩ :=
    .joined (.typed (.given (.number seven) (.word spelled)) (.two twelve capital))
  have isScheme : String.ofList "http+tipc".toList ∈ schemes := by decide
  have table : "a@b@7-service-range.12.0xAf:80".toList.all (!Uri.endsAuthority ·) = true := by
    decide
  have unbroken : ∀ char ∈ "a@b@7-service-range.12.0xAf:80".toList,
      Uri.endsAuthority char = false := by
    intro char member
    simpa using List.all_eq_true.mp table char member
  have beyond : ∀ char ∈ "?x:/y".toList.head?, Uri.endsAuthority char = true := by
    rintro char ⟨⟩
    rfl
  have denotes : Denotes "http+tipc://a@b@7-service-range.12.0xAf:80?x:/y".toList
      ⟨.serviceRange, .other 7, 12, 175, 175⟩ 80 :=
    .uri isScheme (.given "a@b".toList) host (by decide) port unbroken beyond
  refine ⟨(uris_denote.1 _ _).mpr ⟨_, _, denotes, rfl⟩, uris_denote.2 "tipc://12" ?_⟩
  intro fields port denotes
  have read := readUri_eq_ok_iff.mpr denotes
  cases read

end ClusterAddress

end SocketMux
