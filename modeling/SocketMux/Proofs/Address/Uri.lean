import Mathlib.Data.List.TakeWhile
import SocketMux.Address.Uri
import SocketMux.Proofs.Outcome
import SocketMux.Proofs.Text.Cut
import SocketMux.Proofs.Text.Digits

/-!
# The grammar of URIs

A URI is split exactly if it has the accepted shape (`Uri.split_eq_ok_iff`): a scheme, an
authority that ends at the first slash, query or fragment, and a rest that starts there
(`Uri.Splits`). The authority is a user part, a host and the port that is shown behind it
(`Uri.Authority`). A URI that is written from a host without separators has this shape
(`Uri.split_shown`), and it shows the port if that is positive (`Uri.shownPort`).
-/

namespace SocketMux

open SocketMux.Text

namespace Port

theorem max_zero (port : Port) : max port 0 = if port ≤ 0 then 0 else port := rfl

theorem max_zero_of_le {port : Port} (nonNegative : 0 ≤ port) : max port 0 = port := by
  rw [max_zero]
  split
  · next least => exact Int32.le_antisymm nonNegative least
  · rfl

theorem zero_le_max (port : Port) : 0 ≤ max port 0 := by
  rw [max_zero]
  split
  · exact Int32.le_refl 0
  · next positive => exact Int32.le_of_lt (Int32.not_le.mp positive)

/-- Ports from -1 on are accepted as they are. -/
theorem checked_eq_ok_iff {port accepted : Port} :
    port.checked = .ok accepted ↔ -1 ≤ port ∧ port = accepted := by
  unfold checked
  constructor
  · intro passes
    split at passes
    · cases passes
    · next least => exact ⟨Int32.not_lt.mp least, Except.ok.inj passes⟩
  · rintro ⟨least, rfl⟩
    rw [if_neg (Int32.not_lt.mpr least)]

theorem checked_of_le {port : Port} (least : -1 ≤ port) : port.checked = .ok port :=
  checked_eq_ok_iff.mpr ⟨least, rfl⟩

end Port

namespace Uri

/-- A user part in front of a host. -/
inductive IsUser : List Char → Prop where
  | absent : IsUser []
  | given (name : List Char) : IsUser (name ++ ['@'])

/-- The text behind a host, and the port that it shows. -/
inductive ShowsPort : List Char → Option Port → Prop where
  | absent : ShowsPort [] none
  | given {digits : List Char} {number : Nat} {port : Port}
      (denotes : Numeral.Denotes 10 digits number) (same : port.toInt = number) :
      ShowsPort (':' :: digits) (some port)

/-- The authorities of a host and port. -/
inductive Authority : List Char → List Char → Option Port → Prop where
  | intro {user host shown : List Char} {port : Option Port} (isUser : IsUser user)
      (noUser : '@' ∉ host) (showsPort : ShowsPort shown port)
      (noPort : port = none → ':' ∉ host) : Authority (user ++ (host ++ shown)) host port

/-- Whether a character ends an authority. -/
def endsAuthority (char : Char) : Bool := char == '/' || endsText char

/-- The URIs that are split, and their parts. -/
inductive Splits : List Char → Parts → Prop where
  | intro {scheme authority rest host : List Char} {port : Option Port} (named : scheme ≠ [])
      (plain : scheme.all isSchemeChar = true) (shows : Authority authority host port)
      (unbroken : ∀ char ∈ authority, endsAuthority char = false)
      (beyond : ∀ char ∈ rest.head?, endsAuthority char = true) :
      Splits (scheme ++ ("://".toList ++ (authority ++ rest)))
        ⟨scheme, host, port, rest.takeWhile fun char => !endsText char⟩

variable {authority host user shown tail rest uri : List Char} {port : Option Port}

section Authorities

/-- The characters that show a port. -/
theorem ShowsPort.mem (shows : ShowsPort shown port) {char : Char} (member : char ∈ shown) :
    char = ':' ∨ ∃ value < 10, Digit.Denotes char value := by
  cases shows with
  | absent => cases member
  | given denotes same =>
    rcases List.mem_cons.mp member with colon | digit
    · exact .inl colon
    · exact .inr (denotes.exists_value digit)

/-- The user part is dropped. -/
theorem splitAuthority_append (isUser : IsUser user) (noUser : '@' ∉ tail) :
    splitAuthority (user ++ tail) = splitAuthority tail := by
  cases isUser with
  | absent => rfl
  | given name =>
    have cut := Cut.last?_append name noUser
    have uncut := Cut.last?_eq_none noUser
    unfold splitAuthority
    rw [List.append_assoc, List.singleton_append, cut, uncut]

/-- An authority consists of a user part and the rest. -/
theorem exists_user (authority : List Char) :
    ∃ user tail, authority = user ++ tail ∧ IsUser user ∧ '@' ∉ tail := by
  cases cut : Cut.last? '@' authority with
  | none => exact ⟨[], authority, rfl, .absent, Cut.absent_of_last? cut⟩
  | some parts =>
    obtain ⟨whole, noUser⟩ := Cut.last?_eq_some cut
    refine ⟨parts.1 ++ ['@'], parts.2, ?_, .given parts.1, noUser⟩
    rw [List.append_assoc, List.singleton_append]
    exact whole

theorem splitAuthority_tail (noUser : '@' ∉ tail) : splitAuthority tail = .ok (host, port) ↔
    ∃ shown, tail = host ++ shown ∧ ShowsPort shown port ∧ (port = none → ':' ∉ host) := by
  unfold splitAuthority
  rw [Cut.last?_eq_none noUser]
  dsimp only
  constructor
  · intro read
    cases cut : Cut.last? ':' tail with
    | none =>
      rw [cut] at read
      cases read
      exact ⟨[], (List.append_nil _).symm, .absent, fun _ => Cut.absent_of_last? cut⟩
    | some parts =>
      obtain ⟨front, digits⟩ := parts
      obtain ⟨whole, _⟩ := Cut.last?_eq_some cut
      rw [cut] at read
      dsimp only at read
      split at read
      · next found =>
        cases read
        obtain ⟨number, denotes, same⟩ := Numeral.nonNegative?_eq_some_iff.mp found
        exact ⟨':' :: digits, whole, .given denotes same, fun none => nomatch none⟩
      · cases read
  · rintro ⟨shown, rfl, shows, noPort⟩
    cases shows with
    | absent => rw [List.append_nil, Cut.last?_eq_none (noPort rfl)]
    | given denotes same =>
      have noColon : ':' ∉ _ := fun member => by
        obtain ⟨value, _, digit⟩ := denotes.exists_value member
        exact digit.ne rfl rfl
      have read := Numeral.nonNegative?_eq_some_iff.mpr ⟨_, denotes, same⟩
      rw [Cut.last?_append host noColon]
      dsimp only
      rw [read]

theorem ShowsPort.noUser (shows : ShowsPort shown port) : '@' ∉ shown := by
  intro member
  rcases shows.mem member with colon | ⟨value, _, digit⟩
  · cases colon
  · exact digit.ne rfl rfl

theorem splitAuthority_eq_ok_iff :
    splitAuthority authority = .ok (host, port) ↔ Authority authority host port := by
  constructor
  · intro read
    obtain ⟨user, tail, rfl, isUser, noUser⟩ := exists_user authority
    rw [splitAuthority_append isUser noUser] at read
    obtain ⟨shown, rfl, shows, noPort⟩ := (splitAuthority_tail noUser).mp read
    exact .intro isUser (fun member => noUser (List.mem_append_left _ member)) shows noPort
  · rintro ⟨isUser, noUser, shows, noPort⟩
    have noUserAtAll := mt List.mem_append.mp (not_or.mpr ⟨noUser, shows.noUser⟩)
    rw [splitAuthority_append isUser noUserAtAll, splitAuthority_tail noUserAtAll]
    exact ⟨_, rfl, shows, noPort⟩

end Authorities

section Splitting

/-- A separator is no character of schemes. -/
theorem not_mem_of_plain {part : List Char} (plain : part.all isSchemeChar = true) {char : Char}
    (separates : isSchemeChar char = false) : char ∉ part := by
  intro member
  rw [List.all_eq_true.mp plain char member] at separates
  cases separates

theorem continues_of_unbroken {char : Char} (unbroken : endsAuthority char = false) :
    char ≠ '/' ∧ endsText char = false := by
  obtain ⟨noSlash, noEnd⟩ := Bool.or_eq_false_iff.mp unbroken
  exact ⟨beq_eq_false_iff_ne.mp noSlash, noEnd⟩

/-- An authority and a rest are told apart by where the rest starts. -/
theorem takeWhile_append (unbroken : ∀ char ∈ authority, endsAuthority char = false)
    (beyond : ∀ char ∈ rest.head?, endsAuthority char = true) :
    ((authority ++ rest).takeWhile fun char => !endsText char).takeWhile (· != '/') = authority ∧
    ((authority ++ rest).takeWhile fun char => !endsText char).dropWhile (· != '/') =
      rest.takeWhile fun char => !endsText char := by
  have noSlash : ∀ char ∈ authority, (char != '/') = true := by
    intro char member
    exact bne_iff_ne.mpr (continues_of_unbroken (unbroken char member)).1
  have noEnd : ∀ char ∈ authority, (!endsText char) = true := by
    intro char member
    simp [(continues_of_unbroken (unbroken char member)).2]
  -- What is looked at behind the authority starts with a slash, if there is anything.
  have starts : (rest.takeWhile fun char => !endsText char).takeWhile (· != '/') = [] := by
    cases rest with
    | nil => rfl
    | cons char others =>
      rcases Bool.or_eq_true_iff.mp (beyond char rfl) with slash | ends
      · rw [beq_iff_eq.mp slash]
        rfl
      · rw [List.takeWhile_cons_of_neg (by simp [ends])]
        rfl
  have path := List.takeWhile_append_dropWhile (p := (· != '/'))
    (l := rest.takeWhile fun char => !endsText char)
  rw [starts, List.nil_append] at path
  rw [List.takeWhile_append_of_pos noEnd, List.takeWhile_append_of_pos noSlash,
    List.dropWhile_append_of_pos noSlash, starts, List.append_nil, path]
  exact ⟨rfl, rfl⟩

/-- The authority of what follows the scheme, and the rest behind it. -/
theorem exists_authority (text : List Char) : ∃ authority rest, text = authority ++ rest ∧
    (∀ char ∈ authority, endsAuthority char = false) ∧
    ∀ char ∈ rest.head?, endsAuthority char = true := by
  refine ⟨text.takeWhile fun char => !endsAuthority char,
    text.dropWhile fun char => !endsAuthority char, List.takeWhile_append_dropWhile.symm, ?_, ?_⟩
  · intro char member
    simpa using List.mem_takeWhile_imp member
  · intro char first
    have stops := List.head?_dropWhile_not (fun char => !endsAuthority char) text
    rw [Option.mem_def.mp first] at stops
    simpa using stops

/-- A URI is split into the parts of its shape. -/
theorem split_eq_ok_iff {parts : Parts} : split uri = .ok parts ↔ Splits uri parts := by
  unfold split
  constructor
  · intro read
    split at read
    · cases read
    · next scheme text cut =>
      rw [Cut.first?_eq_some cut]
      split at read
      · cases read
      · next accepted =>
        rw [not_or, Bool.not_eq_false] at accepted
        obtain ⟨authority, rest, rfl, unbroken, beyond⟩ := exists_authority text
        obtain ⟨whole, path⟩ := takeWhile_append unbroken beyond
        dsimp only at read
        rw [whole, path] at read
        split at read
        · cases read
        · next shows =>
          cases read
          exact .intro accepted.1 accepted.2 (splitAuthority_eq_ok_iff.mp shows) unbroken beyond
  · intro splits
    cases splits with
    | @intro scheme authority rest host port named plain shows unbroken beyond =>
      obtain ⟨whole, path⟩ := takeWhile_append unbroken beyond
      have noColon : ':' ∉ scheme := not_mem_of_plain plain rfl
      have cut : Cut.first? [':', '/', '/'] (scheme ++ ("://".toList ++ (authority ++ rest))) =
          some (scheme, authority ++ rest) :=
        Cut.first?_append noColon ['/', '/'] (authority ++ rest)
      have accepted : ¬(scheme = [] ∨ scheme.all isSchemeChar = false) := by simp [named, plain]
      rw [cut]
      dsimp only
      rw [if_neg accepted, whole, path, splitAuthority_eq_ok_iff.mpr shows]

/-- What stands behind the scheme up to the first slash, query or fragment. -/
def authorityOf (text : List Char) : List Char := text.takeWhile fun char => !endsAuthority char

/-- What stands behind the authority up to the first query or fragment. -/
def pathOf (text : List Char) : List Char :=
  (text.dropWhile fun char => !endsAuthority char).takeWhile fun char => !endsText char

/-- There is one way to tell an authority from the rest. -/
theorem authorityOf_append (unbroken : ∀ char ∈ authority, endsAuthority char = false)
    (beyond : ∀ char ∈ rest.head?, endsAuthority char = true) :
    authorityOf (authority ++ rest) = authority ∧
      pathOf (authority ++ rest) = rest.takeWhile fun char => !endsText char := by
  have passes : ∀ char ∈ authority, (!endsAuthority char) = true := by
    intro char member
    simp [unbroken char member]
  have stops : (rest.takeWhile fun char => !endsAuthority char) = [] ∧
      (rest.dropWhile fun char => !endsAuthority char) = rest := by
    cases rest with
    | nil => exact ⟨rfl, rfl⟩
    | cons char others => simp [beyond char rfl]
  unfold authorityOf pathOf
  rw [List.takeWhile_append_of_pos passes, List.dropWhile_append_of_pos passes, stops.1, stops.2,
    List.append_nil]
  exact ⟨rfl, rfl⟩

/-- A text behind a scheme is split if its authority is that of a host. -/
theorem splits_append_iff {scheme : List Char} (named : scheme ≠ [])
    (plain : scheme.all isSchemeChar = true) (text : List Char) {parts : Parts} :
    Splits (scheme ++ ("://".toList ++ text)) parts ↔ ∃ host port,
      Authority (authorityOf text) host port ∧ parts = ⟨scheme, host, port, pathOf text⟩ := by
  constructor
  · generalize whole : scheme ++ ("://".toList ++ text) = uri
    intro splits
    cases splits with
    | @intro other authority rest host port _ otherPlain shows unbroken beyond =>
      -- Both are cut at their first colon.
      have ahead : ∀ {part : List Char}, part.all isSchemeChar = true → ':' ∉ part :=
        fun plain => not_mem_of_plain plain rfl
      have mine := Cut.first?_append (ahead plain) "//".toList text
      have own := Cut.first?_append (ahead otherPlain) "//".toList (authority ++ rest)
      have same : scheme ++ ':' :: ("//".toList ++ text) =
          other ++ ':' :: ("//".toList ++ (authority ++ rest)) := whole
      rw [same, own] at mine
      obtain ⟨rfl, rfl⟩ := Prod.mk.inj (Option.some.inj mine)
      obtain ⟨isAuthority, isPath⟩ := authorityOf_append unbroken beyond
      rw [isAuthority, isPath]
      exact ⟨host, port, shows, rfl⟩
  · rintro ⟨host, port, shows, rfl⟩
    obtain ⟨authority, rest, rfl, unbroken, beyond⟩ := exists_authority text
    obtain ⟨isAuthority, isPath⟩ := authorityOf_append unbroken beyond
    rw [isAuthority] at shows
    rw [isPath]
    exact .intro named plain shows unbroken beyond

/-- The scheme of a URI that is split is what stands before the first separator. -/
theorem Splits.schemeOf?_eq {parts : Parts} (splits : Splits uri parts) :
    schemeOf? uri = some parts.scheme := by
  cases splits with
  | @intro scheme authority rest host port named plain shows unbroken beyond =>
    have noColon : ':' ∉ scheme := not_mem_of_plain plain rfl
    have cut := Cut.first?_append noColon "//".toList (authority ++ rest)
    exact Option.map_eq_some_iff.mpr ⟨_, cut, rfl⟩

/-- A path starts with a slash, if there is one. -/
theorem Splits.exists_path {parts : Parts} (splits : Splits uri parts) (given : parts.path ≠ []) :
    ∃ others, parts.path = '/' :: others := by
  cases splits with
  | @intro _ _ rest _ _ named plain shows unbroken beyond =>
    cases rest with
    | nil => exact absurd rfl given
    | cons char others =>
      dsimp only at given ⊢
      rw [List.takeWhile_cons] at given ⊢
      split at given
      · next shown =>
        rw [if_pos shown]
        rcases Bool.or_eq_true_iff.mp (beyond char rfl) with slash | ends
        · rw [beq_iff_eq.mp slash]
          exact ⟨_, rfl⟩
        · rw [ends] at shown
          cases shown
      · exact absurd rfl given

end Splitting

section Shown

/-- The port that a URI shows, if it shows one. -/
def shownPort (port : Port) : Option Port := if 0 < port then some port else none

/-- A port as it is shown behind a host. -/
def portText (port : Port) : List Char := if 0 < port then ':' :: Numeral.signed port else []

/-- The port that comes back from a URI. -/
theorem getD_shownPort (port : Port) : (shownPort port).getD 0 = max port 0 := by
  unfold shownPort
  rw [Port.max_zero]
  by_cases positive : 0 < port
  · rw [if_pos positive, if_neg (Int32.not_le.mpr positive)]
    rfl
  · rw [if_neg positive, if_pos (Int32.not_lt.mp positive)]
    rfl

theorem showsPort_portText (port : Port) : ShowsPort (portText port) (shownPort port) := by
  unfold shownPort portText
  by_cases positive : 0 < port
  · have least := Int32.lt_iff_toInt_lt.mp positive
    have zero : (0 : Port).toInt = 0 := rfl
    have read : Numeral.nonNegative? (Numeral.signed port) = some port :=
      Numeral.nonNegative?_signed (by omega)
    obtain ⟨number, denotes, same⟩ := Numeral.nonNegative?_eq_some_iff.mp read
    rw [if_pos positive, if_pos positive]
    exact .given denotes same
  · rw [if_neg positive, if_neg positive]
    exact .absent

/-- No sign is shown before a port. -/
theorem ShowsPort.zero_le {port : Port} (shows : ShowsPort shown (some port)) : 0 ≤ port := by
  cases shows with
  | given denotes same =>
    rw [Int32.le_iff_toInt_le, same]
    exact Int.natCast_nonneg _

/-- A URI has no negative port, also if it shows none. -/
theorem Splits.zero_le {parts : Parts} (splits : Splits uri parts) : 0 ≤ parts.port.getD 0 := by
  cases splits with
  | @intro _ _ _ _ port named plain shows unbroken beyond =>
    cases shows with
    | intro isUser noUser showsPort noPort =>
      cases port with
      | none => exact Int32.le_refl 0
      | some port => exact showsPort.zero_le

/-- The characters at which an authority is cut. -/
def isSeparator (char : Char) : Bool := char == '@' || char == ':' || endsAuthority char

theorem isSeparator_of_ne {char : Char} (unlike : ∀ separator ∈ "@:/?#".toList, char ≠ separator) :
    isSeparator char = false := by
  simpa [isSeparator, endsAuthority, endsText, and_assoc] using unlike

/-- A character of schemes cuts nothing. -/
theorem isSeparator_of_plain {char : Char} (plain : isSchemeChar char = true) :
    isSeparator char = false := by
  have table : "@:/?#".toList.all (fun separator => !isSchemeChar separator) = true := by decide
  refine isSeparator_of_ne ?_
  rintro separator member rfl
  have separates := List.all_eq_true.mp table _ member
  rw [plain] at separates
  cases separates

/-- A digit cuts nothing. -/
theorem isSeparator_of_digit {char : Char} {value : Nat} (digit : Digit.Denotes char value) :
    isSeparator char = false := by
  have table : "@:/?#".toList.all
      (fun separator => Digit.value? separator.toNat == none) = true := by
    decide
  exact isSeparator_of_ne fun separator member =>
    digit.ne (beq_iff_eq.mp (List.all_eq_true.mp table separator member))

/-- A URI that is written from plain parts is split into them. -/
theorem split_shown {scheme : List Char} (named : scheme ≠ [])
    (plain : scheme.all isSchemeChar = true)
    (whole : ∀ char ∈ host, isSeparator char = false) (port : Port) (rest : List Char)
    (beyond : ∀ char ∈ rest.head?, endsAuthority char = true) :
    split (scheme ++ "://".toList ++ host ++ portText port ++ rest) =
      .ok ⟨scheme, host, shownPort port, rest.takeWhile fun char => !endsText char⟩ := by
  have absent : ∀ {separator}, isSeparator separator = true → separator ∉ host := by
    intro separator separates member
    rw [whole separator member] at separates
    cases separates
  have shows := showsPort_portText port
  have authority : Authority (host ++ portText port) host (shownPort port) :=
    .intro .absent (absent rfl) shows fun _ => absent rfl
  have unbroken : ∀ char ∈ host ++ portText port, endsAuthority char = false := by
    intro char member
    rcases List.mem_append.mp member with member | member
    · exact (Bool.or_eq_false_iff.mp (whole char member)).2
    · rcases shows.mem member with rfl | ⟨value, _, digit⟩
      · rfl
      · exact (Bool.or_eq_false_iff.mp (isSeparator_of_digit digit)).2
  have splits := Splits.intro named plain authority unbroken beyond
  simp only [List.append_assoc] at splits ⊢
  exact split_eq_ok_iff.mpr splits

end Shown

end Uri

end SocketMux
