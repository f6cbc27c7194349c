import Mathlib.Data.List.Forall2
import SocketMux.Cluster.Uri
import SocketMux.Proofs.Cluster.Token
import SocketMux.Proofs.Text.Cut

/-!
# The grammar of cluster hosts

A host is a list of segments with full stops between them: two or three numerals, and in front
of them a segment for the kind, with or without a scope (`Values`, `Typed`, `HostOf`). A host is
read exactly if it has this shape (`readHost_eq_ok_iff`). Its first segment tells what it is by
its last hyphen: a kind's word, a scope before such a word, a scope before a number, or a number
(`readHead_word`, `readHead_scoped`, `readHead_unnamed`, `readHead_number`).
-/

namespace SocketMux.Cluster

open SocketMux.Text

/-- Two or three numerals denote the three values of a kind. A missing third value is zero, or
the lower bound of a range. -/
inductive Values (kind : Kind) : List (List Char) → UInt32 → UInt32 → UInt32 → Prop where
  | two {first second : List Char} {a b : UInt32} (isFirst : Numeral.Word first a)
      (isSecond : Numeral.Word second b) :
      Values kind [first, second] a b (if kind = .serviceRange then b else 0)
  | three {first second third : List Char} {a b c : UInt32} (isFirst : Numeral.Word first a)
      (isSecond : Numeral.Word second b) (isThird : Numeral.Word third c) :
      Values kind [first, second, third] a b c

/-- A segment for a kind: its word alone, which implies a scope, or a scope, a hyphen and the
kind. -/
inductive Typed : List Char → Kind → Scope → Prop where
  | implied {word : List Char} {kind : Kind} (spelled : kind.token? = some word) :
      Typed word kind (Scope.impliedFor kind)
  | given {scopeToken kindToken : List Char} {scope : Scope} {kind : Kind}
      (isScope : Scope.Denotes scopeToken scope) (isKind : Kind.Denotes kindToken kind) :
      Typed (scopeToken ++ '-' :: kindToken) kind scope

/-- The segments of a host denote five values. -/
inductive Segments : List (List Char) → Fields → Prop where
  | plain {numerals : List (List Char)} {a b c : UInt32} (values : Values .service numerals a b c) :
      Segments numerals ⟨.service, .cluster, a, b, c⟩
  | typed {head : List Char} {numerals : List (List Char)} {kind : Kind} {scope : Scope}
      {a b c : UInt32} (isHead : Typed head kind scope) (values : Values kind numerals a b c) :
      Segments (head :: numerals) ⟨kind, scope, a, b, c⟩

section Heads

theorem words_eq : Kind.named.filterMap Kind.token? =
    ["service-range".toList, "service".toList, "socket".toList] := by
  decide

/-- The longest word has a hyphen of its own. -/
theorem range_eq :
    '-' :: "service-range".toList = "-service".toList ++ '-' :: "range".toList := by
  decide

/-- A scope is found before the word that follows it. -/
theorem scopeBefore?_append {scope : List Char} (nonempty : scope ≠ []) (word : List Char) :
    scopeBefore? (scope ++ '-' :: word) word = some scope := by
  have dropped : Cut.dropEnding? ('-' :: word) (scope ++ '-' :: word) = some scope :=
    Cut.dropEnding?_eq_some_iff.mpr rfl
  simp [scopeBefore?, dropped, nonempty]

theorem eq_append_of_scopeBefore? {segment word scope : List Char}
    (found : scopeBefore? segment word = some scope) : segment = scope ++ '-' :: word := by
  unfold scopeBefore? at found
  split at found
  · next dropped =>
    split at found
    · cases found
    · cases found
      exact Cut.dropEnding?_eq_some_iff.mp dropped
  · cases found

/-- No scope is found before a word that ends otherwise. -/
theorem scopeBefore?_of_ne {scope last word front beyond : List Char} (unbroken : '-' ∉ last)
    (ends : '-' :: word = front ++ '-' :: beyond) (missing : '-' ∉ beyond)
    (differs : last ≠ beyond) : scopeBefore? (scope ++ '-' :: last) word = none := by
  cases found : scopeBefore? (scope ++ '-' :: last) word with
  | none => rfl
  | some before =>
    have spelled := eq_append_of_scopeBefore? found
    rw [ends, ← List.append_assoc] at spelled
    exact absurd (Cut.eq_of_append_eq unbroken missing spelled).2 differs

/-- No scope is found where there is no hyphen. -/
theorem scopeBefore?_of_unbroken {segment : List Char} (unbroken : '-' ∉ segment)
    (word : List Char) : scopeBefore? segment word = none := by
  cases found : scopeBefore? segment word with
  | none => rfl
  | some before =>
    rw [eq_append_of_scopeBefore? found] at unbroken
    exact absurd (List.mem_append_right _ List.mem_cons_self) unbroken

/-- A segment is no kind's word unless it ends like one behind its last hyphen. -/
theorem not_mem_words {scope last : List Char} (unbroken : '-' ∉ last)
    (differs : last ≠ "range".toList) :
    scope ++ '-' :: last ∉ Kind.named.filterMap Kind.token? := by
  have broken : '-' ∈ scope ++ '-' :: last := List.mem_append_right _ List.mem_cons_self
  have range : "service-range".toList = "service".toList ++ '-' :: "range".toList := by decide
  rw [words_eq]
  intro listed
  simp only [List.mem_cons, List.not_mem_nil, or_false] at listed
  rcases listed with same | same | same
  · rw [range] at same
    exact differs (Cut.eq_of_append_eq unbroken (by decide) same).2
  · rw [same] at broken
    exact absurd broken (by decide)
  · rw [same] at broken
    exact absurd broken (by decide)

/-- A kind's word alone has no scope. -/
theorem readHead_word {word : List Char} (member : word ∈ Kind.named.filterMap Kind.token?) :
    readHead word = some (.typed none word) := by
  unfold readHead
  exact if_pos member

/-- A scope is read before a kind's word. -/
theorem readHead_scoped {scope word : List Char} (nonempty : scope ≠ [])
    (member : word ∈ Kind.named.filterMap Kind.token?) :
    readHead (scope ++ '-' :: word) = some (.typed (some scope) word) := by
  have found := scopeBefore?_append nonempty word
  have unlisted : scope ++ '-' :: word ∉ Kind.named.filterMap Kind.token? := by
    rw [words_eq] at member
    simp only [List.mem_cons, List.not_mem_nil, or_false] at member
    rcases member with rfl | rfl | rfl
    · -- The word itself is the longest of all, and the segment is longer.
      have lengths : ∀ other ∈ Kind.named.filterMap Kind.token?, other.length ≤ 13 := by decide
      intro listed
      have bounded := lengths _ listed
      simp at bounded
    · exact not_mem_words (by decide) (by decide)
    · exact not_mem_words (by decide) (by decide)
  unfold readHead
  rw [if_neg unlisted]
  rw [words_eq] at member ⊢
  simp only [List.mem_cons, List.not_mem_nil, or_false] at member
  rcases member with rfl | rfl | rfl
  · rw [List.findSome?_cons, found]
    rfl
  · have notRange : scopeBefore? (scope ++ '-' :: "service".toList) "service-range".toList = none :=
      scopeBefore?_of_ne (by decide) range_eq (by decide) (by decide)
    rw [List.findSome?_cons, notRange, Option.map_none, List.findSome?_cons, found]
    rfl
  · have notRange : scopeBefore? (scope ++ '-' :: "socket".toList) "service-range".toList = none :=
      scopeBefore?_of_ne (by decide) range_eq (by decide) (by decide)
    have notService : scopeBefore? (scope ++ '-' :: "socket".toList) "service".toList = none :=
      scopeBefore?_of_ne (by decide) (List.nil_append _).symm (by decide) (by decide)
    rw [List.findSome?_cons, notRange, Option.map_none, List.findSome?_cons, notService,
      Option.map_none, List.findSome?_cons, found]
    rfl

theorem findScope_none {segment : List Char}
    (noWord : ∀ word ∈ Kind.named.filterMap Kind.token?, scopeBefore? segment word = none) :
    (Kind.named.filterMap Kind.token?).findSome? (fun word =>
      (scopeBefore? segment word).map fun scope => (scope, word)) = none := by
  rw [List.findSome?_eq_none_iff]
  intro word member
  rw [noWord word member, Option.map_none]

/-- A scope is read before a number. -/
theorem readHead_unnamed {scope kind : List Char} (nonempty : scope ≠ []) (unbroken : '-' ∉ scope)
    {value : UInt32} (numeral : Numeral.Word kind value) :
    readHead (scope ++ '-' :: kind) = some (.typed (some scope) kind) := by
  have noHyphen : '-' ∉ kind := numeral.not_mem rfl (by decide)
  have noWord : ∀ word ∈ Kind.named.filterMap Kind.token?,
      scopeBefore? (scope ++ '-' :: kind) word = none := by
    intro word member
    rw [words_eq] at member
    simp only [List.mem_cons, List.not_mem_nil, or_false] at member
    rcases member with rfl | rfl | rfl
    · exact scopeBefore?_of_ne noHyphen range_eq (by decide) (numeral.ne (by decide))
    · exact scopeBefore?_of_ne noHyphen (List.nil_append _).symm (by decide)
        (numeral.ne (by decide))
    · exact scopeBefore?_of_ne noHyphen (List.nil_append _).symm (by decide)
        (numeral.ne (by decide))
  have cut : Cut.first? ['-'] (scope ++ '-' :: kind) = some (scope, kind) :=
    Cut.first?_append unbroken [] kind
  have unlisted : scope ++ '-' :: kind ∉ Kind.named.filterMap Kind.token? :=
    not_mem_words noHyphen (numeral.ne (by decide))
  have isWord := Option.isSome_of_eq_some (Numeral.word?_eq_some_iff.mpr numeral)
  unfold readHead
  simp only [if_neg unlisted, findScope_none noWord, cut]
  exact if_pos ⟨nonempty, isWord⟩

/-- A number alone is the first numeric field. -/
theorem readHead_number {segment : List Char} {value : UInt32}
    (numeral : Numeral.Word segment value) : readHead segment = some .number := by
  have noHyphen : '-' ∉ segment := numeral.not_mem rfl (by decide)
  have unlisted : segment ∉ Kind.named.filterMap Kind.token? := by
    have noNumber : ∀ word ∈ Kind.named.filterMap Kind.token?, Numeral.word? word = none := by
      decide
    exact fun listed => numeral.ne (noNumber segment listed) rfl
  unfold readHead
  simp only [if_neg unlisted, findScope_none fun word _ => scopeBefore?_of_unbroken noHyphen word,
    Cut.first?_eq_none noHyphen, Numeral.word?_eq_some_iff.mpr numeral, Option.map_some]

end Heads

variable {segments numerals : List (List Char)} {segment head : List Char} {kind : Kind}
  {scope : Scope} {fields : Fields}

section Numerals

theorem mapM_eq_some_iff {values : List UInt32} : numerals.mapM Numeral.word? = some values ↔
    List.Forall₂ Numeral.Word numerals values := by
  induction numerals generalizing values with
  | nil => simp [List.forall₂_nil_left_iff, eq_comm]
  | cons numeral others inductionHypothesis =>
    simp only [List.mapM_cons, Option.bind_eq_bind, Option.bind_eq_some_iff, Option.pure_def,
      Option.some.injEq, Numeral.word?_eq_some_iff, inductionHypothesis]
    constructor
    · rintro ⟨value, isFirst, rest, isRest, rfl⟩
      exact .cons isFirst isRest
    · intro denote
      cases denote with
      | cons isFirst isRest => exact ⟨_, isFirst, _, isRest, rfl⟩

theorem readValues_eq_ok_iff : readValues kind scope numerals = .ok fields ↔
    ∃ a b c, Values kind numerals a b c ∧ fields = ⟨kind, scope, a, b, c⟩ := by
  unfold readValues
  constructor
  · intro read
    split at read
    · next found =>
      cases read
      match mapM_eq_some_iff.mp found with
      | .cons isFirst (.cons isSecond .nil) => exact ⟨_, _, _, .two isFirst isSecond, rfl⟩
    · next found =>
      cases read
      match mapM_eq_some_iff.mp found with
      | .cons isFirst (.cons isSecond (.cons isThird .nil)) =>
        exact ⟨_, _, _, .three isFirst isSecond isThird, rfl⟩
    · cases read
  · rintro ⟨a, b, c, values, rfl⟩
    cases values with
    | two isFirst isSecond =>
      rw [mapM_eq_some_iff.mpr (.cons isFirst (.cons isSecond .nil))]
    | three isFirst isSecond isThird =>
      rw [mapM_eq_some_iff.mpr (.cons isFirst (.cons isSecond (.cons isThird .nil)))]

end Numerals

section TypedHeads

/-- What a typed segment is cut into. -/
theorem cut_of_readHead {scopeToken : Option (List Char)} {kindToken : List Char}
    (read : readHead segment = some (.typed scopeToken kindToken)) :
    scopeToken = none ∧ kindToken = segment ∧ segment ∈ Kind.named.filterMap Kind.token? ∨
      ∃ token, scopeToken = some token ∧ segment = token ++ '-' :: kindToken := by
  unfold readHead at read
  dsimp only at read
  split at read
  · next listed =>
    cases read
    exact .inl ⟨rfl, rfl, listed⟩
  · right
    split at read
    · next token word found =>
      cases read
      obtain ⟨_, _, same⟩ := List.exists_of_findSome?_eq_some found
      obtain ⟨token, before, pair⟩ := Option.map_eq_some_iff.mp same
      cases pair
      exact ⟨token, rfl, eq_append_of_scopeBefore? before⟩
    · split at read
      · next token kindToken cut =>
        split at read
        · cases read
          exact ⟨token, rfl, Cut.first?_eq_some cut⟩
        · cases read
      · obtain ⟨_, _, same⟩ := Option.map_eq_some_iff.mp read
        cases same

theorem readTyped_none {kindToken : List Char} : readTyped none kindToken = .ok (kind, scope) ↔
    Kind.Denotes kindToken kind ∧ scope = Scope.impliedFor kind := by
  rw [← Kind.ofToken?_eq_some_iff]
  unfold readTyped
  cases Kind.ofToken? kindToken with
  | none => simp
  | some found =>
    simp only [Except.ok.injEq, Prod.mk.injEq, Option.some.injEq]
    exact and_congr_right fun same => by rw [same, eq_comm]

theorem readTyped_some {scopeToken kindToken : List Char} :
    readTyped (some scopeToken) kindToken = .ok (kind, scope) ↔
      Kind.Denotes kindToken kind ∧ Scope.Denotes scopeToken scope := by
  rw [← Kind.ofToken?_eq_some_iff, ← Scope.ofToken?_eq_some_iff]
  unfold readTyped
  cases Kind.ofToken? kindToken with
  | none => simp
  | some found =>
    dsimp only
    cases Scope.ofToken? scopeToken <;> simp

/-- A typed segment is read as the kind and scope that it denotes. -/
theorem typed_iff : Typed head kind scope ↔ ∃ scopeToken kindToken,
    readHead head = some (.typed scopeToken kindToken) ∧
      readTyped scopeToken kindToken = .ok (kind, scope) := by
  constructor
  · intro typed
    cases typed with
    | implied spelled =>
      exact ⟨none, head, readHead_word (Kind.mem_words spelled),
        readTyped_none.mpr ⟨.word spelled, rfl⟩⟩
    | @given scopeToken kindToken _ _ isScope isKind =>
      refine ⟨some scopeToken, kindToken, ?_, readTyped_some.mpr ⟨isKind, isScope⟩⟩
      cases isKind with
      | word spelled => exact readHead_scoped isScope.ne_nil (Kind.mem_words spelled)
      | number numeral =>
        exact readHead_unnamed isScope.ne_nil isScope.hyphen_not_mem numeral
  · rintro ⟨scopeToken, kindToken, read, denotes⟩
    rcases cut_of_readHead read with ⟨rfl, rfl, listed⟩ | ⟨token, rfl, rfl⟩
    · obtain ⟨isKind, rfl⟩ := readTyped_none.mp denotes
      obtain ⟨named, _, spelled⟩ := List.mem_filterMap.mp listed
      have same := Kind.ofToken?_eq_some_iff.mpr isKind
      rw [Kind.ofToken?_eq_some_iff.mpr (.word spelled)] at same
      cases same
      exact .implied spelled
    · obtain ⟨isKind, isScope⟩ := readTyped_some.mp denotes
      exact .given isScope isKind

end TypedHeads

theorem readSegments_eq_ok_iff : readSegments segments = .ok fields ↔ Segments segments fields := by
  unfold readSegments
  constructor
  · intro read
    split at read
    · obtain ⟨a, b, c, values, rfl⟩ := readValues_eq_ok_iff.mp read
      exact .plain values
    · split at read
      · split at read
        · next found =>
          split at read
          · next typed =>
            obtain ⟨a, b, c, values, rfl⟩ := readValues_eq_ok_iff.mp read
            exact .typed (typed_iff.mpr ⟨_, _, found, typed⟩) values
          · cases read
        · split at read
          · obtain ⟨a, b, c, values, rfl⟩ := readValues_eq_ok_iff.mp read
            exact .plain values
          · cases read
        · cases read
      · cases read
    · cases read
  · intro shape
    cases shape with
    | plain values =>
      have read : readValues .service .cluster _ = _ :=
        readValues_eq_ok_iff.mpr ⟨_, _, _, values, rfl⟩
      cases values with
      | two isFirst isSecond => exact read
      | three isFirst isSecond isThird =>
        simpa [readHead_number isFirst] using read
    | @typed _ _ kind scope _ _ _ isHead values =>
      obtain ⟨scopeToken, kindToken, found, typed⟩ := typed_iff.mp isHead
      have read : readValues kind scope _ = _ := readValues_eq_ok_iff.mpr ⟨_, _, _, values, rfl⟩
      cases values with
      | two isFirst isSecond => simpa [found, typed] using read
      | three isFirst isSecond isThird => simpa [found, typed] using read

section Hosts

variable {stop : Char} {host : List Char}

theorem Typed.not_mem (typed : Typed head kind scope) (stops : IsStop stop) : stop ∉ head := by
  cases typed with
  | implied spelled => exact (Kind.Denotes.word spelled).not_mem stops
  | given isScope isKind =>
    have noHyphen : stop ≠ '-' := by rcases stops with rfl | rfl <;> decide
    simp [isScope.not_mem stops, isKind.not_mem stops, noHyphen]

theorem Values.not_mem {a b c : UInt32} (values : Values kind numerals a b c)
    (stops : IsStop stop) : ∀ numeral ∈ numerals, stop ∉ numeral := by
  cases values with
  | two isFirst isSecond =>
    simp [not_mem_of_word stops isFirst, not_mem_of_word stops isSecond]
  | three isFirst isSecond isThird =>
    simp [not_mem_of_word stops isFirst, not_mem_of_word stops isSecond,
      not_mem_of_word stops isThird]

/-- A segment is not cut again. -/
theorem Segments.not_mem (shape : Segments segments fields) (stops : IsStop stop) :
    ∀ segment ∈ segments, stop ∉ segment := by
  cases shape with
  | plain values => exact values.not_mem stops
  | typed isHead values =>
    rw [List.forall_mem_cons]
    exact ⟨isHead.not_mem stops, values.not_mem stops⟩

/-- What the segments denote goes by its names. -/
theorem Segments.isNamed (shape : Segments segments fields) : fields.IsNamed := by
  cases shape with
  | plain values => exact ⟨rfl, rfl⟩
  | typed isHead values =>
    cases isHead with
    | implied spelled =>
      exact ⟨(Kind.Denotes.word spelled).isNamed, Scope.isNamed_impliedFor _⟩
    | given isScope isKind => exact ⟨isKind.isNamed, isScope.isNamed⟩

theorem Segments.ne_nil (shape : Segments segments fields) : segments ≠ [] := by
  cases shape with
  | plain values => cases values <;> exact List.cons_ne_nil _ _
  | typed isHead values => exact List.cons_ne_nil _ _

/-- A host denotes five values by its segments, with full stops between them. -/
inductive HostOf : List Char → Fields → Prop where
  | joined {segments : List (List Char)} {fields : Fields} (shape : Segments segments fields) :
      HostOf (['.'].intercalate segments) fields

/-- A host is read as the values that it denotes. -/
theorem readHost_eq_ok_iff : readHost host = .ok fields ↔ HostOf host fields := by
  unfold readHost
  rw [Cut.fields_eq_splitOn, readSegments_eq_ok_iff]
  constructor
  · intro shape
    have joined := HostOf.joined shape
    rw [List.intercalate_splitOn] at joined
    exact joined
  · rintro ⟨shape⟩
    rw [List.splitOn_intercalate '.' (shape.not_mem (.inl rfl)) shape.ne_nil]
    exact shape

/-- No port is cut off a host. -/
theorem HostOf.colon_not_mem (isHost : HostOf host fields) : ':' ∉ host := by
  cases isHost with
  | joined shape =>
    intro member
    rcases Cut.mem_intercalate member with dot | ⟨segment, listed, held⟩
    · cases dot
    · exact shape.not_mem (.inr rfl) segment listed held

theorem HostOf.isNamed (isHost : HostOf host fields) : fields.IsNamed := by
  cases isHost with
  | joined shape => exact shape.isNamed

theorem HostOf.ne_nil (isHost : HostOf host fields) : host ≠ [] := by
  rintro rfl
  cases readHost_eq_ok_iff.mpr isHost

end Hosts

end SocketMux.Cluster
