import SocketMux.Proofs.Cluster.Grammar

/-!
# URIs of cluster addresses that are read back

A host is written from its segments (`Fields.host_eq`), which denote the values that it was
written from (`Fields.hostOf_host`). So every address that was made of a descriptor has a URI
under each scheme of the family, and reading the URI gives the address back; the port -1, which
means that none is given, comes back as zero. What is read from a URI is an address of that sort
again, so a second reading changes nothing.
-/

namespace SocketMux

open SocketMux.Text

namespace Cluster

/-- A character that may stand in a segment of a host. -/
def isSegmentChar (char : Char) : Bool := Uri.isSchemeChar char && char != '.'

/-- Words are written in such characters. -/
theorem isSegmentChar_of_word {word : List Char}
    (written : ∀ char ∈ word, Numeral.isWordChar char = true) :
    word.all isSegmentChar = true := by
  rw [List.all_eq_true]
  intro char member
  rcases Bool.or_eq_true_iff.mp (written char member) with digit | letter
  · have bounds : '0' ≤ char ∧ char ≤ '9' := by
      simpa [Char.isDigit, Char.le_def] using digit
    have dot : char ≠ '.' := by
      rintro rfl
      exact absurd digit (by decide)
    simp [isSegmentChar, Uri.isSchemeChar, bounds.1, bounds.2, dot]
  · have table : "abcdefx".toList.all isSegmentChar = true := by decide
    exact List.all_eq_true.mp table char (List.contains_iff_mem.mp letter)

theorem Scope.token_isSegment (scope : Scope) : scope.token.all isSegmentChar = true := by
  cases scope with
  | other value => exact isSegmentChar_of_word fun _ => Numeral.isWordChar_of_mem_compactWord
  | _ => decide

theorem Kind.token_isSegment (kind : Kind) : kind.token.all isSegmentChar = true := by
  cases kind with
  | other value => exact isSegmentChar_of_word fun _ => Numeral.isWordChar_of_mem_compactWord
  | _ => decide

namespace Fields

/-- The first segment of a host that shows a kind. -/
def headSegment (fields : Fields) : List Char :=
  (if fields.scopeImplied then [] else fields.scope.token ++ ['-']) ++ fields.kind.token

/-- The numeric fields that a host shows. -/
def shownNumbers (fields : Fields) : List UInt32 :=
  [fields.a, fields.b] ++ if fields.c ≠ 0 ∨ fields.kind = .serviceRange then [fields.c] else []

/-- The segments of a host. -/
def segments (fields : Fields) : List (List Char) :=
  (if fields.scopeImplied ∧ fields.kind = .service then [] else [fields.headSegment]) ++
    fields.shownNumbers.map (hostWord fields.kind)

theorem isWordChar_of_mem_hostWord {kind : Kind} {value : UInt32} {char : Char}
    (member : char ∈ hostWord kind value) : Numeral.isWordChar char = true := by
  unfold hostWord at member
  split at member
  · exact Numeral.isWordChar_of_mem_paddedWord member
  · exact Numeral.isWordChar_of_mem_compactWord member

/-- A numeric field is read back, whichever form its kind gives it. -/
theorem word?_hostWord (kind : Kind) (value : UInt32) :
    Numeral.word? (hostWord kind value) = some value := by
  unfold hostWord
  split
  · exact Numeral.word?_paddedWord value
  · exact Numeral.word?_compactWord value

/-- The characters of segments may stand there. -/
theorem segments_isSegment (fields : Fields) :
    ∀ segment ∈ fields.segments, segment.all isSegmentChar = true := by
  have words : ∀ number ∈ fields.shownNumbers,
      (hostWord fields.kind number).all isSegmentChar = true :=
    fun _ _ => isSegmentChar_of_word fun _ => isWordChar_of_mem_hostWord
  have head : fields.headSegment.all isSegmentChar = true := by
    unfold headSegment
    rw [List.all_append, Kind.token_isSegment, Bool.and_true]
    split
    · rfl
    · rw [List.all_append, Scope.token_isSegment]
      decide
  intro segment member
  unfold segments at member
  rcases List.mem_append.mp member with first | numeral
  · split at first
    · cases first
    · rw [List.mem_singleton.mp first]
      exact head
  · obtain ⟨number, shown, rfl⟩ := List.mem_map.mp numeral
    exact words number shown

theorem intercalate_shownNumbers (fields : Fields) :
    ['.'].intercalate (fields.shownNumbers.map (hostWord fields.kind)) =
      hostWord fields.kind fields.a ++ ['.'] ++ hostWord fields.kind fields.b ++
        if fields.c ≠ 0 ∨ fields.kind = .serviceRange then ['.'] ++ hostWord fields.kind fields.c
        else [] := by
  unfold shownNumbers
  split <;> simp [List.intercalate_cons_cons]

/-- A host is written from its segments. -/
theorem host_eq (fields : Fields) : fields.host = ['.'].intercalate fields.segments := by
  have numerals := fields.intercalate_shownNumbers
  have nonempty : fields.shownNumbers.map (hostWord fields.kind) ≠ [] := by simp [shownNumbers]
  obtain ⟨first, others, shape⟩ := List.exists_cons_of_ne_nil nonempty
  unfold segments
  split
  · next bare =>
    rw [List.nil_append, numerals]
    simp only [host, hostHead, if_pos bare, List.nil_append]
  · next typed =>
    rw [List.singleton_append, shape, List.intercalate_cons_cons, ← shape, numerals]
    simp only [host, hostHead, if_neg typed, headSegment, Kind.token, List.append_assoc]

/-- The numeric fields that are shown denote the three values. -/
theorem values_shownNumbers (fields : Fields) : Values fields.kind
    (fields.shownNumbers.map (hostWord fields.kind)) fields.a fields.b fields.c := by
  have numeral : ∀ value, Numeral.Word (hostWord fields.kind value) value :=
    fun value => Numeral.word?_eq_some_iff.mp (word?_hostWord fields.kind value)
  unfold shownNumbers
  by_cases shown : fields.c ≠ 0 ∨ fields.kind = .serviceRange
  · rw [if_pos shown]
    exact .three (numeral _) (numeral _) (numeral _)
  · obtain ⟨zero, noRange⟩ := not_or.mp shown
    have values : Values fields.kind _ _ _ _ := .two (numeral fields.a) (numeral fields.b)
    rw [if_neg noRange, ← Decidable.not_not.mp zero] at values
    rw [if_neg shown]
    exact values

/-- A scope is only left out where the kind's word implies it. -/
theorem implied_of_scopeImplied {fields : Fields} (implied : fields.scopeImplied = true) :
    fields.kind.token? = some fields.kind.token ∧ fields.scope = Scope.impliedFor fields.kind := by
  obtain ⟨hasWord, same⟩ := Bool.and_eq_true_iff.mp implied
  obtain ⟨word, spelled⟩ := Option.isSome_iff_exists.mp hasWord
  refine ⟨?_, beq_iff_eq.mp same⟩
  unfold Kind.token
  rw [spelled, Option.getD_some]

/-- The first segment denotes the kind and the scope. -/
theorem typed_headSegment {fields : Fields} (named : fields.IsNamed) :
    Typed fields.headSegment fields.kind fields.scope := by
  unfold headSegment
  split
  · next implied =>
    obtain ⟨spelled, same⟩ := implied_of_scopeImplied implied
    rw [same]
    exact .implied spelled
  · have given := Typed.given (Scope.denotes_token named.scope) (Kind.denotes_token named.kind)
    rw [List.append_assoc, List.singleton_append]
    exact given

/-- A host denotes the values that it was written from. -/
theorem hostOf_host {fields : Fields} (named : fields.IsNamed) : HostOf fields.host fields := by
  have values := fields.values_shownNumbers
  rw [host_eq]
  refine .joined ?_
  unfold segments
  split
  · next bare =>
    obtain ⟨_, cluster⟩ := implied_of_scopeImplied bare.1
    obtain ⟨kind, scope, a, b, c⟩ := fields
    obtain ⟨_, rfl⟩ := bare
    cases cluster
    exact .plain values
  · exact .typed (typed_headSegment named) values

/-- A host holds no separator of URIs. -/
theorem isSeparator_of_mem_host {fields : Fields} {char : Char} (member : char ∈ fields.host) :
    Uri.isSeparator char = false := by
  rw [host_eq] at member
  rcases Cut.mem_intercalate member with rfl | ⟨segment, listed, held⟩
  · decide
  · have allowed := List.all_eq_true.mp (fields.segments_isSegment segment listed) char held
    exact Uri.isSeparator_of_plain (Bool.and_eq_true_iff.mp allowed).1

end Fields

end Cluster

namespace ClusterAddress

open Cluster

/-- An address whose values go by their names has a URI under each scheme of the family, from
which the values are read back. -/
theorem exists_uri {fields : Fields} (named : fields.IsNamed) (descriptor : List UInt8)
    (port : Port) {scheme : String} (member : scheme ∈ schemes) :
    ∃ text, (⟨descriptor, fields, port⟩ : ClusterAddress).uri scheme = .ok text ∧
      ofUri text none = .ok (ofFields fields (max port 0)) := by
  obtain ⟨nonempty, plain⟩ := scheme_isPlain member
  have whole : ∀ char ∈ fields.host, Uri.isSeparator char = false :=
    fun _ => Fields.isSeparator_of_mem_host
  have split := Uri.split_shown nonempty plain whole port [] nofun
  rw [List.append_nil] at split
  refine ⟨String.ofList (scheme.toList ++ "://".toList ++ fields.host ++ Uri.portText port),
    if_pos member, ofUri_eq_ok_iff.mpr ⟨fields, max port 0, denotes_iff.mpr ?_, rfl⟩⟩
  rw [String.toList_ofList]
  refine ⟨_, Uri.split_eq_ok_iff.mp split, ?_, Fields.hostOf_host named, Uri.getD_shownPort port⟩
  rw [String.ofList_toList]
  exact member

/-- An address that is read from a URI is one of values that go by their names. -/
theorem exists_fields_of_ofUri {text : String} {address : ClusterAddress}
    (whole : ofUri text none = .ok address) :
    ∃ fields port, fields.IsNamed ∧ 0 ≤ port ∧ address = ofFields fields port := by
  obtain ⟨fields, port, denotes, same⟩ := ofUri_eq_ok_iff.mp whole
  exact ⟨fields, port, denotes.isNamed, denotes.zero_le, same⟩

/-- Addresses and their URIs. Every descriptor of twenty bytes with every port from -1 on is an
address that has a URI under each scheme of the family, and the URI denotes the address, with
zero for a port that is not given. The address of a URI has URIs that all denote it. -/
theorem uris_read_back :
    (∀ (descriptor : List UInt8) (port : Port) (scheme : String),
      descriptor.length = descriptorLength → -1 ≤ port → scheme ∈ schemes →
      ∃ address text, ofDescriptor descriptor port = .ok address ∧
        address.descriptor = descriptor ∧ address.port = port ∧ address.uri scheme = .ok text ∧
        ofUri text none = .ok { address with port := max port 0 }) ∧
    (∀ (text : String) (address : ClusterAddress) (scheme : String),
      ofUri text none = .ok address → scheme ∈ schemes →
      ∃ shown, address.uri scheme = .ok shown ∧ ofUri shown none = .ok address) := by
  constructor
  · intro descriptor port scheme whole least member
    obtain ⟨fields, decoded, named, written⟩ := Fields.decode_of_length whole
    obtain ⟨text, shown, read⟩ := exists_uri named descriptor port member
    refine ⟨⟨descriptor, fields, port⟩, text, ?_, rfl, rfl, shown, ?_⟩
    · exact ofDescriptor_of_decode decoded least
    · rw [read]
      unfold ofFields
      rw [written]
  · intro text address scheme read member
    obtain ⟨fields, port, named, nonNegative, rfl⟩ := exists_fields_of_ofUri read
    obtain ⟨shown, rendered, again⟩ := exists_uri named fields.encode port member
    rw [Port.max_zero_of_le nonNegative] at again
    exact ⟨shown, rendered, again⟩

/-- A kind without a name, a scope with one, a field whose highest bit is set and no port; and
a URI with a user part whose kind has no name either. -/
theorem uris_read_back_unnamed :
    (∃ address text,
      ofDescriptor [0, 0, 0, 77, 0, 0, 0, 3, 255, 0, 0, 1, 0, 0, 0, 0, 0, 0, 0, 9] (-1) =
        .ok address ∧
      address.descriptor = [0, 0, 0, 77, 0, 0, 0, 3, 255, 0, 0, 1, 0, 0, 0, 0, 0, 0, 0, 9] ∧
      address.port = -1 ∧ address.uri "https+tipc" = .ok text ∧
      ofUri text none = .ok { address with port := max (-1) 0 }) ∧
    ofUri "http+tipc://user@node-77.1.2.3:9" none =
      .ok (ofFields ⟨.other 77, .node, 1, 2, 3⟩ 9) ∧
    ∃ shown, (ofFields ⟨.other 77, .node, 1, 2, 3⟩ 9).uri "tipc" = .ok shown ∧
      ofUri shown none = .ok (ofFields ⟨.other 77, .node, 1, 2, 3⟩ 9) := by
  have read : ofUri "http+tipc://user@node-77.1.2.3:9" none =
      .ok (ofFields ⟨.other 77, .node, 1, 2, 3⟩ 9) := by decide +kernel
  exact ⟨uris_read_back.1 _ (-1) "https+tipc" rfl (by decide) (by decide), read,
    uris_read_back.2 _ _ "tipc" read (by decide)⟩

end ClusterAddress

end SocketMux
