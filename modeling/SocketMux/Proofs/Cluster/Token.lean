import SocketMux.Proofs.Cluster.Descriptor
import SocketMux.Proofs.Text.Digits

/-!
# Words and numbers that denote kinds and scopes

A kind is denoted by its word or by its number, a scope likewise (`Kind.Denotes`,
`Scope.Denotes`). A token is read as what it denotes (`Kind.ofToken?_eq_some_iff`,
`Scope.ofToken?_eq_some_iff`), as no word is a number. What is denoted goes by its name, and
what goes by its name is denoted by its own token.
-/

namespace SocketMux.Cluster

open SocketMux.Text

/-- The characters at which a host, and the text that it stands in, is cut. -/
def IsStop (char : Char) : Prop := char = '.' ∨ char = ':'

theorem not_mem_of_word {stop : Char} (stops : IsStop stop) {token : List Char} {value : UInt32}
    (isWord : Numeral.Word token value) : stop ∉ token := by
  rcases stops with rfl | rfl <;> exact isWord.not_mem rfl (by decide)

namespace Kind

/-- The word or number by which a URI denotes a kind. -/
def token (kind : Kind) : List Char := kind.token?.getD (Numeral.compactWord kind.value)

/-- A kind is denoted by its word, if it has one, or by its number. -/
inductive Denotes : List Char → Kind → Prop where
  | word {token : List Char} {kind : Kind} (spelled : kind.token? = some token) :
      Denotes token kind
  | number {token : List Char} {value : UInt32} (numeral : Numeral.Word token value) :
      Denotes token (ofValue value)

variable {token : List Char} {kind : Kind}

/-- No number is found among the words. -/
theorem find?_eq_none {value : UInt32} (numeral : Numeral.Word token value) :
    Kind.named.find? (fun kind => kind.token? == some token) = none := by
  have noNumber : ∀ kind ∈ Kind.named, ∀ word, kind.token? = some word →
      Numeral.word? word = none := by
    decide
  rw [List.find?_eq_none]
  intro kind member same
  exact numeral.ne (noNumber kind member token (beq_iff_eq.mp same)) rfl

theorem ofToken?_eq_some_iff : ofToken? token = some kind ↔ Denotes token kind := by
  unfold ofToken?
  constructor
  · intro read
    split at read
    · next found =>
      cases read
      have same := List.find?_some found
      exact .word (beq_iff_eq.mp same)
    · obtain ⟨value, numeral, rfl⟩ := Option.map_eq_some_iff.mp read
      exact .number (Numeral.word?_eq_some_iff.mp numeral)
  · intro denotes
    cases denotes with
    | word spelled => cases kind <;> cases spelled <;> rfl
    | number numeral =>
      rw [find?_eq_none numeral]
      exact congrArg (Option.map ofValue) (Numeral.word?_eq_some_iff.mpr numeral)

theorem mem_words (spelled : kind.token? = some token) :
    token ∈ Kind.named.filterMap Kind.token? := by
  cases kind <;> cases spelled <;> decide

/-- What is denoted goes by its name. -/
theorem Denotes.isNamed (denotes : Denotes token kind) : kind.IsNamed := by
  cases denotes with
  | word spelled => cases kind <;> cases spelled <;> rfl
  | number numeral => exact isNamed_ofValue _

theorem denotes_token (named : kind.IsNamed) : Denotes kind.token kind := by
  cases kind with
  | other value =>
    have numeral := Numeral.word?_eq_some_iff.mp (Numeral.word?_compactWord value)
    have denotes := Denotes.number numeral
    rw [show ofValue value = other value from named] at denotes
    exact denotes
  | _ => exact .word rfl

theorem Denotes.not_mem {stop : Char} (denotes : Denotes token kind) (stops : IsStop stop) :
    stop ∉ token := by
  cases denotes with
  | word spelled =>
    rcases stops with rfl | rfl <;> cases kind <;> cases spelled <;> decide
  | number numeral => exact not_mem_of_word stops numeral

end Kind

namespace Scope

/-- A scope is denoted by its word, if it has one, or by its number. -/
inductive Denotes : List Char → Scope → Prop where
  | cluster : Denotes "cluster".toList cluster
  | node : Denotes "node".toList node
  | notSpecified : Denotes "default".toList notSpecified
  | number {token : List Char} {value : UInt32} (numeral : Numeral.Word token value) :
      Denotes token (ofValue value)

variable {token : List Char} {scope : Scope}

theorem ofToken?_eq_some_iff : ofToken? token = some scope ↔ Denotes token scope := by
  unfold ofToken?
  constructor
  · intro read
    split at read
    · next same =>
      cases read
      exact same ▸ .cluster
    · split at read
      · next same =>
        cases read
        exact same ▸ .node
      · split at read
        · next same =>
          cases read
          exact same ▸ .notSpecified
        · obtain ⟨value, numeral, rfl⟩ := Option.map_eq_some_iff.mp read
          exact .number (Numeral.word?_eq_some_iff.mp numeral)
  · intro denotes
    cases denotes with
    | number numeral =>
      have notCluster : token ≠ "cluster".toList := numeral.ne (by decide)
      have notNode : token ≠ "node".toList := numeral.ne (by decide)
      have notDefault : token ≠ "default".toList := numeral.ne (by decide)
      rw [if_neg notCluster, if_neg notNode, if_neg notDefault,
        Numeral.word?_eq_some_iff.mpr numeral, Option.map_some]
    | _ => decide

/-- What is denoted goes by its name. -/
theorem Denotes.isNamed (denotes : Denotes token scope) : scope.IsNamed := by
  cases denotes with
  | number numeral => exact isNamed_ofValue _
  | _ => rfl

theorem denotes_token (named : scope.IsNamed) : Denotes scope.token scope := by
  cases scope with
  | cluster => exact .cluster
  | node => exact .node
  | notSpecified => exact .notSpecified
  | other value =>
    have numeral := Numeral.word?_eq_some_iff.mp (Numeral.word?_compactWord value)
    have denotes := Denotes.number numeral
    rw [show ofValue value = other value from named] at denotes
    exact denotes

theorem Denotes.not_mem {stop : Char} (denotes : Denotes token scope) (stops : IsStop stop) :
    stop ∉ token := by
  cases denotes with
  | number numeral => exact not_mem_of_word stops numeral
  | _ => rcases stops with rfl | rfl <;> decide

theorem Denotes.hyphen_not_mem (denotes : Denotes token scope) : '-' ∉ token := by
  cases denotes with
  | number numeral => exact numeral.not_mem rfl (by decide)
  | _ => decide

theorem Denotes.ne_nil (denotes : Denotes token scope) : token ≠ [] := by
  rintro rfl
  cases ofToken?_eq_some_iff.mpr denotes

theorem isNamed_impliedFor (kind : Kind) : (impliedFor kind).IsNamed := by
  cases kind <;> rfl

end Scope

end SocketMux.Cluster
