import SocketMux.Text.Numeral

/-!
# Address kinds and scopes of the cluster family

Kinds and scopes are 32-bit numbers, some of which have names. A number without a
name is kept as it is, so reading and writing a descriptor loses nothing.
-/

namespace SocketMux.Cluster

open SocketMux.Text

/-- What the fields of an address denote. -/
inductive Kind where
  | serviceRange
  | service
  | socket
  | other (value : UInt32)
deriving DecidableEq, Repr, Hashable

/-- How far an address is visible. -/
inductive Scope where
  | notSpecified
  | cluster
  | node
  | other (value : UInt32)
deriving DecidableEq, Repr, Hashable

namespace Kind

/-- The kind of a number. -/
def ofValue (value : UInt32) : Kind :=
  if value = 1 then serviceRange
  else if value = 2 then service
  else if value = 3 then socket
  else other value

/-- The number of a kind. -/
def value : Kind → UInt32
  | serviceRange => 1
  | service => 2
  | socket => 3
  | other value => value

/-- The constant name of a named kind. -/
def name? : Kind → Option String
  | serviceRange => some "SERVICE_RANGE"
  | service => some "SERVICE_ADDR"
  | socket => some "SOCKET_ADDR"
  | other _ => none

/-- The kind with a constant name. -/
def ofName? (name : String) : Option Kind :=
  [serviceRange, service, socket].find? fun kind => kind.name? == some name

/-- The word that a URI uses for a named kind. -/
def token? : Kind → Option (List Char)
  | service => some "service".toList
  | serviceRange => some "service-range".toList
  | socket => some "socket".toList
  | other _ => none

/-- The named kinds in the order in which a URI's head is searched for their words:
the longer word before the one it ends in the start of. -/
def named : List Kind := [serviceRange, service, socket]

/-- The kind that a URI denotes by a word or a number. -/
def ofToken? (token : List Char) : Option Kind :=
  match named.find? fun kind => kind.token? == some token with
  | some kind => some kind
  | none => (Numeral.word? token).map ofValue

/-- A kind as text: its name with its number, or the number alone. -/
def display (kind : Kind) : String :=
  match kind.name? with
  | some name => s!"{name}({kind.value})"
  | none => s!"{kind.value}"

/-- Every number comes back from its kind. -/
@[simp] theorem value_ofValue (value : UInt32) : (ofValue value).value = value := by
  unfold ofValue
  split
  · next equal => rw [equal]; rfl
  · split
    · next equal => rw [equal]; rfl
    · split
      · next equal => rw [equal]; rfl
      · rfl

end Kind

namespace Scope

/-- The scope of a number. -/
def ofValue (value : UInt32) : Scope :=
  if value = 0 then notSpecified
  else if value = 2 then cluster
  else if value = 3 then node
  else other value

/-- The number of a scope. -/
def value : Scope → UInt32
  | notSpecified => 0
  | cluster => 2
  | node => 3
  | other value => value

/-- The constant name of a named scope. -/
def name? : Scope → Option String
  | notSpecified => some "SCOPE_NOT_SPECIFIED"
  | cluster => some "SCOPE_CLUSTER"
  | node => some "SCOPE_NODE"
  | other _ => none

/-- The scope with a constant name. -/
def ofName? (name : String) : Option Scope :=
  [notSpecified, cluster, node].find? fun scope => scope.name? == some name

/-- The word or number by which a URI denotes a scope. -/
def token : Scope → List Char
  | cluster => "cluster".toList
  | node => "node".toList
  | notSpecified => "default".toList
  | other value => Numeral.compactWord value

/-- The scope that a URI denotes by a word or a number. -/
def ofToken? (token : List Char) : Option Scope :=
  if token = "cluster".toList then some cluster
  else if token = "node".toList then some node
  else if token = "default".toList then some notSpecified
  else (Numeral.word? token).map ofValue

/-- The scope of an address whose URI gives none. -/
def impliedFor : Kind → Scope
  | .service | .serviceRange => cluster
  | .socket | .other _ => notSpecified

/-- A scope as text: its name with its number, or the number alone. -/
def display (scope : Scope) : String :=
  match scope.name? with
  | some name => s!"{name}({scope.value})"
  | none => s!"{scope.value}"

/-- Every number comes back from its scope. -/
@[simp] theorem value_ofValue (value : UInt32) : (ofValue value).value = value := by
  unfold ofValue
  split
  · next equal => rw [equal]; rfl
  · split
    · next equal => rw [equal]; rfl
    · split
      · next equal => rw [equal]; rfl
      · rfl

end Scope

end SocketMux.Cluster
