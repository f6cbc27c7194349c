import SocketMux.Error

/-!
# Shutdown coordinators

A coordinator lists hooks that want to run before the program ends. It does not keep
them alive: each entry only names a hook, and whoever runs the entries decides which
hooks are still alive. Entries are kept in the order of their numbers, which a counter of
64 bits gives: a number is given again only when the counter has come around.
-/

namespace SocketMux

/-- The number of an entry. -/
abbrev HookId := UInt64

/-- The next number, while the counter has not come around. -/
theorem HookId.toNat_next {id : HookId} (room : id.toNat + 1 < UInt64.size) :
    (id + 1).toNat = id.toNat + 1 := by
  rw [UInt64.toNat_add]
  exact Nat.mod_eq_of_lt room

/-- A counter that goes up gives a number once. -/
theorem HookId.lt_next {id : HookId} (up : id ≤ id + 1) : id < id + 1 := by
  grind

/-- The listed hooks, in the order of their numbers. -/
structure ShutdownCoordinator (Hook : Type) where
  nextId : HookId
  entries : List (HookId × Hook)
deriving DecidableEq, Repr

namespace ShutdownCoordinator

variable {Hook : Type}

/-- The coordinator without entries. -/
def empty : ShutdownCoordinator Hook := ⟨0, []⟩

/-- The entries with one more among them. An earlier one of its number gives way. -/
def insert (id : HookId) (hook : Hook) (entries : List (HookId × Hook)) : List (HookId × Hook) :=
  entries.filter (·.1 < id) ++ (id, hook) :: entries.filter (id < ·.1)

/-- List a hook under the next number. -/
def register (coordinator : ShutdownCoordinator Hook) (hook : Hook) :
    HookId × ShutdownCoordinator Hook :=
  (coordinator.nextId,
    ⟨coordinator.nextId + 1, insert coordinator.nextId hook coordinator.entries⟩)

/-- Whether an entry is listed. -/
def lists (coordinator : ShutdownCoordinator Hook) (id : HookId) : Bool :=
  coordinator.entries.any fun entry => entry.1 == id

/-- Remove an entry, and tell whether it was listed. -/
def deregister (coordinator : ShutdownCoordinator Hook) (id : HookId) :
    Bool × ShutdownCoordinator Hook :=
  (coordinator.lists id,
    { coordinator with entries := coordinator.entries.filter fun entry => entry.1 != id })

/-- Remove the entries of hooks that are no longer alive. -/
def prune (coordinator : ShutdownCoordinator Hook) (alive : Hook → Bool) :
    ShutdownCoordinator Hook :=
  { coordinator with entries := coordinator.entries.filter fun entry => alive entry.2 }

/-- Take all entries out, as a shutdown does when it begins. -/
def takeAll (coordinator : ShutdownCoordinator Hook) :
    List (HookId × Hook) × ShutdownCoordinator Hook :=
  (coordinator.entries, { coordinator with entries := [] })

/-- The number of entries. -/
def size (coordinator : ShutdownCoordinator Hook) : Nat := coordinator.entries.length

/-- An entry whose number comes after all others is the last one. -/
theorem insert_last {id : HookId} {entries : List (HookId × Hook)}
    (before : ∀ entry ∈ entries, entry.1 < id) (hook : Hook) :
    insert id hook entries = entries ++ [(id, hook)] := by
  have all : (entries.filter (·.1 < id)) = entries :=
    List.filter_eq_self.mpr fun entry member => decide_eq_true (before entry member)
  have none : (entries.filter (id < ·.1)) = [] :=
    List.filter_eq_nil_iff.mpr fun entry member => by
      simpa using UInt64.le_of_lt (before entry member)
  rw [insert, all, none]

/-- An entry stays where it is while one of a later number is added. -/
theorem mem_insert_of_lt {id : HookId} {entry : HookId × Hook} {entries : List (HookId × Hook)}
    (before : entry.1 < id) (hook : Hook) : entry ∈ insert id hook entries ↔ entry ∈ entries := by
  have other : entry ≠ (id, hook) := by
    rintro rfl
    exact UInt64.lt_irrefl _ before
  have notAfter : ¬id < entry.1 := UInt64.not_lt.mpr (UInt64.le_of_lt before)
  simp only [insert, List.mem_append, List.mem_cons, List.mem_filter, decide_eq_true_iff, other,
    before, notAfter, and_true, and_false, or_false]

/-- A new entry is listed beside the others. -/
theorem lists_register (coordinator : ShutdownCoordinator Hook) (hook : Hook) (id : HookId) :
    (coordinator.register hook).2.lists id =
      (coordinator.lists id || coordinator.nextId == id) := by
  rw [Bool.eq_iff_iff]
  simp only [register, insert, lists, List.any_append, List.any_cons, List.any_filter,
    Bool.or_eq_true, List.any_eq_true, Bool.and_eq_true, decide_eq_true_iff, beq_iff_eq]
  constructor
  · rintro (⟨entry, member, -, same⟩ | same | ⟨entry, member, -, same⟩)
    · exact .inl ⟨entry, member, same⟩
    · exact .inr same
    · exact .inl ⟨entry, member, same⟩
  · rintro (⟨entry, member, same⟩ | same)
    · by_cases less : entry.1 < coordinator.nextId
      · exact .inl ⟨entry, member, less, same⟩
      · by_cases greater : coordinator.nextId < entry.1
        · exact .inr (.inr ⟨entry, member, greater, same⟩)
        · have equal := UInt64.le_antisymm (UInt64.not_lt.mp less) (UInt64.not_lt.mp greater)
          exact .inr (.inl (equal.trans same))
    · exact .inr (.inl same)

/-- A removed entry is no longer listed, and the others are. -/
theorem lists_deregister (coordinator : ShutdownCoordinator Hook) (id other : HookId) :
    (coordinator.deregister id).2.lists other = (coordinator.lists other && other != id) := by
  by_cases same : other = id
  · simp [deregister, lists, same]
  · have differs : (other != id) = true := by simp [same]
    rw [differs, Bool.and_true]
    simp only [deregister, lists, List.any_filter]
    congr 1
    funext entry
    by_cases found : entry.1 = other
    · simp [found, same]
    · simp [found]

/-- A coordinator as text. -/
def display (coordinator : ShutdownCoordinator Hook) : String :=
  s!"ShutdownCoordinator \x7b registered: {coordinator.size} \x7d"

end ShutdownCoordinator

/-- The record of a hook that ran, with its failure if it failed. -/
structure ShutdownRecord where
  label : String
  failure : Option MuxError
deriving Repr

/-- What a shutdown did: the hooks that ran, in order, and the number of entries whose
hook was gone. -/
structure ShutdownReport where
  records : List ShutdownRecord
  pruned : Nat
deriving Repr

namespace ShutdownReport

/-- The report of a shutdown that has visited nothing yet. -/
def empty : ShutdownReport := ⟨[], 0⟩

/-- Count an entry whose hook was gone. -/
def prune (report : ShutdownReport) : ShutdownReport := { report with pruned := report.pruned + 1 }

/-- Add the record of a hook that ran. -/
def add (report : ShutdownReport) (label : String) (failure : Option MuxError) : ShutdownReport :=
  { report with records := report.records ++ [⟨label, failure⟩] }

/-- The number of hooks that failed. -/
def failures (report : ShutdownReport) : Nat :=
  (report.records.filter fun record => record.failure.isSome).length

end ShutdownReport

end SocketMux
