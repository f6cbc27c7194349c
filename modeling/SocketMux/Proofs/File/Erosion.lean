import SocketMux.Proofs.File.Lookup

/-!
# Trees that only lose links

Listeners clear entries that are no directories and put socket files at free entries. A
tree that changes in these two ways keeps all its directories and never gets a new link
(`FileTree.Erodes`), so a path that leads to an entry now has led there all the time; it
led astray in between only if a link that it passes through was cleared.
-/

namespace SocketMux.FileTree

/-- A later tree has the same directories, no new links and no smaller numbers to give. -/
structure Erodes (before after : FileTree) : Prop where
  passages : after.PassagesWithin before
  directories : ∀ place node, before.get? place = some node → node.kind = .directory →
    after.get? place = some node
  next : before.nextNumber ≤ after.nextNumber
  /-- Every file has stood where it stands, or it got its number since. -/
  fresh : ∀ place node, after.get? place = some node →
    before.get? place = some node ∨
      (before.nextNumber ≤ node.number ∧ node.number < after.nextNumber)

/-- The numbers of all files in a tree were given. -/
def Numbered (tree : FileTree) : Prop :=
  ∀ place node, tree.get? place = some node → node.number < tree.nextNumber

theorem Numbered.of_entries {tree : FileTree} (some_given : 0 < tree.nextNumber)
    (given : ∀ entry ∈ tree.entries, entry.2.number < tree.nextNumber) : tree.Numbered := by
  intro place node found
  obtain rfl | listed := eq_root_or_mem found
  · exact some_given
  · exact given _ listed

/-- The root alone has a number that was given. -/
theorem Numbered.bare : FileTree.bare.Numbered := .of_entries Nat.one_pos nofun

namespace Erodes

theorem refl (tree : FileTree) : Erodes tree tree :=
  ⟨.refl tree, fun _ _ found _ => found, Nat.le_refl _, fun _ _ found => .inl found⟩

theorem trans {first second third : FileTree} (former : Erodes first second)
    (latter : Erodes second third) : Erodes first third where
  passages := latter.passages.trans former.passages
  directories place node found kind :=
    latter.directories place node (former.directories place node found kind) kind
  next := Nat.le_trans former.next latter.next
  fresh place node found := by
    have early := former.next
    have late := latter.next
    obtain between | ⟨least, most⟩ := latter.fresh place node found
    · obtain there | ⟨least, most⟩ := former.fresh place node between
      · exact .inl there
      · exact .inr ⟨least, by omega⟩
    · exact .inr ⟨by omega, most⟩

/-- The numbers of a later tree were given, too. -/
theorem numbered {before after : FileTree} (erodes : Erodes before after)
    (numbered : before.Numbered) : after.Numbered := by
  intro place node found
  obtain there | ⟨-, most⟩ := erodes.fresh place node found
  · exact Nat.lt_of_lt_of_le (numbered place node there) erodes.next
  · exact most

/-- An entry that is no directory may be cleared, or taken by a file that is no passage. -/
theorem of_entry {before after : FileTree} (place : Place)
    (elsewhere : ∀ other, other ≠ place → after.get? other = before.get? other)
    (here : ∀ node, after.get? place = some node → node.kind.isPassage = false ∧
      before.nextNumber ≤ node.number ∧ node.number < after.nextNumber)
    (noDirectory : ∀ node, before.get? place = some node → node.kind ≠ .directory)
    (next : before.nextNumber ≤ after.nextNumber) : Erodes before after := by
  refine ⟨?_, ?_, next, ?_⟩
  · intro other node found passage
    by_cases asked : other = place
    · subst asked
      rw [(here node found).1] at passage
      cases passage
    · rwa [elsewhere other asked] at found
  · intro other node found kind
    by_cases asked : other = place
    · subst asked
      exact absurd kind (noDirectory node found)
    · rwa [elsewhere other asked]
  · intro other node found
    by_cases asked : other = place
    · subst asked
      exact .inr (here node found).2
    · exact .inl (elsewhere other asked ▸ found)

/-- A path that leads to an entry has led there before. -/
theorem locateEntry {before after : FileTree} (erodes : Erodes before after) {path : Path}
    {place : Place} (located : after.locateEntry path = .ok place) :
    before.locateEntry path = .ok place :=
  locateEntry_within erodes.passages located

end Erodes

/-- All links of a tree stand in another one. -/
def KeepsLinks (before after : FileTree) : Prop :=
  ∀ place node target, before.get? place = some node → node.kind = .link target →
    after.get? place = some node

/-- A bare tree has no links. -/
theorem KeepsLinks.bare (after : FileTree) : FileTree.bare.KeepsLinks after := by
  intro place node target found link
  obtain rfl | listed := eq_root_or_mem found
  · cases link
  · cases listed

/-- As long as all links stand, all paths lead where they led. -/
theorem Erodes.locateEntry_iff {before after : FileTree} (erodes : Erodes before after)
    (links : before.KeepsLinks after) {path : Path} {place : Place} :
    after.locateEntry path = .ok place ↔ before.locateEntry path = .ok place := by
  refine ⟨erodes.locateEntry, locateEntry_within ?_⟩
  intro other node found passage
  obtain ⟨number, kind⟩ := node
  cases kind with
  | directory => exact erodes.directories other _ found rfl
  | link target => exact links other _ target found rfl
  | regular | socket => cases passage

/-- The root is a directory. -/
theorem ne_root_of_not_directory {tree : FileTree} {place : Place}
    (noDirectory : ∀ node, tree.get? place = some node → node.kind ≠ .directory) :
    place ≠ [] := by
  rintro rfl
  exact noDirectory root rfl rfl

/-- What is removed is the entry of the path, which is no directory. -/
theorem unlink_ok {tree after : FileTree} {path : Path} (removed : tree.unlink path = .ok after) :
    ∃ place node, tree.locateEntry path = .ok place ∧ tree.get? place = some node ∧
      node.kind ≠ .directory ∧ endsWithSlash path = false ∧ after = tree.erase place := by
  unfold unlink at removed
  cases located : tree.locateEntry path with
  | error fault => rw [located] at removed; cases removed
  | ok place =>
    simp only [located, bind, Except.bind] at removed
    cases present : tree.get? place with
    | none => rw [present] at removed; cases removed
    | some node =>
      simp only [present] at removed
      split at removed
      · cases removed
      · next noDirectory =>
        split at removed
        · cases removed
        · next noSlash =>
          injection removed with removed
          exact ⟨place, node, rfl, present, noDirectory, by simpa using noSlash, removed.symm⟩

/-- Where there is something at the entry of a path, a removal does not find it missing. -/
theorem unlink_error {tree : FileTree} {path : Path} {fault : Fault} {place : Place}
    (failed : tree.unlink path = .error fault) (missing : fault.kind = .notFound)
    (located : tree.locateEntry path = .ok place) : tree.get? place = none := by
  unfold unlink at failed
  simp only [located, bind, Except.bind] at failed
  cases present : tree.get? place with
  | none => rfl
  | some node =>
    simp only [present] at failed
    split at failed
    · injection failed with failed
      rw [← failed] at missing
      exact absurd missing (by decide)
    · split at failed
      · injection failed with failed
        rw [← failed] at missing
        exact absurd missing (by decide)
      · cases failed

/-- A socket file is made at a free entry under the next number. -/
theorem makeSocket_ok {tree after : FileTree} {path : Path} {number : Nat}
    (made : tree.makeSocket path = .ok (number, after)) :
    ∃ place, tree.locateEntry path = .ok place ∧ tree.get? place = none ∧
      endsWithSlash path = false ∧ number = tree.nextNumber ∧
        after = tree.insert place .socket := by
  unfold makeSocket freePlace at made
  cases located : tree.locateEntry path with
  | error fault => rw [located] at made; cases made
  | ok place =>
    simp only [located, bind, Except.bind] at made
    cases present : tree.get? place with
    | some node => rw [present] at made; cases made
    | none =>
      simp only [present] at made
      split at made
      · cases made
      · next noSlash =>
        split at noSlash
        · cases noSlash
        · next ends =>
          injection noSlash with here
          injection made with made
          obtain ⟨number_eq, after_eq⟩ := Prod.mk.inj made
          subst here
          exact ⟨place, rfl, present, by simpa using ends, number_eq.symm, after_eq.symm⟩

end SocketMux.FileTree
