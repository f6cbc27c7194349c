import SocketMux.Proofs.Host.Binding
import SocketMux.Proofs.Layout

/-!
# Removing files beside each other

A removal that asks for a number clears one entry, or none, or fails
(`Host.removeNumbered_eq`). Removals along paths to one entry, or to entries of one directory,
do not get into each other's way as long as none of them clears a link on the way: what one of
them clears is at most cleared already when the other one comes to it
(`FileTree.Neighbours.ownEntry_clear`). The socket files of a layout are such neighbours
(`SocketLayout.neighbours_of_make`).
-/

namespace SocketMux

namespace FileTree

/-- Where a name leads from a directory. -/
def entryIn (directory : Place) (name : FileName) : Except Fault Place :=
  if maxName < name.length then .error (.system Errno.nameTooLong)
  else .ok (directory ++ [name])

section Beside

variable {tree : FileTree} {jump : Place → Path → List FileName → Except Fault Place}
  {name other : FileName}

/-- In a directory the last name leads to its entry. -/
theorem walkNames_entryIn {place : Place} (directory : tree.isDirectory place = true)
    (entryName : IsEntryName name) :
    tree.walkNames false jump place [name] = entryIn place name := by
  unfold entryIn
  split
  · next long =>
    refine Eq.trans (if_neg (by simp [directory])) ?_
    refine Eq.trans (if_neg entryName.notCurrent) ?_
    exact Eq.trans (if_neg entryName.notParent) (if_pos long)
  · next short => exact walkNames_single directory entryName (by omega)

/-- A walk that comes to an entry comes to all entries beside it. -/
theorem walkNames_beside (entryName : IsEntryName name) (otherName : IsEntryName other)
    (jumps : ∀ place target names found, jump place target (names ++ [name]) = .ok found →
      ∃ directory, found = directory ++ [name] ∧
        jump place target (names ++ [other]) = entryIn directory other)
    {names : List FileName} {place found : Place}
    (walked : tree.walkNames false jump place (names ++ [name]) = .ok found) :
    ∃ directory, found = directory ++ [name] ∧
      tree.walkNames false jump place (names ++ [other]) = entryIn directory other := by
  induction names generalizing place with
  | nil =>
    rw [List.nil_append] at walked ⊢
    have directory := (walkNames_cons walked).1
    rw [walkNames_entryIn directory entryName] at walked
    refine ⟨place, ?_, walkNames_entryIn directory otherName⟩
    unfold entryIn at walked
    split at walked
    · cases walked
    · exact (Except.ok.inj walked).symm
  | cons first names inductionHypothesis =>
    have more : ∀ last : FileName, names ++ [last] ≠ [] := by simp
    obtain ⟨directory, ⟨rfl, stayed⟩ | ⟨notCurrent, rfl, climbed⟩ | ⟨firstName, short⟩⟩ :=
      walkNames_cons walked
    · rw [List.cons_append, walkNames, if_neg (by simp [directory]), if_pos rfl]
      exact inductionHypothesis stayed
    · rw [List.cons_append, walkNames, if_neg (by simp [directory]), if_neg notCurrent,
        if_pos rfl]
      exact inductionHypothesis climbed
    · rw [List.cons_append, walkNames_entry _ directory firstName short] at walked ⊢
      cases entry : tree.get? (place ++ [first]) with
      | none => simp [entry] at walked
      | some node =>
        rw [entry] at walked
        obtain ⟨number, kind⟩ := node
        cases kind with
        | directory | regular | socket => exact inductionHypothesis walked
        | link target =>
          simp only [more, false_and, if_false] at walked ⊢
          exact jumps _ _ _ _ walked

theorem walk_beside (entryName : IsEntryName name) (otherName : IsEntryName other) {links : Nat}
    {place found : Place} {names : List FileName}
    (walked : tree.walk false links place (names ++ [name]) = .ok found) :
    ∃ directory, found = directory ++ [name] ∧
      tree.walk false links place (names ++ [other]) = entryIn directory other := by
  induction links generalizing place found names with
  | zero =>
    exact walkNames_beside entryName otherName (fun _ _ _ _ failed => by cases failed) walked
  | succ links inductionHypothesis =>
    refine walkNames_beside entryName otherName (fun _ target names found jumped => ?_) walked
    rw [← List.append_assoc] at jumped ⊢
    exact inductionHypothesis jumped

end Beside

/-- Two paths to one entry, or to entries of one directory. -/
inductive Neighbours : Path → Path → Prop
  | same (path : Path) : Neighbours path path
  | beside {first second : Path} {directory : List FileName} {name other : FileName}
      (entryName : IsEntryName name) (otherName : IsEntryName other)
      (former : namesOf first = directory ++ [name])
      (latter : namesOf second = directory ++ [other]) : Neighbours first second

/-- Removing a file that is no passage removes no passage. -/
theorem passagesWithin_erase {tree : FileTree} {place : Place}
    (noPassage : ∀ node, tree.get? place = some node → node.kind.isPassage = false) :
    tree.PassagesWithin (tree.erase place) := by
  intro other node found passage
  have below : place ≠ [] := by
    rintro rfl
    cases noPassage root rfl
  have apart : other ≠ place := by
    rintro rfl
    rw [noPassage node found] at passage
    cases passage
  rw [get?_erase _ _ below, if_neg apart]
  exact found

/-- Removing an entry leaves alone where its neighbours are, if it leaves the way to the entry. -/
theorem Neighbours.locateEntry_erase {tree : FileTree} {first second : Path} {place : Place}
    (neighbours : Neighbours first second) (located : tree.locateEntry first = .ok place)
    (still : (tree.erase place).locateEntry first = .ok place) :
    (tree.erase place).locateEntry second = tree.locateEntry second := by
  cases neighbours with
  | same => rw [still, located]
  | beside entryName otherName former latter =>
    unfold locateEntry at located still ⊢
    rw [former] at located still
    rw [latter]
    cases checked : checkPath first with
    | error fault => rw [checked] at located; cases located
    | ok =>
      rw [checked] at located still
      obtain ⟨directory, rfl, before⟩ := walk_beside entryName otherName located
      obtain ⟨again, same, after⟩ := walk_beside entryName otherName still
      obtain rfl := List.append_cancel_right same
      rw [before, after]

/-- The entry that a removal along a path clears if it asks for a number, if it clears one. -/
def ownEntry (tree : FileTree) (path : Path) (number : Nat) : Except Fault (Option Place) :=
  match tree.find false path with
  | .error fault => if fault.kind = .notFound then .ok none else .error fault
  | .ok node =>
    if node.number = number then
      match tree.unlink path with
      | .error fault => if fault.kind = .notFound then .ok none else .error fault
      | .ok _ => (tree.locateEntry path).map some
    else .ok none

/-- Clear an entry, if there is one to clear. -/
def clear (tree : FileTree) (entry : Option Place) : FileTree := entry.elim tree tree.erase

theorem erase_comm (tree : FileTree) (first second : Place) :
    (tree.erase first).erase second = (tree.erase second).erase first := by
  simp only [erase, Keyed.erase, List.filter_filter, Bool.and_comm]

/-- What a path without a slash at its end removes is the file at its entry, if this has the
number and is no directory. -/
theorem ownEntry_of_noSlash {tree : FileTree} {path : Path}
    (noSlash : endsWithSlash path = false) (number : Nat) :
    tree.ownEntry path number =
      match tree.locateEntry path with
      | .error fault => if fault.kind = .notFound then .ok none else .error fault
      | .ok place =>
        match tree.get? place with
        | none => .ok none
        | some node =>
          if node.number = number then
            if node.kind = .directory then .error (.system Errno.isDirectory) else .ok (some place)
          else .ok none := by
  have same : tree.locate false path = tree.locateEntry path := by
    unfold locate locateEntry route
    rw [noSlash]
    rfl
  unfold ownEntry find unlink
  rw [same]
  cases tree.locateEntry path with
  | error fault => rfl
  | ok place =>
    simp only [bind, Except.bind, pure, Except.pure]
    cases tree.get? place with
    | none => rfl
    | some node =>
      simp only [noSlash, Bool.false_eq_true, if_false]
      by_cases numbered : node.number = number
      · by_cases directory : node.kind = .directory
        · simp only [numbered, directory, if_true]
          rfl
        · simp only [numbered, directory, if_true, if_false]
          rfl
      · simp only [numbered, if_false]

/-- What is removed is the file with the number at the entry of the path. -/
theorem ownEntry_eq_some {tree : FileTree} {path : Path} {number : Nat} {place : Place}
    (own : tree.ownEntry path number = .ok (some place)) :
    endsWithSlash path = false ∧ tree.locateEntry path = .ok place ∧
      ∃ node, tree.get? place = some node ∧ node.number = number ∧ node.kind ≠ .directory := by
  have noSlash : endsWithSlash path = false := by
    unfold ownEntry at own
    split at own
    · split at own <;> cases own
    · split at own
      · split at own
        · split at own <;> cases own
        · next removed =>
          obtain ⟨-, -, -, -, -, noSlash, -⟩ := unlink_ok removed
          exact noSlash
      · cases own
  rw [ownEntry_of_noSlash noSlash] at own
  split at own
  · split at own <;> cases own
  · next located =>
    split at own
    · cases own
    · next node present =>
      split at own
      · next numbered =>
        split at own
        · cases own
        · next noDirectory =>
          obtain rfl := Option.some.inj (Except.ok.inj own)
          exact ⟨noSlash, located, node, present, numbered, noDirectory⟩
      · cases own

/-- The entry that is left to clear after another one was cleared. -/
def leftToClear (cleared entry : Option Place) : Option Place :=
  if entry = cleared then none else entry

/-- Where nothing was cleared everything is left. -/
theorem map_leftToClear_none (own : Except Fault (Option Place)) :
    own.map (leftToClear none) = own := by
  have same : leftToClear none = id := by
    funext entry
    cases entry <;> rfl
  rw [same]
  cases own <;> rfl

/-- The entry that a path removes is no root. -/
theorem ownEntry_ne_root {tree : FileTree} {path : Path} {number : Nat} {place : Place}
    (own : tree.ownEntry path number = .ok (some place)) : place ≠ [] := by
  obtain ⟨-, -, node, present, -, noDirectory⟩ := ownEntry_eq_some own
  rintro rfl
  obtain rfl : root = node := Option.some.inj present
  exact noDirectory rfl

/-- Clearing an entry leaves to its neighbours what they are to clear, if it is another one. -/
theorem Neighbours.ownEntry_clear {tree : FileTree} {first second : Path}
    (neighbours : Neighbours first second) (slash : endsWithSlash second = endsWithSlash first)
    {number : Nat} (still : ∀ place, tree.ownEntry first number = .ok (some place) →
      (tree.erase place).locateEntry first = .ok place) (other : Nat) :
    let cleared := (tree.ownEntry first number).toOption.join
    (tree.clear cleared).ownEntry second other =
      (tree.ownEntry second other).map (leftToClear cleared) := by
  intro cleared
  have nothing : cleared = none → (tree.clear cleared).ownEntry second other =
      (tree.ownEntry second other).map (leftToClear cleared) := by
    intro none
    rw [none, map_leftToClear_none]
    rfl
  match own : tree.ownEntry first number with
  | .error fault => exact nothing (by simp [cleared, own, Except.toOption])
  | .ok none => exact nothing (by simp [cleared, own, Except.toOption])
  | .ok (some place) =>
    have here : cleared = some place := by simp [cleared, own, Except.toOption]
    obtain ⟨noSlash, located, node, present, -, noDirectory⟩ := ownEntry_eq_some own
    have below := ownEntry_ne_root own
    rw [here]
    change (tree.erase place).ownEntry second other = _
    rw [ownEntry_of_noSlash (slash.trans noSlash), ownEntry_of_noSlash (slash.trans noSlash),
      neighbours.locateEntry_erase located (still place own)]
    cases tree.locateEntry second with
    | error fault =>
      simp only
      split <;> rfl
    | ok there =>
      simp only [get?_erase _ _ below]
      by_cases asked : there = place
      · subst asked
        simp only [if_true, present, noDirectory, if_false]
        split
        · simp [Except.map, leftToClear]
        · rfl
      · simp only [asked, if_false]
        cases tree.get? there with
        | none => rfl
        | some found =>
          simp only
          split
          · split
            · rfl
            · simp [Except.map, leftToClear, asked]
          · rfl

/-- Which of two entries is cleared first does not matter. -/
theorem clear_comm (tree : FileTree) (first second : Option Place) :
    (tree.clear first).clear (leftToClear first second) =
      (tree.clear second).clear (leftToClear second first) := by
  cases first with
  | none => cases second <;> rfl
  | some former =>
    cases second with
    | none => simp [leftToClear, clear]
    | some latter =>
      by_cases same : former = latter
      · simp [same, leftToClear, clear]
      · simpa [same, Ne.symm same, leftToClear, clear] using tree.erase_comm former latter

end FileTree

namespace Host

/-- A host after an entry was cleared, if there was one to clear. -/
def cleared (host : Host) (entry : Option Place) : Host :=
  { host with files := host.files.clear entry }

theorem removeNumbered_eq (host : Host) (path : Path) (number : Nat) :
    host.removeNumbered path number = (host.files.ownEntry path number).map host.cleared := by
  unfold removeNumbered fileNumber FileTree.ownEntry
  cases host.files.find false path with
  | error fault =>
    simp only [Except.map]
    split <;> rfl
  | ok node =>
    simp only [Except.map]
    split
    · unfold removeIfPresent removeFile
      cases removed : host.files.unlink path with
      | error fault =>
        simp only [bind, Except.bind]
        split <;> rfl
      | ok files =>
        obtain ⟨place, node, located, -, -, -, rfl⟩ := FileTree.unlink_ok removed
        simp only [bind, Except.bind, located]
        rfl
    · rfl

end Host

namespace SocketLayout

/-- All socket files of a layout are neighbours, and either all of them ask for a directory or
none of them does. -/
theorem neighbours_of_make {directory : Path} {namePrefix nameSuffix : String}
    {registryPort : Port} {layout : SocketLayout}
    (made : make directory namePrefix nameSuffix registryPort = .ok layout) (first second : Port) :
    FileTree.Neighbours (layout.fileFor first) (layout.fileFor second) ∧
      FileTree.endsWithSlash (layout.fileFor second) =
        FileTree.endsWithSlash (layout.fileFor first) := by
  by_cases normal : registryPort = Port.plainFile
  · have plain : layout.plainFile = true := by
      unfold make at made
      split at made
      · cases made
      · split at made
        · cases made
        · split at made
          · cases made
          · obtain rfl := Except.ok.inj made
            simp [normal]
    have everywhere : ∀ port, layout.fileFor port = layout.directory := fun port => if_pos plain
    rw [everywhere, everywhere]
    exact ⟨.same _, rfl⟩
  · have divided := isDivided_of_make made normal
    refine ⟨.beside (layout.isEntryName_fileName first) (layout.isEntryName_fileName second)
      (divided.namesOf_fileFor first) (divided.namesOf_fileFor second), ?_⟩
    rw [divided.endsWithSlash_fileFor, divided.endsWithSlash_fileFor]

end SocketLayout

end SocketMux
