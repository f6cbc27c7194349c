import SocketMux.File.Change

/-!
# Looking up entries

A lookup of an entry only reads the directories and links that it passes through, and says
where the entry is, whatever stands there. So it comes to the same place in every tree that
has these directories and links (`FileTree.locateEntry_within`), and an entry that is found
without either of two files is found without both (`FileTree.locateEntry_erase_erase`). A
path whose entry is no link is followed to the same place (`FileTree.locate_of_entry`), and
the place of a path ends in the last name on the path (`FileTree.walk_last`).
-/

namespace SocketMux

/-- Whether a lookup can pass through a file. -/
def FileKind.isPassage : FileKind → Bool
  | .directory | .link _ => true
  | .regular | .socket => false

namespace FileTree

/-- A name that asks for an entry of its own in a directory. -/
structure IsEntryName (name : FileName) : Prop where
  notCurrent : name ≠ [Path.dot]
  notParent : name ≠ [Path.dot, Path.dot]

/-- All directories and links of a tree stand in another tree as well. -/
def PassagesWithin (tree other : FileTree) : Prop :=
  ∀ place node, tree.get? place = some node → node.kind.isPassage →
    other.get? place = some node

theorem PassagesWithin.refl (tree : FileTree) : tree.PassagesWithin tree :=
  fun _ _ found _ => found

theorem PassagesWithin.trans {first second third : FileTree}
    (former : first.PassagesWithin second) (latter : second.PassagesWithin third) :
    first.PassagesWithin third :=
  fun place node found passage => latter place node (former place node found passage) passage

theorem isDirectory_iff {tree : FileTree} {place : Place} :
    tree.isDirectory place = true ↔
      ∃ node, tree.get? place = some node ∧ node.kind = .directory := by
  unfold isDirectory
  cases tree.get? place <;> simp

section Walking

variable {tree other : FileTree}
  {jump jump' : Place → Path → List FileName → Except Fault Place} {follow : Bool}

/-- A step to a name goes through a directory. It stays there, goes up or goes to an entry. -/
theorem walkNames_cons {place found : Place} {name : FileName} {names : List FileName}
    (walked : tree.walkNames follow jump place (name :: names) = .ok found) :
    tree.isDirectory place = true ∧
      ((name = [Path.dot] ∧ tree.walkNames follow jump place names = .ok found) ∨
        (name ≠ [Path.dot] ∧ name = [Path.dot, Path.dot] ∧
          tree.walkNames follow jump place.dropLast names = .ok found) ∨
        (IsEntryName name ∧ name.length ≤ maxName)) := by
  rw [walkNames] at walked
  split at walked
  · cases walked
  · next directory =>
    refine ⟨by simpa using directory, ?_⟩
    split at walked
    · next current => exact .inl ⟨current, walked⟩
    · next notCurrent =>
      split at walked
      · next parent => exact .inr (.inl ⟨notCurrent, parent, walked⟩)
      · next notParent =>
        split at walked
        · cases walked
        · next short => exact .inr (.inr ⟨⟨notCurrent, notParent⟩, by omega⟩)

/-- In a directory an entry name is looked up. -/
theorem walkNames_entry {place : Place} {name : FileName} (names : List FileName)
    (directory : tree.isDirectory place = true) (entryName : IsEntryName name)
    (short : name.length ≤ maxName) :
    tree.walkNames follow jump place (name :: names) =
      match tree.get? (place ++ [name]) with
      | none => if names = [] then .ok (place ++ [name]) else .error (.system Errno.noEntry)
      | some ⟨_, .link target⟩ =>
        if names = [] ∧ follow = false then .ok (place ++ [name])
        else jump (if target.isAbsolute then [] else place) target names
      | some _ => tree.walkNames follow jump (place ++ [name]) names := by
  have fits : ¬maxName < name.length := by omega
  refine Eq.trans (if_neg (by simp [directory])) ?_
  refine Eq.trans (if_neg entryName.notCurrent) ?_
  exact Eq.trans (if_neg entryName.notParent) (if_neg fits)

/-- The last name leads to its entry, whatever stands there. -/
theorem walkNames_single {place : Place} {name : FileName}
    (directory : tree.isDirectory place = true) (entryName : IsEntryName name)
    (short : name.length ≤ maxName) :
    tree.walkNames false jump place [name] = .ok (place ++ [name]) := by
  rw [walkNames_entry [] directory entryName short]
  split
  · rfl
  · rfl
  · rw [walkNames]

/-- A walk that goes on behind an entry passes through it. -/
theorem passage_of_walkNames {place found : Place} {name : FileName} {names : List FileName}
    (walked : tree.walkNames follow jump place (name :: names) = .ok found)
    (entryName : IsEntryName name) (short : name.length ≤ maxName) (more : names ≠ []) :
    ∃ node, tree.get? (place ++ [name]) = some node ∧ node.kind.isPassage := by
  rw [walkNames_entry names (walkNames_cons walked).1 entryName short] at walked
  cases entry : tree.get? (place ++ [name]) with
  | none => simp [entry, more] at walked
  | some node =>
    refine ⟨node, rfl, ?_⟩
    obtain ⟨number, kind⟩ := node
    cases kind with
    | directory | link target => rfl
    | regular | socket =>
      obtain ⟨next, others, rfl⟩ := List.exists_cons_of_ne_nil more
      simp only [entry] at walked
      have directory := isDirectory_iff.mp (walkNames_cons walked).1
      simp [entry] at directory

/-- Two walks to an entry that pass through the same files come to the same place where all
these files stand. -/
theorem walkNames_shared {shared : FileTree} {jump'' : Place → Path → List FileName →
      Except Fault Place}
    (same : ∀ place node node', tree.get? place = some node → other.get? place = some node' →
      node' = node)
    (within : ∀ place node, tree.get? place = some node → other.get? place = some node →
      node.kind.isPassage → shared.get? place = some node)
    (jumps : ∀ place target names found found', jump place target names = .ok found →
      jump' place target names = .ok found' → jump'' place target names = .ok found)
    {names : List FileName} {place found found' : Place}
    (walked : tree.walkNames false jump place names = .ok found)
    (walked' : other.walkNames false jump' place names = .ok found') :
    shared.walkNames false jump'' place names = .ok found := by
  -- The names are walked one by one; what a link leads to is left to `jumps`.
  induction names generalizing place with
  | nil => exact walked
  | cons name names inductionHypothesis =>
    have directory := (walkNames_cons walked).1
    have directory' := (walkNames_cons walked').1
    have directory'' : shared.isDirectory place = true := by
      obtain ⟨node, entry, kind⟩ := isDirectory_iff.mp directory
      obtain ⟨node', entry', -⟩ := isDirectory_iff.mp directory'
      obtain rfl := same place node node' entry entry'
      exact isDirectory_iff.mpr ⟨node', within place node' entry entry' (by rw [kind]; rfl), kind⟩
    obtain ⟨-, ⟨rfl, stayed⟩ | ⟨notCurrent, rfl, climbed⟩ | ⟨entryName, short⟩⟩ :=
      walkNames_cons walked
    · rw [walkNames, if_neg (by simp [directory']), if_pos rfl] at walked'
      rw [walkNames, if_neg (by simp [directory'']), if_pos rfl]
      exact inductionHypothesis stayed walked'
    · rw [walkNames, if_neg (by simp [directory']), if_neg notCurrent, if_pos rfl] at walked'
      rw [walkNames, if_neg (by simp [directory'']), if_neg notCurrent, if_pos rfl]
      exact inductionHypothesis climbed walked'
    · by_cases last : names = []
      · subst last
        rw [walkNames_single directory entryName short] at walked
        rw [walkNames_single directory'' entryName short, walked]
      · obtain ⟨node, entry, passage⟩ := passage_of_walkNames walked entryName short last
        obtain ⟨node', entry', -⟩ := passage_of_walkNames walked' entryName short last
        obtain rfl := same _ node node' entry entry'
        rw [walkNames_entry names directory entryName short, entry] at walked
        rw [walkNames_entry names directory' entryName short, entry'] at walked'
        rw [walkNames_entry names directory'' entryName short,
          within _ node' entry entry' passage]
        obtain ⟨number, kind⟩ := node'
        cases kind with
        | directory => exact inductionHypothesis walked walked'
        | link target =>
          simp only [last, false_and, if_false] at walked walked' ⊢
          exact jumps _ _ _ _ _ walked walked'
        | regular | socket => cases passage

/-- A walk to an entry that is no link follows nothing at its end. -/
theorem walkNames_follow
    (jumps : ∀ place target names found, jump place target names = .ok found →
      (∀ node, tree.get? found = some node → ∀ link, node.kind ≠ .link link) →
        jump' place target names = .ok found)
    {names : List FileName} {place found : Place}
    (walked : tree.walkNames false jump place names = .ok found)
    (noLink : ∀ node, tree.get? found = some node → ∀ link, node.kind ≠ .link link) :
    tree.walkNames true jump' place names = .ok found := by
  induction names generalizing place with
  | nil => exact walked
  | cons name names inductionHypothesis =>
    obtain ⟨directory, ⟨rfl, stayed⟩ | ⟨notCurrent, rfl, climbed⟩ | ⟨entryName, short⟩⟩ :=
      walkNames_cons walked
    · rw [walkNames, if_neg (by simp [directory]), if_pos rfl]
      exact inductionHypothesis stayed
    · rw [walkNames, if_neg (by simp [directory]), if_neg notCurrent, if_pos rfl]
      exact inductionHypothesis climbed
    · rw [walkNames_entry names directory entryName short] at walked ⊢
      cases entry : tree.get? (place ++ [name]) with
      | none =>
        rw [entry] at walked
        exact walked
      | some node =>
        rw [entry] at walked
        obtain ⟨number, kind⟩ := node
        cases kind with
        | directory | regular | socket => exact inductionHypothesis walked
        | link target =>
          by_cases last : names = []
          · simp only [last, and_self, if_true] at walked
            injection walked with here
            exact absurd rfl (noLink _ (here ▸ entry) target)
          · simp only [last, false_and, if_false] at walked ⊢
            exact jumps _ _ _ _ walked noLink

/-- Whoever can follow a link at the end finds the entry of the link. -/
theorem walkNames_unfollow
    (jumps : ∀ place target names found, jump place target names = .ok found →
      ∃ entry, jump' place target names = .ok entry)
    {names : List FileName} {place found : Place}
    (walked : tree.walkNames true jump place names = .ok found) :
    ∃ entry, tree.walkNames false jump' place names = .ok entry := by
  induction names generalizing place with
  | nil => exact ⟨place, rfl⟩
  | cons name names inductionHypothesis =>
    obtain ⟨directory, ⟨rfl, stayed⟩ | ⟨notCurrent, rfl, climbed⟩ | ⟨entryName, short⟩⟩ :=
      walkNames_cons walked
    · rw [walkNames, if_neg (by simp [directory]), if_pos rfl]
      exact inductionHypothesis stayed
    · rw [walkNames, if_neg (by simp [directory]), if_neg notCurrent, if_pos rfl]
      exact inductionHypothesis climbed
    · rw [walkNames_entry names directory entryName short] at walked ⊢
      cases entry : tree.get? (place ++ [name]) with
      | none =>
        rw [entry] at walked
        exact ⟨found, walked⟩
      | some node =>
        rw [entry] at walked
        obtain ⟨number, kind⟩ := node
        cases kind with
        | directory | regular | socket => exact inductionHypothesis walked
        | link target =>
          by_cases last : names = []
          · exact ⟨place ++ [name], by simp only [last, and_self, if_true]⟩
          · simp only [Bool.true_eq_false, and_false, if_false] at walked
            simp only [last, false_and, if_false]
            exact jumps _ _ _ _ walked

/-- The place of a walk ends in its last name. -/
theorem walkNames_last {name : FileName} (entryName : IsEntryName name)
    (jumps : ∀ place target names found, jump place target (names ++ [name]) = .ok found →
      found.getLast? = some name)
    {names : List FileName} {place found : Place}
    (walked : tree.walkNames false jump place (names ++ [name]) = .ok found) :
    found.getLast? = some name := by
  induction names generalizing place with
  | nil =>
    obtain ⟨directory, ⟨current, -⟩ | ⟨-, parent, -⟩ | ⟨-, short⟩⟩ := walkNames_cons walked
    · exact absurd current entryName.notCurrent
    · exact absurd parent entryName.notParent
    · have single : tree.walkNames false jump place [name] = .ok found := walked
      rw [walkNames_single directory entryName short] at single
      injection single with here
      rw [← here, List.getLast?_concat]
  | cons first names inductionHypothesis =>
    have more : names ++ [name] ≠ [] := by simp
    obtain ⟨directory, ⟨-, stayed⟩ | ⟨-, -, climbed⟩ | ⟨firstName, short⟩⟩ :=
      walkNames_cons walked
    · exact inductionHypothesis stayed
    · exact inductionHypothesis climbed
    · rw [List.cons_append, walkNames_entry _ directory firstName short] at walked
      cases entry : tree.get? (place ++ [first]) with
      | none => simp [entry] at walked
      | some node =>
        rw [entry] at walked
        obtain ⟨number, kind⟩ := node
        cases kind with
        | directory | regular | socket => exact inductionHypothesis walked
        | link target =>
          simp only [more, false_and, if_false] at walked
          exact jumps _ _ _ _ walked

end Walking

theorem walk_shared {tree other shared : FileTree}
    (same : ∀ place node node', tree.get? place = some node → other.get? place = some node' →
      node' = node)
    (within : ∀ place node, tree.get? place = some node → other.get? place = some node →
      node.kind.isPassage → shared.get? place = some node)
    {links : Nat} {place found found' : Place} {names : List FileName}
    (walked : tree.walk false links place names = .ok found)
    (walked' : other.walk false links place names = .ok found') :
    shared.walk false links place names = .ok found := by
  induction links generalizing place found found' names with
  | zero =>
    exact walkNames_shared same within (fun _ _ _ _ _ failed => by cases failed) walked walked'
  | succ links inductionHypothesis =>
    exact walkNames_shared same within
      (fun _ _ _ _ _ jumped jumped' => inductionHypothesis jumped jumped') walked walked'

/-- A walk to an entry comes to the same place where all passages stand. -/
theorem walk_within {tree other : FileTree} (within : tree.PassagesWithin other) {links : Nat}
    {place found : Place} {names : List FileName}
    (walked : tree.walk false links place names = .ok found) :
    other.walk false links place names = .ok found :=
  walk_shared (fun _ _ _ present present' => Option.some.inj (present'.symm.trans present))
    (fun place node present _ passage => within place node present passage) walked walked

theorem walk_follow {tree : FileTree} {links : Nat} {place found : Place}
    {names : List FileName} (walked : tree.walk false links place names = .ok found)
    (noLink : ∀ node, tree.get? found = some node → ∀ link, node.kind ≠ .link link) :
    tree.walk true links place names = .ok found := by
  induction links generalizing place found names with
  | zero => exact walkNames_follow (fun _ _ _ _ failed _ => by cases failed) walked noLink
  | succ links inductionHypothesis =>
    exact walkNames_follow (fun _ _ _ _ jumped noLink => inductionHypothesis jumped noLink)
      walked noLink

theorem walk_unfollow {tree : FileTree} {links : Nat} {place found : Place}
    {names : List FileName} (walked : tree.walk true links place names = .ok found) :
    ∃ entry, tree.walk false links place names = .ok entry := by
  induction links generalizing place found names with
  | zero => exact walkNames_unfollow (fun _ _ _ _ failed => by cases failed) walked
  | succ links inductionHypothesis =>
    exact walkNames_unfollow (fun _ _ _ _ jumped => inductionHypothesis jumped) walked

theorem walk_last {tree : FileTree} {name : FileName} (entryName : IsEntryName name)
    {links : Nat} {place found : Place} {names : List FileName}
    (walked : tree.walk false links place (names ++ [name]) = .ok found) :
    found.getLast? = some name := by
  induction links generalizing place found names with
  | zero => exact walkNames_last entryName (fun _ _ _ _ failed => by cases failed) walked
  | succ links inductionHypothesis =>
    refine walkNames_last entryName (fun _ target names found jumped => ?_) walked
    rw [← List.append_assoc] at jumped
    exact inductionHypothesis jumped

/-- An entry is found at the same place where all passages stand. -/
theorem locateEntry_within {tree other : FileTree} (within : tree.PassagesWithin other)
    {path : Path} {place : Place} (located : tree.locateEntry path = .ok place) :
    other.locateEntry path = .ok place := by
  unfold locateEntry at located ⊢
  cases checked : checkPath path with
  | error fault => rw [checked] at located; cases located
  | ok =>
    rw [checked] at located
    exact walk_within within located

/-- An entry that is found without either of two files is found without both of them. -/
theorem locateEntry_erase_erase {tree : FileTree} {first second : Place} {path : Path}
    {place place' : Place} (below : first ≠ []) (below' : second ≠ [])
    (located : (tree.erase first).locateEntry path = .ok place)
    (located' : (tree.erase second).locateEntry path = .ok place') :
    ((tree.erase first).erase second).locateEntry path = .ok place := by
  unfold locateEntry at located located' ⊢
  cases checked : checkPath path with
  | error fault => rw [checked] at located; cases located
  | ok =>
    rw [checked] at located located'
    refine walk_shared (fun there node node' found found' => ?_)
      (fun there node found found' _ => ?_) located located'
    · rw [get?_erase _ _ below] at found
      rw [get?_erase _ _ below'] at found'
      split at found
      · cases found
      · split at found'
        · cases found'
        · exact Option.some.inj (found'.symm.trans found)
    · rw [get?_erase _ _ below'] at found' ⊢
      split at found'
      · cases found'
      · next apart => rwa [if_neg apart]

/-- A path without a slash at its end whose entry is no link leads to its entry. -/
theorem locate_of_entry {tree : FileTree} {path : Path} {place : Place}
    (located : tree.locateEntry path = .ok place) (noSlash : endsWithSlash path = false)
    (noLink : ∀ node, tree.get? place = some node → ∀ link, node.kind ≠ .link link)
    (follow : Bool) : tree.locate follow path = .ok place := by
  unfold locateEntry at located
  unfold locate route
  rw [noSlash]
  cases checked : checkPath path with
  | error fault => rw [checked] at located; cases located
  | ok =>
    rw [checked] at located
    cases follow with
    | false => exact located
    | true => exact walk_follow located noLink

/-- The file of such a path is the one at its place. -/
theorem find_of_entry {tree : FileTree} {path : Path} {place : Place} {node : FileNode}
    (located : tree.locateEntry path = .ok place) (noSlash : endsWithSlash path = false)
    (present : tree.get? place = some node) (noLink : ∀ link, node.kind ≠ .link link)
    (follow : Bool) : tree.find follow path = .ok node := by
  have here := locate_of_entry located noSlash
    (fun other found => by rw [present] at found; cases found; exact noLink) follow
  unfold find
  rw [here]
  simp only [bind, Except.bind, present]
  rfl

/-- A path without a slash at its end that leads to a file has an entry. -/
theorem exists_entry_of_find {tree : FileTree} {path : Path} {node : FileNode}
    (found : tree.find true path = .ok node) (noSlash : endsWithSlash path = false) :
    ∃ place, tree.locateEntry path = .ok place := by
  unfold find locate route at found
  rw [noSlash] at found
  unfold locateEntry
  cases checked : checkPath path with
  | error fault => rw [checked] at found; cases found
  | ok =>
    rw [checked] at found
    cases walked : tree.walk true maxLinks [] (namesOf path) with
    | error fault => simp [walked, bind, Except.bind] at found
    | ok place => exact walk_unfollow walked

/-- A file that is found without following a link at the end stands at the entry of the
path. -/
theorem entry_of_find {tree : FileTree} {path : Path} {node : FileNode}
    (found : tree.find false path = .ok node) (noSlash : endsWithSlash path = false) :
    ∃ place, tree.locateEntry path = .ok place ∧ tree.get? place = some node := by
  have same : tree.locate false path = tree.locateEntry path := by
    unfold locate locateEntry route
    rw [noSlash]
    rfl
  unfold find at found
  rw [same] at found
  cases located : tree.locateEntry path with
  | error fault => rw [located] at found; cases found
  | ok place =>
    simp only [located, bind, Except.bind] at found
    cases present : tree.get? place with
    | none => rw [present] at found; cases found
    | some other =>
      rw [present] at found
      injection found with same
      exact ⟨place, rfl, same ▸ present⟩

end FileTree

end SocketMux
