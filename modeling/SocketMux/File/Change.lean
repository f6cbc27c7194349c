import SocketMux.File.Tree

/-!
# Changes to file trees

The changes that programs make to a tree. Each either fails and leaves the tree as it
is or succeeds as a whole; only making directories with their parents may stop halfway
and keep the parents.
-/

namespace SocketMux.FileTree

/-- Remove a file that is no directory. A link is removed itself. -/
def unlink (tree : FileTree) (path : Path) : Except Fault FileTree := do
  let place ← tree.locateEntry path
  match tree.get? place with
  | none => .error (.system Errno.noEntry)
  | some node =>
    if node.kind = .directory then .error (.system Errno.isDirectory)
    else if endsWithSlash path then .error (.system Errno.notDirectory)
    else return tree.erase place

/-- The place of a path at which something other than a directory can be made; what
stands there already is the fault `taken`. -/
def freePlace (tree : FileTree) (path : Path) (taken : Fault) : Except Fault Place := do
  let place ← tree.locateEntry path
  match tree.get? place with
  | some _ => .error taken
  | none => if endsWithSlash path then .error (.system Errno.noEntry) else return place

/-- Make the socket file of a new listener, and hand out its number. Nothing may stand
at the path. -/
def makeSocket (tree : FileTree) (path : Path) : Except Fault (Nat × FileTree) := do
  let place ← tree.freePlace path (.system Errno.addressInUse)
  return (tree.nextNumber, tree.insert place .socket)

/-- The place from `place` along a path and further names to which a regular file can be
written. A name with a slash behind it is refused as soon as its directory is found,
whatever stands there. -/
def walkToWrite (tree : FileTree) : Nat → Place → Path → List FileName → Except Fault Place
  | 0, _, _, _ => .error (.system Errno.linkLoop)
  | links + 1, place, path, names =>
    if names = [] ∧ endsWithSlash path ∧ endsInName path then do
      let _ ← tree.walk true links place ((namesOf path).dropLast ++ [[Path.dot]])
      .error (.system Errno.isDirectory)
    else tree.walkNames true (walkToWrite tree links) place (route path ++ names)

/-- The place of a path to which a regular file can be written. -/
def writablePlace (tree : FileTree) (path : Path) : Except Fault Place := do
  checkPath path
  tree.walkToWrite (maxLinks + 1) [] path []

/-- Write a regular file. One that is there already keeps its number. -/
def writeRegular (tree : FileTree) (path : Path) : Except Fault FileTree := do
  let place ← tree.writablePlace path
  match tree.get? place with
  | none => return tree.insert place .regular
  | some ⟨_, .directory⟩ => .error (.system Errno.isDirectory)
  | some ⟨_, .socket⟩ => .error (.system Errno.noDevice)
  | some _ => return tree

/-- Make a link. Its target need not exist, but has to be a path. -/
def makeLink (tree : FileTree) (path target : Path) : Except Fault FileTree := do
  if path.contains 0 then .error zeroInPath
  else
    checkPath target
    let place ← tree.freePlace path (.system Errno.fileExists)
    return tree.insert place (.link target)

/-- Make one directory, given by the names that lead to it. -/
def makeDirectoryAt (tree : FileTree) (names : List FileName) : Except Fault FileTree := do
  let place ← tree.walk false maxLinks [] names
  match tree.get? place with
  | some _ => .error (.system Errno.fileExists)
  | none => return tree.insert place .directory

/-- Whether names lead to a directory. -/
def leadsToDirectory (tree : FileTree) (names : List FileName) : Bool :=
  match tree.walk true maxLinks [] names with
  | .ok place => tree.isDirectory place
  | .error _ => false

/-- Make a directory that may be there already. -/
def ensureDirectoryAt (tree : FileTree) (names : List FileName) : Except Fault FileTree :=
  match tree.makeDirectoryAt names with
  | .ok tree => .ok tree
  | .error fault => if tree.leadsToDirectory names then .ok tree else .error fault

/-- The tree after an outcome, which a failure leaves as it is. -/
def orSame (tree : FileTree) (outcome : Except Fault FileTree) : Except Fault Unit × FileTree :=
  match outcome with
  | .ok tree => (.ok (), tree)
  | .error fault => (.error fault, tree)

/-- Make a directory, where each list of names but the last leads to a directory inside
that of the next one. A directory that is missing is made before the one inside it.
Those that were made stay, even if the first one cannot be made. -/
def makeDirectoriesAlong (tree : FileTree) : List (List FileName) → Except Fault Unit × FileTree
  | [] => (.ok (), tree)
  | names :: parents =>
    match tree.ensureDirectoryAt names with
    | .ok tree => (.ok (), tree)
    | .error fault =>
      if fault.kind = .notFound then
        match makeDirectoriesAlong tree parents with
        | (.error fault, tree) => (.error fault, tree)
        | (.ok (), tree) => tree.orSame (tree.ensureDirectoryAt names)
      else (.error fault, tree)

/-- The ways to a directory and to its parents, given by its names from the last to the
first. No way ends in `.`, which names no directory of its own. -/
def waysTo : List FileName → List (List FileName)
  | [] => []
  | name :: outer =>
    if name = [Path.dot] then waysTo outer else (name :: outer).reverse :: waysTo outer

/-- Make a directory with the parents that are missing. The directory before a `.` at the
end is none of the parents, so it has to be there. -/
def makeDirectories (tree : FileTree) (path : Path) : Except Fault Unit × FileTree :=
  if path = [] then (.ok (), tree)
  else
    match checkPath path with
    | .error fault => (.error fault, tree)
    | .ok () =>
      let names := namesOf path
      tree.makeDirectoriesAlong (names :: (waysTo names.reverse).tail)

/-- Move all that stands at a place to another place, where nothing is. -/
def move (tree : FileTree) (source target : Place) : FileTree :=
  { tree with entries := tree.entries.map fun (place, node) =>
      if source.isPrefixOf place then (target ++ place.drop source.length, node)
      else (place, node) }

/-- Move what stands at a place to another place, if that is free for it. -/
def renameTo (tree : FileTree) (node : FileNode) (source place : Place) : Except Fault FileTree :=
  if source = place then return tree
  else if node.kind = .directory ∧ source.isPrefixOf place then .error (.system Errno.invalid)
  else if place.isPrefixOf source then .error (.system Errno.notEmpty)
  else
    match tree.get? place with
    | none => return tree.move source place
    | some replaced =>
      if node.kind = .directory ∧ replaced.kind ≠ .directory then
        .error (.system Errno.notDirectory)
      else if node.kind ≠ .directory ∧ replaced.kind = .directory then
        .error (.system Errno.isDirectory)
      else if tree.isChildless place = false then .error (.system Errno.notEmpty)
      else return (tree.erase place).move source place

/-- Rename a file. A file may take the place of a file, and a directory that of an
empty directory that is not inside it. Only directories may be named with a slash at
the end. -/
def rename (tree : FileTree) (path target : Path) : Except Fault FileTree := do
  if path.contains 0 || target.contains 0 then .error zeroInPath
  let source ← tree.locateEntry path
  let place ← tree.locateEntry target
  if !endsInName path || !endsInName target then .error (.system Errno.busy)
  else
    match tree.get? source with
    | none => .error (.system Errno.noEntry)
    | some node =>
      if node.kind ≠ .directory ∧ (endsWithSlash path || endsWithSlash target) then
        .error (.system Errno.notDirectory)
      else tree.renameTo node source place

/-- The path of a place below another one, with a slash at the end of directories. -/
def relativePath (base place : Place) (kind : FileKind) : Path :=
  let names := (place.drop base.length).intersperse [Path.separator]
  names.flatten ++ if kind = .directory then [Path.separator] else []

/-- All that stands below a place, as ascending paths. -/
def listing (tree : FileTree) (base : Place) : List Path :=
  let below := tree.entries.filter fun entry => base.isPrefixOf entry.1 && entry.1 != base
  (below.map fun (place, node) => relativePath base place node.kind).mergeSort
    fun left right => decide (left ≤ right)

end SocketMux.FileTree
