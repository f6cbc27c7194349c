import SocketMux.Fault
import SocketMux.Keyed
import SocketMux.Path

/-!
# File trees

A tree maps places to nodes. A place is the list of names that leads to it from the
root. Every node has a number of its own, which it keeps when it is moved; a number is
never given again, so it tells two files apart that stood at one place in turn.

Paths are looked up along their names: links are followed, `.` and `..` are taken as
the tree stands, and everything that is passed through has to be a directory.
-/

namespace SocketMux

/-- The name of a file within its directory. -/
abbrev FileName := List UInt8

/-- The names that lead to a file from the root. -/
abbrev Place := List FileName

/-- The sorts of files. -/
inductive FileKind where
  | directory
  | regular
  | socket
  | link (target : Path)
deriving DecidableEq, Repr

/-- A file with its number. -/
structure FileNode where
  number : Nat
  kind : FileKind
deriving DecidableEq, Repr

/-- The files by place. -/
structure FileTree where
  entries : List (Place × FileNode)
  nextNumber : Nat
deriving DecidableEq, Repr

namespace FileTree

/-- The directory at the root, which every tree has. -/
def root : FileNode := ⟨0, .directory⟩

/-- The tree with nothing below the root. -/
def bare : FileTree := ⟨[], 1⟩

/-- The file at a place. -/
def get? (tree : FileTree) (place : Place) : Option FileNode :=
  if place = [] then some root else Keyed.get? tree.entries place

/-- What stands in a tree is its root or one of its entries. -/
theorem eq_root_or_mem {tree : FileTree} {place : Place} {node : FileNode}
    (found : tree.get? place = some node) : node = root ∨ (place, node) ∈ tree.entries := by
  unfold get? at found
  split at found
  · exact .inl (Option.some.inj found).symm
  · exact .inr (Keyed.mem_of_get? found)

/-- Put a fresh file at a place where none is. -/
def insert (tree : FileTree) (place : Place) (kind : FileKind) : FileTree :=
  ⟨Keyed.insert tree.entries place ⟨tree.nextNumber, kind⟩, tree.nextNumber + 1⟩

/-- Remove the file at a place. -/
def erase (tree : FileTree) (place : Place) : FileTree :=
  { tree with entries := Keyed.erase tree.entries place }

/-- A file that was put somewhere stands there, and nothing else changes. -/
theorem get?_insert (tree : FileTree) {place : Place} (kind : FileKind) (other : Place)
    (below : place ≠ []) :
    (tree.insert place kind).get? other =
      if other = place then some ⟨tree.nextNumber, kind⟩ else tree.get? other := by
  unfold get? insert
  by_cases root : other = []
  · have differs : ¬[] = place := fun same => below same.symm
    simp [root, differs]
  · simp [root, Keyed.get?_insert]

/-- A file that was removed is gone, and nothing else changes. -/
theorem get?_erase (tree : FileTree) {place : Place} (other : Place) (below : place ≠ []) :
    (tree.erase place).get? other = if other = place then none else tree.get? other := by
  unfold get? erase
  by_cases root : other = []
  · have differs : ¬[] = place := fun same => below same.symm
    simp [root, differs]
  · simp [root, Keyed.get?_erase]

/-- Whether a directory stands at a place. -/
def isDirectory (tree : FileTree) (place : Place) : Bool :=
  (tree.get? place).any fun node => node.kind == .directory

/-- Whether nothing stands below a place. -/
def isChildless (tree : FileTree) (place : Place) : Bool :=
  tree.entries.all fun entry => entry.1 == place || !place.isPrefixOf entry.1

/-- The greatest length of a name. -/
def maxName : Nat := 255

/-- The length from which on a path is refused. -/
def pathLimit : Nat := 4096

/-- The number of links that a lookup follows at most. -/
def maxLinks : Nat := 40

/-- The names along a path. -/
def namesOf (path : Path) : List FileName := (Path.pieces path).filter (· ≠ [])

/-- Whether a slash ends a path, which then asks for a directory. -/
def endsWithSlash (path : Path) : Bool := path.getLast? == some Path.separator

/-- The names along a path, with `.` for a slash at the end. -/
def route (path : Path) : List FileName :=
  if endsWithSlash path then namesOf path ++ [[Path.dot]] else namesOf path

/-- Walk names from a place. A link goes on with `jump`, which is given its target and
the names behind it; one at the end is only followed if `follow` is set. The last name
may lead to nothing. -/
def walkNames (tree : FileTree) (follow : Bool)
    (jump : Place → Path → List FileName → Except Fault Place) :
    Place → List FileName → Except Fault Place
  | place, [] => .ok place
  | place, name :: names =>
    if tree.isDirectory place = false then .error (.system Errno.notDirectory)
    else if name = [Path.dot] then walkNames tree follow jump place names
    else if name = [Path.dot, Path.dot] then walkNames tree follow jump place.dropLast names
    else if maxName < name.length then .error (.system Errno.nameTooLong)
    else
      match tree.get? (place ++ [name]) with
      | none => if names = [] then .ok (place ++ [name]) else .error (.system Errno.noEntry)
      | some ⟨_, .link target⟩ =>
        if names = [] ∧ follow = false then .ok (place ++ [name])
        else jump (if target.isAbsolute then [] else place) target names
      | some _ => walkNames tree follow jump (place ++ [name]) names

/-- Walk names from a place with a number of links to follow. -/
def walk (tree : FileTree) (follow : Bool) : Nat → Place → List FileName → Except Fault Place
  | 0 => walkNames tree follow fun _ _ _ => .error (.system Errno.linkLoop)
  | links + 1 => walkNames tree follow fun place target names =>
      walk tree follow links place (route target ++ names)

/-- Whether a path ends in a name of its own, and not in the root, `.` or `..`. -/
def endsInName (path : Path) : Bool :=
  match (namesOf path).getLast? with
  | some name => name != [Path.dot] && name != [Path.dot, Path.dot]
  | none => false

/-- The fault of a path with a zero byte in it. -/
def zeroInPath : Fault := .described .invalidInput "file name contained an unexpected NUL byte"

/-- Refuse paths that no lookup takes. -/
def checkPath (path : Path) : Except Fault Unit :=
  if path.contains 0 then .error zeroInPath
  else if path = [] then .error (.system Errno.noEntry)
  else if pathLimit ≤ path.length then .error (.system Errno.nameTooLong)
  else .ok ()

/-- The place of a path, at which there may be nothing. Relative paths start at the
root. -/
def locate (tree : FileTree) (follow : Bool) (path : Path) : Except Fault Place := do
  checkPath path
  tree.walk follow maxLinks [] (route path)

/-- The place that a path names for a change. A link there is meant itself, and a slash
at the end is left to the change. -/
def locateEntry (tree : FileTree) (path : Path) : Except Fault Place := do
  checkPath path
  tree.walk false maxLinks [] (namesOf path)

/-- The file of a path. -/
def find (tree : FileTree) (follow : Bool) (path : Path) : Except Fault FileNode := do
  let place ← tree.locate follow path
  match tree.get? place with
  | some node => return node
  | none => .error (.system Errno.noEntry)

/-- Whether a path leads to a file. -/
def leadsToFile (tree : FileTree) (path : Path) : Except Fault Bool :=
  match tree.find true path with
  | .ok _ => .ok true
  | .error fault => if fault.kind = .notFound then .ok false else .error fault

end FileTree

end SocketMux
