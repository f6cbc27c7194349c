import SocketMux.Text.Quoted

/-!
# Paths

A path is a byte string. Two paths are the same if they have the same components:
repeated slashes, a slash at the end and inner `.` components do not count.
-/

namespace SocketMux

/-- A path as it is given. -/
abbrev Path := List UInt8

namespace Path

open SocketMux.Text

/-- The byte that separates components. -/
def separator : UInt8 := 47

/-- The byte of a full stop. -/
def dot : UInt8 := 46

/-- A component of a path. -/
inductive Component where
  | root
  /-- A `.` at the start of a relative path. -/
  | current
  | parent
  | normal (name : List UInt8)
deriving DecidableEq, Repr

/-- The path of a text. -/
def ofText (text : String) : Path := Utf8.bytesOf text

/-- The pieces between the separators, empty ones included. -/
def pieces : Path → List (List UInt8)
  | [] => [[]]
  | byte :: rest =>
    if byte = separator then [] :: pieces rest
    else match pieces rest with
      | [] => [[byte]]
      | piece :: others => (byte :: piece) :: others

/-- The component of a piece; empty pieces and `.` are none. -/
def componentOf? (piece : List UInt8) : Option Component :=
  if piece = [] ∨ piece = [dot] then none
  else if piece = [dot, dot] then some .parent
  else some (.normal piece)

/-- Whether a path starts at the root. -/
def isAbsolute (path : Path) : Bool := path.head? == some separator

/-- The component by which a path starts before any name. -/
def opening (path : Path) : List Component :=
  if path.isAbsolute then [.root]
  else if (pieces path).head? = some [dot] then [.current]
  else []

/-- The components of a path. -/
def components (path : Path) : List Component :=
  path.opening ++ (pieces path).filterMap componentOf?

/-- The names on a path, which a hash of the path covers. The root is not one. -/
def names (path : Path) : List Component := path.components.filter (· ≠ .root)

/-- The bytes of a component; the root has none besides its separator. -/
def Component.bytes : Component → List UInt8
  | .root => []
  | .current => [dot]
  | .parent => [dot, dot]
  | .normal name => name

/-- The path of a name in a directory. -/
def join (directory : Path) (name : List UInt8) : Path :=
  if directory = [] ∨ directory.getLast? = some separator then directory ++ name
  else directory ++ [separator] ++ name

/-- What an absolute form starts with: the root, which two slashes alone keep doubled,
or the working directory in front of a relative path. -/
def absoluteBase (working path : Path) : Path :=
  if path.isAbsolute then
    if path.take 2 = [separator, separator] ∧ path.take 3 ≠ [separator, separator, separator] then
      [separator, separator]
    else [separator]
  else working

/-- The absolute form of a path: components follow the base without `.` components and
repeated slashes, and a slash at the end is kept. Nothing is looked up. -/
def absolute (working path : Path) : Path :=
  let names := path.components.filter fun component => component ≠ .root ∧ component ≠ .current
  let full := names.foldl (fun built component => join built component.bytes)
    (absoluteBase working path)
  if path.getLast? = some separator then join full [] else full

/-- A path as text, with bytes that are no text replaced. -/
def display (path : Path) : String := Utf8.textLossy path

/-- A path between quotes. -/
def quoted (path : Path) : String := Quoted.bytes path

end Path

end SocketMux
