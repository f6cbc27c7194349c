import SocketMux.Layout
import SocketMux.Proofs.File.Lookup
import SocketMux.Proofs.Path
import SocketMux.Proofs.Text.Numeral
import SocketMux.Proofs.Text.Utf8

/-!
# The file names of ports

Different ports have different file names in one layout, and every file name is one name
in the socket directory: it holds no separator and is neither `.` nor `..`. So the entry of
a port's socket file always ends in the name of the port, whatever links the directory's
path runs through (`SocketLayout.IsDivided.last_of_locateEntry`).
-/

namespace SocketMux

namespace FileTree

/-- The last name on a joined path is the one that was joined. -/
theorem namesOf_join (directory : Path) {name : FileName} (unbroken : Path.separator ∉ name)
    (nonempty : name ≠ []) :
    namesOf (directory.join name) = namesOf directory ++ [name] := by
  have single : namesOf name = [name] := by
    unfold namesOf
    rw [Path.pieces_eq_singleton unbroken]
    simp [nonempty]
  have append : ∀ outer : Path,
      namesOf (outer ++ Path.separator :: name) = namesOf outer ++ [name] := by
    intro outer
    unfold namesOf at single ⊢
    rw [Path.pieces_append, List.filter_append, single]
  obtain ⟨rfl, joined⟩ | ⟨outer, rfl, joined⟩ | ⟨-, -, joined⟩ := directory.join_cases name
  · rw [joined, single]
    rfl
  · have ended : namesOf (outer ++ [Path.separator]) = namesOf outer := by
      unfold namesOf
      rw [Path.pieces_append, List.filter_append]
      exact List.append_nil _
    rw [joined, append, ended]
  · rw [joined, append]

end FileTree

namespace SocketLayout

/-- What may be part of a name. -/
theorem isNamePart_iff {text : String} :
    isNamePart text = true ↔ '/' ∉ text.toList ∧ Char.ofNat 0 ∉ text.toList := by
  unfold isNamePart
  rw [List.all_eq_true]
  constructor
  · intro allowed
    constructor
    · intro member
      simpa using allowed _ member
    · intro member
      simpa using allowed _ member
  · rintro ⟨noSlash, noZero⟩ char member
    rw [Bool.and_eq_true, bne_iff_ne, bne_iff_ne]
    exact ⟨fun slash => noSlash (slash ▸ member), fun zero => noZero (zero ▸ member)⟩

/-- Parts of names hold no separator. -/
theorem separator_not_mem_of_isNamePart {text : String} (named : isNamePart text = true) :
    Path.separator ∉ Text.Utf8.bytesOf text := by
  intro member
  obtain ⟨char, listed, same⟩ := Text.Utf8.mem_encode (by decide) member
  have allowed := List.all_eq_true.mp named char listed
  have slash : char = '/' := Char.toNat_inj.mp same
  simp [slash] at allowed

/-- A layout with one file for each port, and all files in its directory. -/
structure IsDivided (layout : SocketLayout) : Prop where
  beginning : isNamePart layout.namePrefix = true
  ending : isNamePart layout.nameSuffix = true
  normal : layout.plainFile = false

section Making

variable {directory : Path} {namePrefix nameSuffix : String} {registryPort : Port}
  {layout : SocketLayout}

/-- A layout is made of a directory and two parts of names. -/
theorem make_eq_ok_iff : make directory namePrefix nameSuffix registryPort = .ok layout ↔
    directory ≠ [] ∧ isNamePart namePrefix = true ∧ isNamePart nameSuffix = true ∧
      layout = ⟨directory, namePrefix, nameSuffix, registryPort == Port.plainFile⟩ := by
  unfold make
  constructor
  · intro made
    split at made
    · cases made
    · next nonempty =>
      split at made
      · cases made
      · next beginning =>
        split at made
        · cases made
        · next ending =>
          exact ⟨nonempty, by simpa using beginning, by simpa using ending,
            (Except.ok.inj made).symm⟩
  · rintro ⟨nonempty, beginning, ending, rfl⟩
    rw [if_neg nonempty, beginning, ending]
    rfl

/-- Every layout is divided, but for those in plain-file mode. -/
theorem isDivided_of_make (made : make directory namePrefix nameSuffix registryPort = .ok layout)
    (normal : registryPort ≠ Port.plainFile) : layout.IsDivided := by
  obtain ⟨_, beginning, ending, rfl⟩ := make_eq_ok_iff.mp made
  exact ⟨beginning, ending, by simpa using normal⟩

end Making

/-- Different ports have different file names. -/
theorem fileName_injective (layout : SocketLayout) : Function.Injective layout.fileName := by
  intro first second same
  unfold fileName at same
  have spelled := List.append_cancel_left (List.append_cancel_right same)
  exact Text.Numeral.signed_injective (Text.Utf8.encode_injective spelled)

/-- A file name is the spelling of the decimal port between the two parts of names. -/
theorem fileName_eq (layout : SocketLayout) (port : Port) : layout.fileName port =
    Path.ofText (layout.namePrefix ++ toString port.toInt ++ layout.nameSuffix) := by
  unfold fileName Path.ofText
  rw [← Text.Numeral.ofList_signed, Text.Utf8.bytesOf_append, Text.Utf8.bytesOf_append]
  unfold Text.Utf8.bytesOf
  rw [String.toList_ofList]

/-- A file name holds a digit. -/
theorem digit_mem_fileName (layout : SocketLayout) (port : Port) :
    ∃ byte ∈ layout.fileName port, 48 ≤ byte.toNat ∧ byte.toNat < 58 := by
  obtain ⟨char, listed, digit⟩ := Text.Numeral.exists_digit port
  obtain ⟨byte, member, range⟩ := Text.Utf8.mem_encode_of_digit digit listed
  exact ⟨byte, List.mem_append_left _ (List.mem_append_right _ member), range⟩

theorem fileName_ne_nil (layout : SocketLayout) (port : Port) : layout.fileName port ≠ [] := by
  obtain ⟨byte, member, -⟩ := layout.digit_mem_fileName port
  exact List.ne_nil_of_mem member

/-- A file name asks for an entry of its own. -/
theorem isEntryName_fileName (layout : SocketLayout) (port : Port) :
    FileTree.IsEntryName (layout.fileName port) := by
  obtain ⟨byte, member, least, most⟩ := layout.digit_mem_fileName port
  constructor
  all_goals
    intro dots
    rw [dots] at member
    have dot : byte = Path.dot := by simpa using member
    rw [dot] at least
    exact absurd least (by decide)

/-- A file name stays in its directory. -/
theorem IsDivided.separator_not_mem {layout : SocketLayout} (divided : layout.IsDivided)
    (port : Port) : Path.separator ∉ layout.fileName port := by
  intro member
  rcases List.mem_append.mp member with member | member
  · rcases List.mem_append.mp member with member | member
    · exact separator_not_mem_of_isNamePart divided.beginning member
    · obtain ⟨char, listed, same⟩ := Text.Utf8.mem_encode (by decide) member
      have slash : char = '/' := Char.toNat_inj.mp same
      rcases Text.Numeral.mem_signed listed with minus | digit
      · rw [slash] at minus
        cases minus
      · rw [slash] at digit
        cases digit
  · exact separator_not_mem_of_isNamePart divided.ending member

namespace IsDivided

variable {layout : SocketLayout} (divided : layout.IsDivided)

include divided

theorem fileFor_eq (port : Port) :
    layout.fileFor port = layout.directory.join (layout.fileName port) := by
  unfold fileFor
  rw [divided.normal]
  rfl

/-- The names on the path of a socket file end in the file name of its port. -/
theorem namesOf_fileFor (port : Port) : FileTree.namesOf (layout.fileFor port) =
    FileTree.namesOf layout.directory ++ [layout.fileName port] := by
  rw [divided.fileFor_eq port]
  exact FileTree.namesOf_join _ (divided.separator_not_mem port) (layout.fileName_ne_nil port)

theorem fileFor_ne_nil (port : Port) : layout.fileFor port ≠ [] := by
  intro empty
  have names := divided.namesOf_fileFor port
  rw [empty] at names
  exact absurd names.symm (by simp [FileTree.namesOf, Path.pieces])

/-- No slash ends the path of a socket file. -/
theorem endsWithSlash_fileFor (port : Port) :
    FileTree.endsWithSlash (layout.fileFor port) = false := by
  have some_last := List.getLast?_eq_some_getLast (layout.fileName_ne_nil port)
  have last : (layout.fileFor port).getLast? = (layout.fileName port).getLast? := by
    rw [divided.fileFor_eq port]
    unfold Path.join
    split <;> rw [List.getLast?_append, some_last, Option.some_or]
  unfold FileTree.endsWithSlash
  rw [last, beq_eq_false_iff_ne]
  exact fun slash => divided.separator_not_mem port (List.mem_of_getLast? slash)

/-- The file name of a port is one component. -/
theorem isName_fileName (port : Port) :
    (Path.Component.normal (layout.fileName port)).IsName where
  unbroken := divided.separator_not_mem port
  isComponent := by
    have entry := layout.isEntryName_fileName port
    unfold Path.componentOf? Path.Component.bytes
    rw [if_neg (not_or.mpr ⟨layout.fileName_ne_nil port, entry.notCurrent⟩),
      if_neg entry.notParent]

/-- The path of a socket file has one component more than its directory. -/
theorem components_fileFor (given : layout.directory ≠ []) (port : Port) :
    (layout.fileFor port).components =
      layout.directory.components ++ [.normal (layout.fileName port)] := by
  have isName := divided.isName_fileName port
  rw [divided.fileFor_eq port]
  generalize layout.fileName port = name at isName ⊢
  exact Path.components_join given isName

/-- Wherever the entry of a socket file is, it ends in the file name of the port. -/
theorem last_of_locateEntry {tree : FileTree} {port : Port} {place : Place}
    (located : tree.locateEntry (layout.fileFor port) = .ok place) :
    place.getLast? = some (layout.fileName port) := by
  unfold FileTree.locateEntry at located
  rw [divided.namesOf_fileFor] at located
  cases checked : FileTree.checkPath (layout.fileFor port) with
  | error fault => rw [checked] at located; cases located
  | ok =>
    rw [checked] at located
    exact FileTree.walk_last (layout.isEntryName_fileName port) located

/-- Different ports have their entries at different places. -/
theorem port_unique {tree other : FileTree} {first second : Port} {place : Place}
    (former : tree.locateEntry (layout.fileFor first) = .ok place)
    (latter : other.locateEntry (layout.fileFor second) = .ok place) : first = second := by
  have firstName := divided.last_of_locateEntry former
  have secondName := divided.last_of_locateEntry latter
  rw [firstName] at secondName
  exact layout.fileName_injective (Option.some.inj secondName)

end IsDivided

/-- The file name of a port between two parts of names. -/
def nameOf (namePrefix nameSuffix : String) (port : Port) : List UInt8 :=
  Path.ofText (namePrefix ++ toString port.toInt ++ nameSuffix)

/-- What a layout does with ports: each has a file of its own right in the directory. -/
structure GivesOwnFiles (layout : SocketLayout) (directory : Path)
    (namePrefix nameSuffix : String) : Prop where
  /-- The path of a port's file goes on from the directory by one component. -/
  components : ∀ port, (layout.fileFor port).components =
    directory.components ++ [.normal (nameOf namePrefix nameSuffix port)]
  /-- The component is a name that no reading of the path drops or divides. -/
  notEmpty : ∀ port, nameOf namePrefix nameSuffix port ≠ []
  notCurrent : ∀ port, nameOf namePrefix nameSuffix port ≠ [Path.dot]
  notParent : ∀ port, nameOf namePrefix nameSuffix port ≠ [Path.dot, Path.dot]
  unbroken : ∀ port, Path.separator ∉ nameOf namePrefix nameSuffix port
  apart : ∀ first second, (layout.fileFor first).components = (layout.fileFor second).components →
    first = second

theorem IsDivided.givesOwnFiles {layout : SocketLayout} (divided : layout.IsDivided)
    (given : layout.directory ≠ []) :
    layout.GivesOwnFiles layout.directory layout.namePrefix layout.nameSuffix := by
  have named : ∀ port, nameOf layout.namePrefix layout.nameSuffix port = layout.fileName port :=
    fun port => (layout.fileName_eq port).symm
  have components : ∀ port, (layout.fileFor port).components =
      layout.directory.components ++ [.normal (layout.fileName port)] :=
    divided.components_fileFor given
  refine ⟨fun port => ?_, fun port => ?_, fun port => ?_, fun port => ?_, fun port => ?_, ?_⟩
  · rw [named, components]
  · exact named port ▸ layout.fileName_ne_nil port
  · exact named port ▸ (layout.isEntryName_fileName port).notCurrent
  · exact named port ▸ (layout.isEntryName_fileName port).notParent
  · exact named port ▸ divided.separator_not_mem port
  · intro first second same
    rw [components, components] at same
    have ends := List.singleton_inj.mp (List.append_cancel_left same)
    exact layout.fileName_injective (Path.Component.normal.inj ends)

/-- Layouts and the files of ports. A layout is made of every directory that is not empty and any
two texts without a slash and a zero byte. In plain-file mode the file of every port is the
directory; otherwise each port has its own file right in the directory, and different ports have
different ones. -/
theorem files_of_ports (directory : Path) (namePrefix nameSuffix : String) (registryPort : Port) :
    ((∃ layout, make directory namePrefix nameSuffix registryPort = .ok layout) ↔
      directory ≠ [] ∧ ('/' ∉ namePrefix.toList ∧ Char.ofNat 0 ∉ namePrefix.toList) ∧
        '/' ∉ nameSuffix.toList ∧ Char.ofNat 0 ∉ nameSuffix.toList) ∧
    ∀ layout, make directory namePrefix nameSuffix registryPort = .ok layout →
      (registryPort ≠ Port.plainFile → layout.GivesOwnFiles directory namePrefix nameSuffix) ∧
      (registryPort = Port.plainFile → ∀ port, layout.fileFor port = directory) := by
  rw [← isNamePart_iff, ← isNamePart_iff]
  refine ⟨⟨?_, ?_⟩, ?_⟩
  · rintro ⟨layout, made⟩
    obtain ⟨given, beginning, ending, -⟩ := make_eq_ok_iff.mp made
    exact ⟨given, beginning, ending⟩
  · rintro ⟨given, beginning, ending⟩
    exact ⟨_, make_eq_ok_iff.mpr ⟨given, beginning, ending, rfl⟩⟩
  · intro layout made
    obtain ⟨given, -, -, rfl⟩ := make_eq_ok_iff.mp made
    refine ⟨fun normal => (isDivided_of_make made normal).givesOwnFiles given, ?_⟩
    rintro rfl port
    rfl

/-- A relative directory that is spelled with a slash at its end, parts of names with digits and
full stops, and ports on both sides of zero; and plain-file mode. -/
theorem files_of_ports_negative :
    ∃ layout plain, make (Path.ofText "./run/") "-1" "..2" 1099 = .ok layout ∧
      make (Path.ofText "./run/") "-1" "..2" (-2) = .ok plain ∧
      (layout.fileFor (-7)).components =
        [.current, .normal (Path.ofText "run"), .normal (Path.ofText "-1-7..2")] ∧
      (layout.fileFor 7).components ≠ (layout.fileFor (-7)).components ∧
      plain.fileFor 7 = Path.ofText "./run/" := by
  have made := files_of_ports (Path.ofText "./run/") "-1" "..2"
  have plainParts : Path.ofText "./run/" ≠ [] ∧
      ('/' ∉ "-1".toList ∧ Char.ofNat 0 ∉ "-1".toList) ∧
        '/' ∉ "..2".toList ∧ Char.ofNat 0 ∉ "..2".toList := by decide
  obtain ⟨layout, accepted⟩ := (made 1099).1.mpr plainParts
  obtain ⟨plain, acceptedPlain⟩ := (made (-2)).1.mpr plainParts
  have files := ((made 1099).2 layout accepted).1 (by decide)
  refine ⟨layout, plain, accepted, acceptedPlain, ?_, ?_, ?_⟩
  · rw [files.components]
    decide
  · exact fun same => absurd (files.apart _ _ same) (by decide)
  · exact ((made (-2)).2 plain acceptedPlain).2 rfl 7

end SocketLayout

end SocketMux
