import SocketMux.Factory.Profile
import SocketMux.Proofs.Layout
import SocketMux.Proofs.Record

/-!
# Factories that are restored

A record holds the absolute form of a factory's directory, and an absolute form is its own. So a
factory that is restored from a record writes the same record again, from whatever directory its
process works in, and one of an absolute directory is the factory that wrote the record, socket
file by socket file (`FactoryProfile.restored_of_encode`).
-/

namespace SocketMux.FactoryProfile

variable {α : Type} {registryPort : Port} {directory working : Path}
  {namePrefix nameSuffix : String} {clientHost serverHost : Option String}
  {profile restored : FactoryProfile} {bytes : List UInt8} {naming : α}
  {resolve : Path → Port → Except MuxError α} {reported : α → Port}

/-- What a restored factory has in common with the one that wrote the record. -/
structure Restores (profile restored : FactoryProfile) : Prop where
  sameDirectory : restored.sameDirectory profile = true
  registryPort : restored.registryPort = profile.registryPort
  plainFile : restored.layout.plainFile = profile.layout.plainFile
  namePrefix : restored.layout.namePrefix = profile.layout.namePrefix
  nameSuffix : restored.layout.nameSuffix = profile.layout.nameSuffix
  clientHost : restored.clientHost = profile.clientHost
  serverHost : restored.serverHost = profile.serverHost
  fileFor : ∀ port, (restored.fileFor port).components = (profile.fileFor port).components

theorem make_eq_ok_iff :
    make registryPort directory namePrefix nameSuffix clientHost serverHost = .ok profile ↔
      directory ≠ [] ∧ SocketLayout.isNamePart namePrefix = true ∧
        SocketLayout.isNamePart nameSuffix = true ∧
        profile = ⟨⟨directory, namePrefix, nameSuffix, registryPort == Port.plainFile⟩,
          registryPort, clientHost, serverHost⟩ := by
  unfold make
  rw [Outcome.map_eq_ok_iff]
  constructor
  · rintro ⟨layout, made, rfl⟩
    obtain ⟨nonempty, beginning, ending, rfl⟩ := SocketLayout.make_eq_ok_iff.mp made
    exact ⟨nonempty, beginning, ending, rfl⟩
  · rintro ⟨nonempty, beginning, ending, rfl⟩
    exact ⟨_, SocketLayout.make_eq_ok_iff.mpr ⟨nonempty, beginning, ending, rfl⟩, rfl⟩

/-- A record is restored in three steps. -/
theorem restore_eq_ok_iff : restore bytes resolve reported = .ok (naming, restored) ↔
    ∃ record, FactoryRecord.decode bytes = .ok record ∧
      resolve record.directory record.registryPort = .ok naming ∧
      make (reported naming) record.directory record.namePrefix record.nameSuffix
        record.clientHost record.serverHost = .ok restored := by
  unfold restore
  simp only [Outcome.bind_eq_ok_iff]
  constructor
  · rintro ⟨record, decoded, other, resolved, profile, made, same⟩
    cases same
    exact ⟨record, decoded, resolved, made⟩
  · rintro ⟨record, decoded, resolved, made⟩
    exact ⟨record, decoded, naming, resolved, restored, made, rfl⟩

/-- A layout of another directory with the same components has the same files. -/
theorem components_fileFor_eq {other : Path}
    (made : make registryPort directory namePrefix nameSuffix clientHost serverHost = .ok profile)
    (moved : make registryPort other namePrefix nameSuffix clientHost serverHost = .ok restored)
    (same : other.components = directory.components) (port : Port) :
    (restored.fileFor port).components = (profile.fileFor port).components := by
  obtain ⟨layout, own, rfl⟩ := Outcome.map_eq_ok_iff.mp made
  obtain ⟨movedLayout, ofOther, rfl⟩ := Outcome.map_eq_ok_iff.mp moved
  by_cases plain : registryPort = Port.plainFile
  · subst plain
    obtain ⟨_, _, _, rfl⟩ := SocketLayout.make_eq_ok_iff.mp own
    obtain ⟨_, _, _, rfl⟩ := SocketLayout.make_eq_ok_iff.mp ofOther
    exact same
  · have divided := SocketLayout.isDivided_of_make own plain
    have movedDivided := SocketLayout.isDivided_of_make ofOther plain
    obtain ⟨nonempty, _, _, rfl⟩ := SocketLayout.make_eq_ok_iff.mp own
    obtain ⟨otherNonempty, _, _, rfl⟩ := SocketLayout.make_eq_ok_iff.mp ofOther
    unfold fileFor
    rw [divided.components_fileFor nonempty, movedDivided.components_fileFor otherNonempty]
    exact congrArg (· ++ _) same

/-- The record of a factory is restored, if the naming that is found reports the port that was
asked for. What is restored writes the same record again in every working directory, and if the
factory has an absolute directory, it is that factory. A working directory is an absolute path and
its own absolute form, and only relative directories depend on it. -/
theorem restored_of_encode
    (made : make registryPort directory namePrefix nameSuffix clientHost serverHost = .ok profile)
    (located : directory.isAbsolute = true ∨ working.IsNormal)
    (written : profile.encode working = .ok bytes)
    (resolved : resolve (profile.record working).directory registryPort = .ok naming)
    (reports : reported naming = registryPort) :
    ∃ restored, restore bytes resolve reported = .ok (naming, restored) ∧
      (directory.isAbsolute = true → Restores profile restored) ∧
      ∀ other, restored.encode other = .ok bytes := by
  subst reports
  have decoded : FactoryRecord.decode bytes = .ok (profile.record working) :=
    FactoryRecord.decode_eq_ok_iff.mpr (FactoryRecord.encode_eq_ok_iff.mp written)
  obtain ⟨nonempty, beginning, ending, rfl⟩ := make_eq_ok_iff.mp made
  have normal : (Path.absolute working directory).IsNormal := Path.isNormal_absolute located
  have again : make (reported naming) (Path.absolute working directory) namePrefix nameSuffix
      clientHost serverHost = .ok _ :=
    make_eq_ok_iff.mpr ⟨normal.ne_nil, beginning, ending, rfl⟩
  refine ⟨_, restore_eq_ok_iff.mpr ⟨_, decoded, resolved, again⟩, ?_, ?_⟩
  · intro isAbsolute
    have same : (Path.absolute working directory).components = directory.components :=
      Path.components_absolute isAbsolute
    exact ⟨beq_iff_eq.mpr same, rfl, rfl, rfl, rfl, rfl, rfl,
      components_fileFor_eq made again same⟩
  · intro other
    rw [← written]
    unfold encode record
    rw [normal.absolute_eq other]

/-- A directory with two slashes at its start and one at its end, and a relative one: the record of
the first holds `//a/b/`, that of the second, which is written in `/w`, holds `/w/a/..`. -/
theorem restored_of_encode_spelled :
    (∃ restored, restore [1, 0, 6, 47, 47, 97, 47, 98, 47, 0, 0, 4, 75, 0, 0, 0, 0, 0, 1, 120]
        (fun _ port => .ok port) id = .ok (1099, restored) ∧
      Restores ⟨⟨Path.ofText "//a/.///b/", "", "x", false⟩, 1099, none, none⟩ restored) ∧
    ∃ restored, restore [1, 0, 7, 47, 119, 47, 97, 47, 46, 46, 255, 255, 255, 254, 0, 0, 0, 0, 0, 0]
        (fun _ port => .ok port) id = .ok (-2, restored) ∧
      restored.encode [] =
        .ok [1, 0, 7, 47, 119, 47, 97, 47, 46, 46, 255, 255, 255, 254, 0, 0, 0, 0, 0, 0] := by
  have made : make 1099 (Path.ofText "//a/.///b/") "" "x" none none =
      .ok ⟨⟨Path.ofText "//a/.///b/", "", "x", false⟩, 1099, none, none⟩ :=
    make_eq_ok_iff.mpr ⟨by decide, by decide, by decide, rfl⟩
  have written : FactoryProfile.encode ⟨⟨Path.ofText "//a/.///b/", "", "x", false⟩, 1099, none,
      none⟩ [] = .ok [1, 0, 6, 47, 47, 97, 47, 98, 47, 0, 0, 4, 75, 0, 0, 0, 0, 0, 1, 120] := by
    unfold FactoryProfile.encode FactoryRecord.encode
    exact Outcome.mapError_eq_ok_iff.mpr (by decide +kernel)
  obtain ⟨restored, read, restores, _⟩ := @restored_of_encode Port _ _ [] _ _ _ _ _ _ 1099
    (fun _ port => .ok port) id made (.inl (by decide +kernel)) written rfl rfl
  have relative : make (-2) (Path.ofText "./a//..") "" "" none none =
      .ok ⟨⟨Path.ofText "./a//..", "", "", true⟩, -2, none, none⟩ :=
    make_eq_ok_iff.mpr ⟨by decide, by decide, by decide, rfl⟩
  have working : (Path.ofText "/w").IsNormal :=
    .of_absolute_eq (by decide +kernel) [] (by decide +kernel)
  have writtenThere : FactoryProfile.encode ⟨⟨Path.ofText "./a//..", "", "", true⟩, -2, none, none⟩
      (Path.ofText "/w") =
        .ok [1, 0, 7, 47, 119, 47, 97, 47, 46, 46, 255, 255, 255, 254, 0, 0, 0, 0, 0, 0] := by
    unfold FactoryProfile.encode FactoryRecord.encode
    exact Outcome.mapError_eq_ok_iff.mpr (by decide +kernel)
  obtain ⟨later, readThere, _, again⟩ := @restored_of_encode Port _ _ _ _ _ _ _ _ _ (-2)
    (fun _ port => .ok port) id relative (.inr working) writtenThere rfl rfl
  exact ⟨⟨restored, read, restores (by decide +kernel)⟩, later, readThere, again []⟩

end SocketMux.FactoryProfile
