import SocketMux.Config.Table
import SocketMux.Layout

/-!
# Configurations

A configuration names the socket directory; all other settings have defaults. It is
valid if its layout is.
-/

namespace SocketMux

/-- The settings of a factory. -/
structure MuxConfig where
  directory : Path
  namePrefix : String
  nameSuffix : String
  registryPort : Port
  /-- The host by which low ports are served conventionally. -/
  conventionalHost : Option String
deriving DecidableEq, Repr

namespace MuxConfig

/-- The settings of a directory with all defaults. -/
def ofDirectory (directory : Path) : MuxConfig :=
  ⟨directory, SocketLayout.defaultPrefix, SocketLayout.defaultSuffix, Port.defaultRegistry, none⟩

/-- The layout of a configuration. -/
def layout (config : MuxConfig) : Except MuxError SocketLayout :=
  SocketLayout.make config.directory config.namePrefix config.nameSuffix config.registryPort

/-- Refuse a configuration whose layout is refused. -/
def validate (config : MuxConfig) : Except MuxError Unit := config.layout.map fun _ => ()

/-- Apply one assignment; unknown keys and values of the wrong sort are refused. -/
def assign? (config : MuxConfig) (key : List Char) (value : Config.Table.Value) :
    Option MuxConfig :=
  match String.ofList key, value with
  | "socket_dir", .text text => some { config with directory := Text.Utf8.encode text }
  | "prefix", .text text => some { config with namePrefix := String.ofList text }
  | "suffix", .text text => some { config with nameSuffix := String.ofList text }
  | "conventional_host", .text text =>
    some { config with conventionalHost := some (String.ofList text) }
  | "registry_port", .integer number =>
    if -0x80000000 ≤ number ∧ number < 0x80000000 then
      some { config with registryPort := Int32.ofInt number }
    else none
  | _, _ => none

/-- The settings of a table, which has to name the directory. -/
def ofTable? (table : List (List Char × Config.Table.Value)) : Option MuxConfig :=
  if table.any fun entry => entry.1 == "socket_dir".toList then
    table.foldlM (fun config (key, value) => config.assign? key value) (ofDirectory [])
  else none

/-- Read a configuration and validate it. -/
def ofText (text : List Char) : Except MuxError MuxConfig :=
  match (Config.Table.read? text).bind ofTable? with
  | none => .error (.invalidConfig .malformedText)
  | some config => config.validate.map fun _ => config

/-- Read a configuration from the bytes of a file. -/
def ofFile (content : Except Fault (List UInt8)) : Except MuxError MuxConfig :=
  match content with
  | .error fault => .error (.fault .readConfiguration fault)
  | .ok bytes =>
    match Text.Utf8.decode bytes with
    | .error _ =>
      .error (.fault .readConfiguration
        (.described .invalidData "stream did not contain valid UTF-8"))
    | .ok text => ofText text

end MuxConfig

end SocketMux
