import HostedFs.Data.Codec
import HostedFs.Settings.Host
import HostedFs.Settings.Log

/-! # Settings in documents

    Settings are written as TOML, a field after the other, and read from a
    document that may leave any of them out. A field that is left out has its
    default; what a document says besides is ignored. The documents themselves
    are those of a `Codec`.

    * `HostSettings.render`, `HostSettings.parse?`: a host's settings. The
      default of `programName` is the name of the running program, so reading
      takes it as an argument.
    * `LogSettings.render`, `LogSettings.parse?`: those of the log.
    * `ProbeSettings.render`, `ProbeSettings.parse?`: both, a table for each.
-/

namespace HostedFs

variable (toml : Codec (List (String × Tree)))

namespace Tree

/-- A value that may be left out. -/
def orDefault {α : Type} (read : Tree → Option α) (default : α) : Option Tree → Option α
  | none => some default
  | some tree => read tree

/-- How settings are read: items that a list has too many are ignored. -/
def lenient : Strictness :=
  ⟨true⟩

end Tree

open HostedFs.Tree (orDefault)

/-! ## Settings of a host -/

namespace HostSettings

def fieldNames : List String :=
  ["program_name", "case_insensitive", "readdir_plus", "delete_access", "open_trunc", "direct_io",
    "signal_unmount", "options"]

/-- The settings as the entries of a document. -/
def entries (s : HostSettings) : List (String × Tree) :=
  [("program_name", .text s.programName), ("case_insensitive", .flag s.caseInsensitive),
    ("readdir_plus", .flag s.readdirPlus), ("delete_access", .flag s.deleteAccess),
    ("open_trunc", .flag s.openTrunc), ("direct_io", .flag s.directIo),
    ("signal_unmount", .flag s.signalUnmount), ("options", .list (s.options.map .text))]

/-- The settings that a tree spells. -/
def ofTree? (programName : String) (tree : Tree) : Option HostSettings :=
  match tree.fields? Tree.lenient fieldNames with
  | some [name, caseInsensitive, readdirPlus, deleteAccess, openTrunc, directIo, signalUnmount,
      options] => do
    return {
      programName := ← orDefault Tree.text? programName name
      caseInsensitive := ← orDefault Tree.flag? false caseInsensitive
      readdirPlus := ← orDefault Tree.flag? false readdirPlus
      deleteAccess := ← orDefault Tree.flag? false deleteAccess
      openTrunc := ← orDefault Tree.flag? false openTrunc
      directIo := ← orDefault Tree.flag? false directIo
      signalUnmount := ← orDefault Tree.flag? true signalUnmount
      options := ← orDefault Tree.texts? [] options }
  | _ => none

/-- The document of the settings. -/
def render (s : HostSettings) : String :=
  toml.render s.entries

/-- The settings that a document spells. -/
def parse? (programName : String) (text : String) : Option HostSettings := do
  ofTree? programName (← toml.parse? text)

end HostSettings

/-! ## Settings of the log -/

namespace LogSettings

def fieldNames : List String :=
  ["level", "log_dir", "file_prefix", "rotation", "json_format", "console_output"]

/-- The settings as the entries of a document. Where there is no directory,
    nothing is said of it. -/
def entries (s : LogSettings) : List (String × Tree) :=
  [("level", .text s.level)] ++ (s.logDir.map fun dir => ("log_dir", Tree.text dir)).toList ++
    [("file_prefix", .text s.filePrefix), ("rotation", .text s.rotation),
      ("json_format", .flag s.jsonFormat), ("console_output", .flag s.consoleOutput)]

/-- The settings that a tree spells. -/
def ofTree? (tree : Tree) : Option LogSettings :=
  match tree.fields? Tree.lenient fieldNames with
  | some [level, logDir, filePrefix, rotation, jsonFormat, consoleOutput] => do
    return {
      level := ← orDefault Tree.text? standardLevel level
      logDir := ← orDefault (fun tree => tree.text?.map some) none logDir
      filePrefix := ← orDefault Tree.text? standardPrefix filePrefix
      rotation := ← orDefault Tree.text? standardRotation rotation
      jsonFormat := ← orDefault Tree.flag? false jsonFormat
      consoleOutput := ← orDefault Tree.flag? true consoleOutput }
  | _ => none

/-- The document of the settings. -/
def render (s : LogSettings) : String :=
  toml.render s.entries

/-- The settings that a document spells. -/
def parse? (text : String) : Option LogSettings := do
  ofTree? (← toml.parse? text)

end LogSettings

/-! ## Settings of the probe -/

/-- The settings of the probe: a table for each of its parts. -/
structure ProbeSettings where
  log : LogSettings := {}
  host : HostSettings
  deriving DecidableEq, Repr

namespace ProbeSettings

def fieldNames : List String :=
  ["log", "host"]

/-- The settings where a document says nothing. -/
def standard (programName : String) : ProbeSettings where
  host := { programName }

/-- The settings as the entries of a document. -/
def entries (s : ProbeSettings) : List (String × Tree) :=
  [("log", .table s.log.entries), ("host", .table s.host.entries)]

/-- The settings that a tree spells. -/
def ofTree? (programName : String) (tree : Tree) : Option ProbeSettings :=
  match tree.fields? Tree.lenient fieldNames with
  | some [log, host] => do
    return {
      log := ← orDefault LogSettings.ofTree? (standard programName).log log
      host := ← orDefault (HostSettings.ofTree? programName) (standard programName).host host }
  | _ => none

/-- The document of the settings. -/
def render (s : ProbeSettings) : String :=
  toml.render s.entries

/-- The settings that a document spells. -/
def parse? (programName : String) (text : String) : Option ProbeSettings := do
  ofTree? programName (← toml.parse? text)

end ProbeSettings

end HostedFs
