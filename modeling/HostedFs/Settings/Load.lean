import HostedFs.Disk
import HostedFs.Settings.Document
import HostedFs.Text.Utf8

/-! # Settings in files

    * `HostSettings.LoadError`: why a file has no settings.
    * `HostSettings.load`: the settings of a host that are kept in a file.
-/

namespace HostedFs

/-- Why there is no text in a file. -/
inductive ReadError
  /-- The system's reason. -/
  | system (reason : Errno)
  /-- The content is not in UTF-8. -/
  | notText
  deriving DecidableEq, Repr

def ReadError.message : ReadError → String
  | system reason => reason.message
  | notText => "stream did not contain valid UTF-8"

/-- The text of the file that a path leads to. -/
def Disk.readText (d : Disk) (path : String) : Except ReadError String :=
  match d.read path with
  | .error reason => .error (.system reason)
  | .ok content =>
    match Text.ofBytes? content with
    | some text => .ok text
    | none => .error .notText

namespace HostSettings

/-- Why there are no settings in a file. -/
inductive LoadError
  | io (reason : ReadError)
  /-- The library for the format has its own words for what is wrong. -/
  | parse (reason : String)
  deriving DecidableEq, Repr

def LoadError.caseName : LoadError → String
  | io _ => "Io"
  | parse _ => "Parse"

def LoadError.message : LoadError → String
  | io reason => "failed to read config: " ++ reason.message
  | parse reason => "failed to parse config: " ++ reason

/-- The settings in the file that a path leads to. `explain` tells what is wrong
    with a document. -/
def load (toml : Codec (List (String × Tree))) (explain : String → String) (programName : String)
    (d : Disk) (path : String) : Except LoadError HostSettings :=
  match d.readText path with
  | .error reason => .error (.io reason)
  | .ok text =>
    match parse? toml programName text with
    | some settings => .ok settings
    | none => .error (.parse (explain text))

end HostSettings

end HostedFs
