import HostedFs.Log.File
import HostedFs.Log.Filter
import HostedFs.Probe.Arguments
import HostedFs.Settings.Document
import HostedFs.Text.Utf8

/-! # What the probe does

    From its command line and the configuration file the probe makes a plan:
    to print something, to complain, or to mount.
-/

namespace HostedFs.Probe

/-- The name of the program. -/
def programName : String :=
  "fusehost-probe"

/-- The text for `--version`. -/
def versionText : String :=
  "fusehost-probe 0.1.0\n"

/-- The text for `--help`. -/
def helpText : String :=
  "Mounts a tiny read-only filesystem to check that the FUSE stack on this machine works\n" ++
  "\n" ++
  "Usage: fusehost-probe [OPTIONS] [MOUNTPOINT]\n" ++
  "\n" ++
  "Arguments:\n" ++
  "  [MOUNTPOINT]  Directory (or drive letter on Windows) to mount on\n" ++
  "\n" ++
  "Options:\n" ++
  "  -o <OPTIONS>               Native mount options, comma separated; repeatable\n" ++
  "  -d, --debug                Enable native debug output\n" ++
  "  -s, --single-threaded      Serve requests from a single thread\n" ++
  "  -c, --config <CONFIG>      Path to configuration file\n" ++
  "      --dump-default-config  Dump default configuration and exit\n" ++
  "  -h, --help                 Print help\n" ++
  "  -V, --version              Print version\n"

/-! ## Configuration -/

/-- Why there is no configuration. -/
inductive ConfigError
  /-- The file cannot be read, or is no text. -/
  | reading (path : String)
  /-- The document makes no sense. -/
  | parsing (path : String)
  deriving DecidableEq, Repr

/-- The text shown for an error. -/
def ConfigError.message : ConfigError → String
  | .reading path => "reading " ++ path
  | .parsing path => "parsing " ++ path

/-- The settings in a file, or the standard ones without a file. `read` gives
    the content of a file that can be read. -/
def loadSettings (toml : Codec (List (String × Tree))) (program : String)
    (read : String → Option (List UInt8)) : Option String → Except ConfigError ProbeSettings
  | none => .ok (.standard program)
  | some path =>
    match (read path).bind Text.ofBytes? with
    | none => .error (.reading path)
    | some text =>
      match ProbeSettings.parse? toml program text with
      | none => .error (.parsing path)
      | some settings => .ok settings

/-! ## Plans -/

/-- A mount that the probe is to make. -/
structure Mission where
  settings : ProbeSettings
  /-- What is logged. -/
  filter : Log.Filter
  /-- What is told about the filter. -/
  remarks : List String
  mountpoint : String
  options : List String
  /-- The path of the log file that is begun. -/
  logPath : Option String
  deriving DecidableEq, Repr

/-- What the probe is to do. -/
inductive Plan
  /-- To print a text. -/
  | print (text : String)
  /-- To refuse the command line. -/
  | refuse (refusal : Refusal)
  /-- To fail before anything is mounted. -/
  | fail (message : String)
  /-- To break off, with some remarks. -/
  | crash (remarks : List String)
  | mount (mission : Mission)

/-- The options for the native library. -/
def nativeOptions (a : Arguments) : List String :=
  (if a.debug then ["-d"] else []) ++ (if a.singleThreaded then ["-s"] else []) ++
    a.options.flatMap fun o => ["-o", o]

/-- The plan for a command line in an hour. `read` gives the content of a file
    that can be read. -/
def plan (toml : Codec (List (String × Tree))) (program : String)
    (read : String → Option (List UInt8)) (now : Log.Hour) (argv : List String) : Plan :=
  match readArguments argv with
  | .error .displayHelp => .print helpText
  | .error .displayVersion => .print versionText
  | .error refusal => .refuse refusal
  | .ok a =>
    if a.dumpDefaultConfig then .print ((ProbeSettings.standard program).render toml)
    else
      match loadSettings toml program read a.config with
      | .error e => .fail e.message
      | .ok settings =>
        let remarks := Log.Filter.remarks settings.log.level
        match Log.Filter.ofText? settings.log.level with
        | none => .crash remarks
        | some filter =>
          .mount ⟨settings, filter, remarks, a.mountpoint.getD "", nativeOptions a,
            Log.path? settings.log now⟩

namespace Mission

/-- What is reported before the mount. -/
def announcement (m : Mission) : Event :=
  .starting m.mountpoint m.options

/-- The complaint about a mount that failed. -/
def complaint (m : Mission) : String :=
  "mount of " ++ Text.quoted m.mountpoint ++ " failed"

end Mission

/-! ## Endings -/

/-- The complaint when the log cannot be kept. -/
def noLog : String :=
  "initializing logging"

/-- The exit code of a success, of a failure, of a command line that makes no
    sense, and of a program that broke off. -/
def exitSuccess : Nat := 0

def exitFailure : Nat := 1

def exitUsage : Nat := 2

def exitCrash : Nat := 101

end HostedFs.Probe
