import HostedFs.Disk
import HostedFs.Settings.Log

/-! # Log files

    The log is kept in files of one directory. The name of a file tells when
    it was begun, as far as the rotation needs; a prefix with slashes leads to
    another directory. The directory is made if it is not there, which fails
    where a file stands in its way.
-/

namespace HostedFs.Log

/-- How often a new file is begun. -/
inductive Rotation
  | hourly
  | daily
  | never
  deriving DecidableEq, Repr

/-- The rotation that the settings ask for; daily unless they say otherwise. -/
def rotationOf (s : LogSettings) : Rotation :=
  if s.rotation = "hourly" then .hourly
  else if s.rotation = "never" then .never
  else .daily

/-- An hour of the calendar, as texts of its digits. -/
structure Hour where
  year : String
  month : String
  day : String
  hour : String
  deriving DecidableEq, Repr

/-- The part of a name that tells the time. -/
def Rotation.stamp : Rotation → Hour → Option String
  | .hourly, t => some ("-".intercalate [t.year, t.month, t.day, t.hour])
  | .daily, t => some ("-".intercalate [t.year, t.month, t.day])
  | .never, _ => none

/-- The name of the file that is begun in an hour: the prefix unless it is
    empty, the time, and the ending. -/
def fileName (s : LogSettings) (t : Hour) : String :=
  let filePrefix := if s.filePrefix.isEmpty then [] else [s.filePrefix]
  ".".intercalate (filePrefix ++ ((rotationOf s).stamp t).toList ++ ["log"])

/-- The path of the file that is begun in an hour, if any is kept. -/
def path? (s : LogSettings) (t : Hour) : Option String :=
  s.logDir.map fun dir => Path.join dir (fileName s t)

/-- Opens a log file. Where that fails it is tried once more after the directory
    of the file was made. -/
def openFile (path : String) (d : Disk) : Except Errno Place × Disk :=
  match d.openForAppending path with
  | (.ok place, d) => (.ok place, d)
  | (.error _, d) =>
    match d.makeDirectories (Path.directory path) with
    | (.ok (), d) => d.openForAppending path
    | (.error e, d) => (.error e, d)

end HostedFs.Log
