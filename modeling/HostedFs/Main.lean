import HostedFs.Probe.Run
import Std.Time.DateTime

/-! # The probe as a program

    The outer layer: it reads the configuration file, asks for the time, has
    the plan carried out, and prints what a run leaves behind. It brings no
    native library along, so a mount ends like one where none is installed.
-/

namespace HostedFs.Probe

/-- The content of a file, if it can be read. -/
def content? (path : String) : IO (Option (List UInt8)) := do
  try
    return some (← IO.FS.readBinFile path).toList
  catch _ => return none

/-- A number with two digits. -/
def twoDigits (n : Nat) : String :=
  (if n < 10 then "0" else "") ++ toString n

/-- The present hour and the present time. -/
def present : IO (Log.Hour × Timespec) := do
  let stamp ← Std.Time.Timestamp.now
  let date := Std.Time.PlainDate.ofEpochDay stamp.toDaysSinceUnixEpoch
  let seconds := stamp.toSecondsSinceUnixEpoch.val
  let hour : Log.Hour :=
    { year := toString date.year.toInt
      month := twoDigits date.month.val.toNat
      day := twoDigits date.day.val.toNat
      hour := twoDigits (seconds / 3600 % 24).toNat }
  return (hour, .ofParts (Int64.ofInt seconds) 0)

/-- Opens the log file, whose directory is made if need be. -/
def openLog (path : String) : IO IO.FS.Handle := do
  try
    IO.FS.Handle.mk path .append
  catch _ =>
    IO.FS.createDirAll (Path.directory path)
    IO.FS.Handle.mk path .append

/-- Prints what a run leaves behind. -/
def leave (report : Report) : IO UInt32 := do
  IO.print report.printed
  for text in report.texts do
    IO.eprintln text
  return UInt32.ofNat (report.code.getD exitFailure)

/-- Runs a mission where no native library is installed. -/
def perform (now : Timespec) (mission : Mission) : IO Report := do
  let installation : Native.Installation :=
    { preferred := ← IO.getEnv "FUSEHOST_LIBRARY", symbols := fun _ => none }
  try
    let log ← mission.logPath.mapM openLog
    let report := (Run.begin (surroundings installation now) (fun _ => none) mission).report
    if let some log := log then
      for line in report.logLines do
        log.putStrLn line
    return report
  catch _ => return mission.withoutLog

end HostedFs.Probe

open HostedFs.Probe in
/-- Carries out a command line. -/
def main (args : List String) : IO UInt32 := do
  let argv := programName :: args
  let config := (readArguments argv).toOption.bind Arguments.config
  let content ←
    match config with
    | none => pure none
    | some path => content? path
  let (hour, now) ← present
  match (plan HostedFs.Toml.codec programName (fun _ => content) hour argv).settle with
  | .error report => leave report
  | .ok mission => leave (← perform now mission)
