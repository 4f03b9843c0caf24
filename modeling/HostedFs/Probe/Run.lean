import HostedFs.Data.Json
import HostedFs.Host.Schedule
import HostedFs.Log.Entry
import HostedFs.Native.Library
import HostedFs.Probe.FileSystem
import HostedFs.Probe.Plan

/-! # Runs of the probe

    A run is the mount of a mission. It begins with the search for the native
    library; while the event loop runs the library calls back, and the status
    of the loop decides how the run ends.
-/

namespace HostedFs.Probe

/-- What a run works with: when it was started, and the native library. -/
structure Surroundings where
  started : Timespec
  library : Native.Cell := {}

/-- The probe's filesystem and the installed library. -/
def surroundings (installation : Native.Installation) (now : Timespec) :
    Host.Surroundings Surroundings where
  fileSystem _ _ := fileSystem.within Surroundings.started fun s started => { s with started }
  prepare _ s :=
    let (error, library, doings) := s.library.prepare installation
    (error, { s with library }, doings.events)
  unmount _ _ _ s := (some (s.library.unmount fun _ => false), s)
  notify _ _ _ _ s := (s.library.notify, s)
  now

/-- A run that has begun. -/
structure Run where
  mission : Mission
  hosts : Host.Hosts Surroundings
  /-- The process was ended at once. -/
  aborted : Bool := false

/-- What a run leaves behind. -/
structure Report where
  /-- The exit code; an aborted process has none. -/
  code : Option Nat
  printed : String := ""
  /-- What is told before anything is mounted. -/
  remarks : List String := []
  complaint : Option String := none
  /-- The events that the console shows. -/
  console : List Event := []
  /-- The lines of the log file. -/
  logLines : List String := []

namespace Report

/-- The texts on the console: the remarks, the events, and the complaint at
    last. -/
def texts (r : Report) : List String :=
  r.remarks ++ r.console.map Event.line ++ (r.complaint.map ("Error: " ++ ·)).toList

/-- A line without the carriage return at its end. -/
def withoutReturn (line : String) : String :=
  if line.endsWith "\r" then (line.dropEnd 1).toString else line

/-- The lines on the console. -/
def lines (r : Report) : List String :=
  (r.texts.flatMap (·.splitOn "\n")).map withoutReturn

end Report

/-- What a plan leaves behind at once, or the mission that is to be run. -/
def Plan.settle : Plan → Except Report Mission
  | .print text => .error { code := some exitSuccess, printed := text }
  | .refuse _ => .error { code := some exitUsage }
  | .fail message => .error { code := some exitFailure, complaint := some message }
  | .crash remarks => .error { code := some exitCrash, remarks }
  | .mount mission => .ok mission

/-- What a mission leaves behind whose log cannot be kept. -/
def Mission.withoutLog (m : Mission) : Report where
  code := some exitFailure
  remarks := m.remarks
  complaint := some noLog

/-- Begins the log file on a disk, and tells its place there. -/
def Mission.openLog (m : Mission) (d : Disk) : Except Report (Option Place) × Disk :=
  match m.logPath with
  | none => (.ok none, d)
  | some path =>
    match Log.openFile path d with
    | (.ok place, d) => (.ok (some place), d)
    | (.error _, d) => (.error m.withoutLog, d)

/-- Begins what a plan asks for on a disk: a mission with the place of its log
    file, or what is left behind at once. -/
def Plan.start (p : Plan) (d : Disk) : Except Report (Mission × Option Place) × Disk :=
  match p.settle with
  | .error report => (.error report, d)
  | .ok mission =>
    let (place, d) := mission.openLog d
    (place.map (mission, ·), d)

/-- The disk once the lines of the log are in their file. -/
def Report.store (r : Report) (place : Option Place) (d : Disk) : Disk :=
  match place with
  | none => d
  | some place => d.append place (Text.bytes (String.join (r.logLines.map (· ++ "\n"))))

namespace Run

/-- The number of the run's only mount. -/
def mount : Nat := 0

/-- Begins a run. -/
def begin (env : Host.Surroundings Surroundings) (canonical : String → Option String)
    (m : Mission) : Run :=
  let setup : Host.Setup :=
    { number := 0, settings := m.settings.host, nativeNeedsSignals := true, canonical }
  let hosts : Host.Hosts Surroundings :=
    { members := [(setup, {})], state := { started := env.now }, events := [m.announcement] }
  { mission := m, hosts := (hosts.beginMount env 0 m.mountpoint m.options).2 }

/-- The command line of the event loop, while it runs. -/
def arguments? (r : Run) : Option (List String) :=
  if r.hosts.mountPhase? 0 mount = some .running then
    some (r.mission.settings.host.arguments r.mission.mountpoint r.mission.options)
  else none

/-- The same run with an event reported. -/
def reporting (e : Event) (r : Run) : Run :=
  { r with hosts := { r.hosts with events := r.hosts.events ++ [e] } }

/-- The native side calls for the start of the mount. -/
def callInit (env : Host.Surroundings Surroundings) (context : Native.Context) (r : Run) : Run :=
  reporting .probeReady { r with hosts := (r.hosts.callInit env 0 mount context (some {})).2 }

/-- The native side calls for the end of the mount. -/
def callDestroy (env : Host.Surroundings Surroundings) (context : Native.Context) (r : Run) : Run :=
  let r := r.reporting .probeReleased
  { r with hosts := r.hosts.callDestroy env 0 mount context }

/-- The process ends at once. -/
def abort (e : Event) (r : Run) : Run :=
  { r.reporting e with aborted := true }

/-- The event loop has returned. -/
def finish (env : Host.Surroundings Surroundings) (status : Int32) (r : Run) : Run :=
  { r with hosts := r.hosts.endMount env 0 mount status }

/-- Why the mount failed, if it has. -/
def failure? (r : Run) : Option HostError :=
  r.hosts.mountFailure? 0 mount

/-- What is reported last of all: what the mount came to, unless the process was
    ended before. -/
def conclusion (r : Run) : List Event :=
  if r.aborted then []
  else
    match Host.mountOutcome r.mission.mountpoint r.failure? with
    | (true, events) => events ++ [.probeUnmounted]
    | (false, events) => events

/-- All that was reported. -/
def events (r : Run) : List Event :=
  r.hosts.events ++ r.conclusion

/-- What comes to the log file: everything, but for the report with which the
    process was ended. -/
def kept (r : Run) : List Event :=
  if r.aborted then r.events.dropLast else r.events

/-- What the run leaves behind. -/
def report (r : Run) : Report :=
  let log := r.mission.settings.log
  let line (e : Event) : String := if log.jsonFormat then Json.render e.toTree else e.line
  { code :=
      if r.aborted then none
      else if r.failure?.isSome then some exitFailure
      else some exitSuccess
    remarks := r.mission.remarks
    complaint := r.failure?.map fun _ => r.mission.complaint
    console :=
      if log.consoleOutput && !log.jsonFormat then r.events.filter r.mission.filter.passes else []
    logLines := if log.logDir.isSome then (r.kept.filter r.mission.filter.passes).map line else [] }

end Run

end HostedFs.Probe
