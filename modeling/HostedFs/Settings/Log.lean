/-! # Settings of the log -/

namespace HostedFs

namespace LogSettings

def standardLevel : String :=
  "info"

def standardPrefix : String :=
  "fusehost"

def standardRotation : String :=
  "daily"

end LogSettings

/-- What is logged, and where. -/
structure LogSettings where
  /-- The filter that events must pass. -/
  level : String := LogSettings.standardLevel
  /-- The directory for log files; without one there are none. -/
  logDir : Option String := none
  filePrefix : String := LogSettings.standardPrefix
  /-- How often a new file is begun: hourly, daily or never. -/
  rotation : String := LogSettings.standardRotation
  /-- Events are written as JSON objects. -/
  jsonFormat : Bool := false
  /-- Events are shown on the console, too. -/
  consoleOutput : Bool := true
  deriving DecidableEq, Repr

end HostedFs
