import HostedFs.Capability

/-! # Settings of a host -/

namespace HostedFs

/-- How a host mounts and serves its filesystem. -/
structure HostSettings where
  /-- The name under which the native library reports. -/
  programName : String
  caseInsensitive : Bool := false
  readdirPlus : Bool := false
  deleteAccess : Bool := false
  openTrunc : Bool := false
  /-- Files are opened past the page cache. -/
  directIo : Bool := false
  /-- A signal that asks the process to end unmounts first. -/
  signalUnmount : Bool := true
  /-- Further arguments for the native library. -/
  options : List String := []
  deriving DecidableEq, Repr

/-- The features that a host asks for. -/
def HostSettings.requested (s : HostSettings) : Capabilities where
  caseInsensitive := s.caseInsensitive
  readdirPlus := s.readdirPlus
  deleteAccess := s.deleteAccess
  openTrunc := s.openTrunc

end HostedFs
