import HostedFs.Options.Parse
import HostedFs.Settings.Host

/-! # Arguments for the native library

    The native library is given a command line: the program's name, the
    mountpoint unless it is empty, the flag that keeps it in the foreground,
    the options of the mount and those of the settings. The mountpoint that a
    host records is read off that command line the way the library reads it.
-/

namespace HostedFs

namespace HostSettings

/-- The arguments after the program's name. -/
def argumentsAfterName (s : HostSettings) (mountpoint : String) (options : List String) :
    List String :=
  (if mountpoint.isEmpty then [] else [mountpoint]) ++ ["-f"] ++ options ++ s.options

/-- The whole command line. -/
def arguments (s : HostSettings) (mountpoint : String) (options : List String) : List String :=
  s.programName :: s.argumentsAfterName mountpoint options

end HostSettings

/-- The first argument that cannot be passed on because it contains a NUL. -/
def firstWithNul? (args : List String) : Option String :=
  args.find? fun arg => '\x00' ∈ arg.toList

/-- The mountpoint on a command line, without the program's name: the first
    argument that is no option, in its canonical form if the path resolves. -/
def mountpointOf (canonical : String → Option String) (args : List String) :
    Except Options.Error (Option String) := do
  let parsed ← Options.parse "" [] args
  return parsed.rest.head?.map fun path => (canonical path).getD path

end HostedFs
