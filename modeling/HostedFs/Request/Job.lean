import HostedFs.FileSystem.Call
import HostedFs.Request.Basic

/-! # Decoded requests

    A job is a request whose arguments make sense. Decoding looks at the
    arguments in a fixed order, and the first bad one decides the error
    number; nothing has been asked of the implementation by then.
-/

namespace HostedFs

/-- What remains to be done for a request once its arguments are decoded. -/
inductive Job
  /-- One call that answers nothing. In a lenient job an operation that is not
      implemented counts as done. -/
  | effect (e : Effect) (lenient : Bool)
  | statfs (path : String) (record : Option StatvfsRecord)
  | readlink (path : String) (buffer : Buffer)
  | getattr (path : String) (handle : Option UInt64) (record : PosixStat)
  /-- Sets two times; `none` for null, which means the current time for both. -/
  | utimens (path : String) (times : Option (TimeUpdate × TimeUpdate))
  | getpath (path : String) (handle : Option UInt64) (buffer : Buffer)
  | openFile (path : String) (info : FileInfo)
  | create (path : String) (mode : UInt32) (info : FileInfo)
  | read (path : String) (buffer : Buffer) (offset : Int64) (handle : UInt64)
  | write (path : String) (data : Buffer) (offset : Int64) (handle : UInt64)
  | opendir (path : String) (info : FileInfo)
  | readdir (path : String) (sink : DirSink) (offset : Int64) (handle : UInt64)
  | getxattr (path name : String) (buffer : Buffer)
  | listxattr (path : String) (buffer : Buffer)

namespace Request

/-- A null address is the error given. -/
def required {α : Type} (e : Errno) : Option α → Except Errno α
  | none => .error e
  | some a => .ok a

/-- A job that is one call which must be implemented. -/
def strict (e : Effect) : Job :=
  .effect e false

/-- The job of a request, or the error number of its first bad argument. -/
def decode : Request → Except Errno Job
  | .statfs path record => do
    return .statfs (← path.read) record
  | .mknod path mode dev => do
    return strict (.mknod (← path.read) mode dev)
  | .mkdir path mode => do
    return strict (.mkdir (← path.read) mode)
  | .unlink path => do
    return strict (.unlink (← path.read))
  | .rmdir path => do
    return strict (.rmdir (← path.read))
  | .symlink target new => do
    let target ← target.read
    return strict (.symlink target (← new.read))
  | .link path new => do
    let path ← path.read
    return strict (.link path (← new.read))
  | .rename path new => do
    let path ← path.read
    return strict (.rename path (← new.read) 0)
  | .readlink path buffer => do
    return .readlink (← path.read) buffer
  | .getattr path record => do
    let record ← required .invalid record
    return .getattr (← path.read) none record
  | .fgetattr path record info => do
    let record ← required .invalid record
    return .getattr (← path.read) (FileInfo.realHandle (FileInfo.handleOf info)) record
  | .chmod path mode => do
    return strict (.chmod (← path.read) mode)
  | .chown path uid gid => do
    return strict (.chown (← path.read) uid gid)
  | .truncate path size => do
    return strict (.truncate (← path.read) size none)
  | .ftruncate path size info => do
    return strict
      (.truncate (← path.read) size (FileInfo.realHandle (FileInfo.handleOf info)))
  | .access path mask => do
    return strict (.access (← path.read) mask.toUInt32)
  | .utimens path times => do
    return .utimens (← path.read) (times.map fun (atime, mtime) => (atime.toUpdate, mtime.toUpdate))
  | .setchgtime path time => do
    let time ← required .invalid time
    return strict (.setchgtime (← path.read) time.toTimespec)
  | .setcrtime path time => do
    let time ← required .invalid time
    return strict (.setcrtime (← path.read) time.toTimespec)
  | .chflags path flags => do
    return strict (.chflags (← path.read) flags)
  | .getpath path buffer info => do
    return .getpath (← path.read) (FileInfo.realHandle (FileInfo.handleOf info)) buffer
  | .openFile path info => do
    let info ← required .invalid info
    return .openFile (← path.read) info
  | .create path mode info => do
    let info ← required .invalid info
    return .create (← path.read) mode info
  | .read path buffer offset info => do
    return .read (← path.read) buffer offset (FileInfo.handleOf info)
  | .write path data offset info => do
    return .write (← path.read) data offset (FileInfo.handleOf info)
  | .flush path info => do
    return strict (.flush (← path.read) (FileInfo.handleOf info))
  | .release path info => do
    return strict (.release (← path.read) (FileInfo.handleOf info))
  | .fsync path dataOnly info => do
    return .effect (.fsync (← path.read) (dataOnly != 0) (FileInfo.handleOf info)) true
  | .opendir path info => do
    let info ← required .invalid info
    return .opendir (← path.read) info
  | .readdir path sink offset info => do
    let sink ← required .io sink
    return .readdir (← path.read) sink offset (FileInfo.handleOf info)
  | .releasedir path info => do
    return strict (.releasedir (← path.read) (FileInfo.handleOf info))
  | .fsyncdir path dataOnly info => do
    return .effect (.fsyncdir (← path.read) (dataOnly != 0) (FileInfo.handleOf info)) true
  | .setxattr path name value flags => do
    let path ← path.read
    return strict (.setxattr path (← name.read) value.bytes flags)
  | .getxattr path name buffer => do
    let path ← path.read
    return .getxattr path (← name.read) buffer
  | .listxattr path buffer => do
    return .listxattr (← path.read) buffer
  | .removexattr path name => do
    let path ← path.read
    return strict (.removexattr path (← name.read))

end Request

end HostedFs
