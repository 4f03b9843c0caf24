import HostedFs.Native.Memory

/-! # Requests of the native side

    A request names an operation and passes its arguments as the native side
    has them: texts by address, words, and addresses of memory to be filled.
-/

namespace HostedFs

/-- The native side's sink for directory entries: what it answers to the last
    of the entries that it was offered so far. Zero means that it took it. -/
abbrev DirSink :=
  List DirEntry → Int32

/-- A request. -/
inductive Request
  | statfs (path : NativeText) (record : Option StatvfsRecord)
  | mknod (path : NativeText) (mode : UInt32) (dev : UInt64)
  | mkdir (path : NativeText) (mode : UInt32)
  | unlink (path : NativeText)
  | rmdir (path : NativeText)
  | symlink (target new : NativeText)
  | link (path new : NativeText)
  | rename (path new : NativeText)
  | readlink (path : NativeText) (buffer : Buffer)
  | getattr (path : NativeText) (record : Option PosixStat)
  | fgetattr (path : NativeText) (record : Option PosixStat) (info : Option FileInfo)
  | chmod (path : NativeText) (mode : UInt32)
  | chown (path : NativeText) (uid gid : UInt32)
  | truncate (path : NativeText) (size : Int64)
  | ftruncate (path : NativeText) (size : Int64) (info : Option FileInfo)
  | access (path : NativeText) (mask : Int32)
  | utimens (path : NativeText) (times : Option (RawTime × RawTime))
  | setchgtime (path : NativeText) (time : Option RawTime)
  | setcrtime (path : NativeText) (time : Option RawTime)
  | chflags (path : NativeText) (flags : UInt32)
  | getpath (path : NativeText) (buffer : Buffer) (info : Option FileInfo)
  | openFile (path : NativeText) (info : Option FileInfo)
  | create (path : NativeText) (mode : UInt32) (info : Option FileInfo)
  | read (path : NativeText) (buffer : Buffer) (offset : Int64) (info : Option FileInfo)
  | write (path : NativeText) (data : Buffer) (offset : Int64) (info : Option FileInfo)
  | flush (path : NativeText) (info : Option FileInfo)
  | release (path : NativeText) (info : Option FileInfo)
  | fsync (path : NativeText) (dataOnly : Int32) (info : Option FileInfo)
  | opendir (path : NativeText) (info : Option FileInfo)
  | readdir (path : NativeText) (sink : Option DirSink) (offset : Int64) (info : Option FileInfo)
  | releasedir (path : NativeText) (info : Option FileInfo)
  | fsyncdir (path : NativeText) (dataOnly : Int32) (info : Option FileInfo)
  | setxattr (path name : NativeText) (value : Buffer) (flags : Int32)
  | getxattr (path name : NativeText) (buffer : Buffer)
  | listxattr (path : NativeText) (buffer : Buffer)
  | removexattr (path name : NativeText)

namespace Request

/-- The name of the operation, as reports show it. -/
def operation : Request → String
  | .statfs .. => "statfs"
  | .mknod .. => "mknod"
  | .mkdir .. => "mkdir"
  | .unlink .. => "unlink"
  | .rmdir .. => "rmdir"
  | .symlink .. => "symlink"
  | .link .. => "link"
  | .rename .. => "rename"
  | .readlink .. => "readlink"
  | .getattr .. => "getattr"
  | .fgetattr .. => "fgetattr"
  | .chmod .. => "chmod"
  | .chown .. => "chown"
  | .truncate .. => "truncate"
  | .ftruncate .. => "ftruncate"
  | .access .. => "access"
  | .utimens .. => "utimens"
  | .setchgtime .. => "setchgtime"
  | .setcrtime .. => "setcrtime"
  | .chflags .. => "chflags"
  | .getpath .. => "getpath"
  | .openFile .. => "open"
  | .create .. => "create"
  | .read .. => "read"
  | .write .. => "write"
  | .flush .. => "flush"
  | .release .. => "release"
  | .fsync .. => "fsync"
  | .opendir .. => "opendir"
  | .readdir .. => "readdir"
  | .releasedir .. => "releasedir"
  | .fsyncdir .. => "fsyncdir"
  | .setxattr .. => "setxattr"
  | .getxattr .. => "getxattr"
  | .listxattr .. => "listxattr"
  | .removexattr .. => "removexattr"

/-- The memory that the request may change, as it is before. -/
def memory : Request → Memory
  | .statfs _ record => .statvfs record
  | .readlink _ buffer | .getpath _ buffer _ | .read _ buffer _ _ | .getxattr _ _ buffer
  | .listxattr _ buffer => .buffer buffer
  | .getattr _ record | .fgetattr _ record _ => .stat record
  | .openFile _ info | .create _ _ info | .opendir _ info => .file info
  | .readdir .. => .entries []
  | .mknod .. | .mkdir .. | .unlink .. | .rmdir .. | .symlink .. | .link .. | .rename .. | .chmod ..
  | .chown .. | .truncate .. | .ftruncate .. | .access .. | .utimens .. | .setchgtime ..
  | .setcrtime .. | .chflags .. | .write .. | .flush .. | .release .. | .fsync .. | .releasedir ..
  | .fsyncdir .. | .setxattr .. | .removexattr .. => .nothing

end Request

/-! ## Handles -/

namespace FileInfo

/-- The handle that stands for none: the file is known by its path. -/
def noHandle : UInt64 :=
  18446744073709551615

/-- The handle in file information; null has none. -/
def handleOf : Option FileInfo → UInt64
  | none => noHandle
  | some info => info.fh

/-- A handle that stands for a file. -/
def realHandle (fh : UInt64) : Option UInt64 :=
  if fh = noHandle then none else some fh

end FileInfo

end HostedFs
