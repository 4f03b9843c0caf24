import HostedFs.Identity

/-! # The table of operations

    The native library takes a table with a slot for every operation it knows
    and calls back through it. This module says which slots are filled, and
    what the library tells about the request at hand.
-/

namespace HostedFs.Native

/-- The slots of the table, in order, each with whether it is filled. Locks,
    block maps, device control, polling, splicing and allocation are not
    served, and neither are the two operations that others replace. -/
def operationTable : List (String × Bool) :=
  [("getattr", true), ("readlink", true), ("getdir", false), ("mknod", true), ("mkdir", true),
    ("unlink", true), ("rmdir", true), ("symlink", true), ("rename", true), ("link", true),
    ("chmod", true), ("chown", true), ("truncate", true), ("utime", false), ("open", true),
    ("read", true), ("write", true), ("statfs", true), ("flush", true), ("release", true),
    ("fsync", true), ("setxattr", true), ("getxattr", true), ("listxattr", true),
    ("removexattr", true), ("opendir", true), ("readdir", true), ("releasedir", true),
    ("fsyncdir", true), ("init", true), ("destroy", true), ("access", true), ("create", true),
    ("ftruncate", true), ("fgetattr", true), ("lock", false), ("utimens", true), ("bmap", false),
    ("ioctl", false), ("poll", false), ("write_buf", false), ("read_buf", false), ("flock", false),
    ("fallocate", false)]

/-- The flags of the table: times to be set may carry the marks for the current
    time and for no change. -/
def tableFlags : UInt32 :=
  4

/-- What the library tells about the request at hand. -/
structure Context where
  /-- The address of the session. -/
  session : UInt64
  uid : UInt32 := 0
  gid : UInt32 := 0
  pid : Int32 := 0
  /-- The address that the mount was given. -/
  privateData : Nat
  umask : UInt32 := 0
  deriving DecidableEq, Repr

/-- Who made the request. -/
def Context.caller (c : Context) : Caller :=
  ⟨⟨c.uid⟩, ⟨c.gid⟩, ⟨c.pid⟩, c.umask⟩

end HostedFs.Native
