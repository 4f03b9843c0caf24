import HostedFs.Data.Tree
import HostedFs.Identity
import HostedFs.Native.Memory

/-! # Native records as trees

    The records of native memory as messages and traces show them: their
    fields by name, and a time as the list of its seconds and nanoseconds.
-/

namespace HostedFs

/-- The seconds and nanoseconds. -/
def RawTime.toTree (t : RawTime) : Tree :=
  .list [.ofWord t.sec, .ofWord t.nsec]

namespace PosixStat

/-- The fields of the record. -/
def toTree (s : PosixStat) : Tree :=
  .table
    [("dev", .ofWord s.dev), ("ino", .ofWord s.ino), ("mode", .ofWord s.mode),
      ("nlink", .ofWord s.nlink), ("uid", .ofWord s.uid), ("gid", .ofWord s.gid),
      ("rdev", .ofWord s.rdev), ("size", .ofWord s.size), ("blksize", .ofWord s.blksize),
      ("blocks", .ofWord s.blocks), ("atim", s.atim.toTree), ("mtim", s.mtim.toTree),
      ("ctim", s.ctim.toTree)]

end PosixStat

namespace WinFspStat

/-- The fields of the record with their names. -/
def entries (s : WinFspStat) : List (String × Tree) :=
  [("dev", .ofWord s.dev), ("ino", .ofWord s.ino), ("mode", .ofWord s.mode),
    ("nlink", .ofWord s.nlink), ("uid", .ofWord s.uid), ("gid", .ofWord s.gid),
    ("rdev", .ofWord s.rdev), ("size", .ofWord s.size), ("blksize", .ofWord s.blksize),
    ("blocks", .ofWord s.blocks), ("atim", s.atim.toTree), ("mtim", s.mtim.toTree),
    ("ctim", s.ctim.toTree), ("birthtim", s.birthtim.toTree)]

/-- The fields of the record. -/
def toTree (s : WinFspStat) : Tree :=
  .table s.entries

end WinFspStat

/-- The fields of the record, those of its base among them. -/
def WinFspStatEx.toTree (s : WinFspStatEx) : Tree :=
  let (a, b, c) := s.reserved32
  let (d, e) := s.reserved64
  .table (s.base.entries ++
    [("flags", .ofWord s.flags),
      ("reserved", .list
        [.list [.ofWord a, .ofWord b, .ofWord c], .list [.ofWord d, .ofWord e]])])

/-- The fields of the record. -/
def StatvfsRecord.toTree (s : StatvfsRecord) : Tree :=
  .table
    [("bsize", .ofWord s.bsize), ("frsize", .ofWord s.frsize), ("blocks", .ofWord s.blocks),
      ("bfree", .ofWord s.bfree), ("bavail", .ofWord s.bavail), ("files", .ofWord s.files),
      ("ffree", .ofWord s.ffree), ("favail", .ofWord s.favail), ("fsid", .ofWord s.fsid),
      ("flag", .ofWord s.flag), ("namemax", .ofWord s.namemax)]

/-- The fields of the record. -/
def WinFspStatvfs.toTree (s : WinFspStatvfs) : Tree :=
  .table
    [("bsize", .ofWord s.bsize), ("frsize", .ofWord s.frsize), ("blocks", .ofWord s.blocks),
      ("bfree", .ofWord s.bfree), ("bavail", .ofWord s.bavail), ("files", .ofWord s.files),
      ("ffree", .ofWord s.ffree), ("favail", .ofWord s.favail), ("fsid", .ofWord s.fsid),
      ("flag", .ofWord s.flag), ("namemax", .ofWord s.namemax)]

/-- The fields of file information that a request may change or set. -/
def FileInfo.toTree (info : FileInfo) : Tree :=
  .table [("fh", .ofWord info.fh), ("bits", .ofWord info.bits), ("flags", .ofWord info.flags)]

/-- An entry of a directory: its name, its metadata if it has any, and the
    position after it. -/
def DirEntry.toTree (e : DirEntry) : Tree :=
  .list [.text ((Text.ofBytes? e.name).getD ""), .orNothing PosixStat.toTree e.stat,
    .ofWord e.next]

/-- Who makes a request, by numbers. -/
def Caller.toTree (c : Caller) : Tree :=
  .table [("uid", .ofWord c.uid.value), ("gid", .ofWord c.gid.value), ("pid", .ofWord c.pid.value),
    ("umask", .ofWord c.umask)]

end HostedFs
