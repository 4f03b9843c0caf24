import HostedFs.Time.Timespec

/-! # Metadata of files and of filesystems

    Records with fields wide enough for every native layout.
-/

namespace HostedFs

/-! ## File modes -/

namespace Mode

/-- The bits of a mode that tell the type of a file. -/
def typeMask : UInt32 :=
  0o170000

def symlink : UInt32 :=
  0o120000

def regular : UInt32 :=
  0o100000

def directory : UInt32 :=
  0o040000

end Mode

/-! ## Files -/

/-- Metadata of a file. -/
structure Stat where
  dev : UInt64 := 0
  ino : UInt64 := 0
  mode : UInt32 := 0
  nlink : UInt32 := 0
  uid : UInt32 := 0
  gid : UInt32 := 0
  rdev : UInt64 := 0
  size : Int64 := 0
  atim : Timespec := .zero
  mtim : Timespec := .zero
  ctim : Timespec := .zero
  /-- Birth time; zero when it is not known. -/
  birthtim : Timespec := .zero
  blksize : Int64 := 0
  blocks : Int64 := 0
  /-- File flags, for layouts that have them. -/
  flags : UInt32 := 0
  deriving DecidableEq, Repr

namespace Stat

/-- A directory with the permission bits of a mode. -/
def directory (perm : UInt32) : Stat :=
  { mode := Mode.directory ||| (perm &&& ~~~Mode.typeMask), nlink := 2 }

/-- A regular file with the permission bits of a mode. -/
def regular (perm : UInt32) (size : Int64) : Stat :=
  { mode := Mode.regular ||| (perm &&& ~~~Mode.typeMask), nlink := 1, size }

/-- The type bits of the mode. -/
def fileType (s : Stat) : UInt32 :=
  s.mode &&& Mode.typeMask

def isDirectory (s : Stat) : Bool :=
  s.fileType == Mode.directory

def isRegular (s : Stat) : Bool :=
  s.fileType == Mode.regular

def isSymlink (s : Stat) : Bool :=
  s.fileType == Mode.symlink

/-- The birth time, for which the change time stands in when it is not known. -/
def effectiveBirth (s : Stat) : Timespec :=
  if s.birthtim.isZero then s.ctim else s.birthtim

/-- The same metadata with all four times set to one stamp. -/
def withTimes (s : Stat) (t : Timespec) : Stat :=
  { s with atim := t, mtim := t, ctim := t, birthtim := t }

end Stat

/-! ## Filesystems -/

/-- Capacity and use of a filesystem. -/
structure Statfs where
  bsize : UInt64 := 0
  frsize : UInt64 := 0
  blocks : UInt64 := 0
  bfree : UInt64 := 0
  bavail : UInt64 := 0
  files : UInt64 := 0
  ffree : UInt64 := 0
  favail : UInt64 := 0
  fsid : UInt64 := 0
  flag : UInt64 := 0
  namemax : UInt64 := 0
  deriving DecidableEq, Repr

end HostedFs
