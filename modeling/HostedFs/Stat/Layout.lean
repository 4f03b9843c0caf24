import HostedFs.Capability
import HostedFs.Stat.Basic
import HostedFs.Time.Native

/-! # Native records of metadata

    Each layout is a record with the widths of one native library. A store
    replaces the whole destination: every field comes from the metadata,
    clamped to its width, and what the layout reserves becomes zero.
-/

namespace HostedFs

/-! ## POSIX -/

/-- File metadata as a POSIX library reads it. -/
structure PosixStat where
  dev : UInt64
  ino : UInt64
  mode : UInt32
  nlink : UInt64
  uid : UInt32
  gid : UInt32
  rdev : UInt64
  size : Int64
  blksize : Int64
  blocks : Int64
  atim : RawTime
  mtim : RawTime
  ctim : RawTime
  deriving DecidableEq, Repr

/-- Overwrites a record with the metadata of a file. -/
def PosixStat.store (_destination : PosixStat) (s : Stat) : PosixStat where
  dev := fit s.dev
  ino := fit s.ino
  mode := fit s.mode
  nlink := fit s.nlink
  uid := s.uid
  gid := s.gid
  rdev := fit s.rdev
  size := fit s.size
  blksize := fit s.blksize
  blocks := fit s.blocks
  atim := .ofTimespec s.atim
  mtim := .ofTimespec s.mtim
  ctim := .ofTimespec s.ctim

/-- Overwrites a record with the metadata of a file, in the layout for the features
    that were granted. There is one POSIX layout for all of them. -/
def storeStat (_granted : Capabilities) (destination : PosixStat) (s : Stat) : PosixStat :=
  destination.store s

/-- Filesystem metadata as a native library reads it. -/
structure StatvfsRecord where
  bsize : UInt64
  frsize : UInt64
  blocks : UInt64
  bfree : UInt64
  bavail : UInt64
  files : UInt64
  ffree : UInt64
  favail : UInt64
  fsid : UInt64
  flag : UInt64
  namemax : UInt64
  deriving DecidableEq, Repr

/-- Overwrites a record with the metadata of a filesystem, every field
    clamped. -/
def StatvfsRecord.store (_destination : StatvfsRecord) (s : Statfs) : StatvfsRecord where
  bsize := fit s.bsize
  frsize := fit s.frsize
  blocks := fit s.blocks
  bfree := fit s.bfree
  bavail := fit s.bavail
  files := fit s.files
  ffree := fit s.ffree
  favail := fit s.favail
  fsid := fit s.fsid
  flag := fit s.flag
  namemax := fit s.namemax

/-! ## WinFsp -/

/-- File metadata as WinFsp reads it. -/
structure WinFspStat where
  dev : UInt32
  ino : UInt64
  mode : UInt32
  nlink : UInt16
  uid : UInt32
  gid : UInt32
  rdev : UInt32
  size : Int64
  atim : RawTime
  mtim : RawTime
  ctim : RawTime
  blksize : Int32
  blocks : Int64
  birthtim : RawTime
  deriving DecidableEq, Repr

/-- Overwrites a record with the metadata of a file. -/
def WinFspStat.store (_destination : WinFspStat) (s : Stat) : WinFspStat where
  dev := fit s.dev
  ino := s.ino
  mode := s.mode
  nlink := fit s.nlink
  uid := s.uid
  gid := s.gid
  rdev := fit s.rdev
  size := s.size
  atim := .ofTimespec s.atim
  mtim := .ofTimespec s.mtim
  ctim := .ofTimespec s.ctim
  blksize := fit s.blksize
  blocks := s.blocks
  birthtim := .ofTimespec s.effectiveBirth

/-- File metadata with flags, as WinFsp reads it once it was agreed on. -/
structure WinFspStatEx where
  base : WinFspStat
  flags : UInt32
  reserved32 : UInt32 × UInt32 × UInt32
  reserved64 : UInt64 × UInt64
  deriving DecidableEq, Repr

/-- Overwrites a record with the metadata of a file and its flags. -/
def WinFspStatEx.store (destination : WinFspStatEx) (s : Stat) : WinFspStatEx where
  base := destination.base.store s
  flags := s.flags
  reserved32 := (0, 0, 0)
  reserved64 := (0, 0)

/-- Filesystem metadata as WinFsp reads it. -/
structure WinFspStatvfs where
  bsize : UInt64
  frsize : UInt64
  blocks : UInt64
  bfree : UInt64
  bavail : UInt64
  files : UInt64
  ffree : UInt64
  favail : UInt64
  fsid : UInt64
  flag : UInt64
  namemax : UInt64
  deriving DecidableEq, Repr

/-- Overwrites a record with the metadata of a filesystem. The block and file
    counts are of pointer width there, and are clamped to it. -/
def WinFspStatvfs.store (_destination : WinFspStatvfs) (s : Statfs) : WinFspStatvfs where
  bsize := s.bsize
  frsize := s.frsize
  blocks := fit s.blocks
  bfree := fit s.bfree
  bavail := fit s.bavail
  files := fit s.files
  ffree := fit s.ffree
  favail := fit s.favail
  fsid := s.fsid
  flag := s.flag
  namemax := s.namemax

end HostedFs
