import HostedFs.Capability
import HostedFs.Data.Tree
import HostedFs.Identity
import HostedFs.Stat.Basic

/-! # Records as trees

    Metadata, times, features and identifiers as parts of documents. A record
    is written as a table with its fields in the order of their declaration,
    and read from such a table or from the list of its values. An identifier
    is written as its number.

    Reading keeps what the document says: the nanoseconds of a time stamp are
    not carried into its seconds.
-/

namespace HostedFs

/-! ## Times -/

namespace Timespec

def fieldNames : List String :=
  ["sec", "nsec"]

/-- The stamp as a tree. -/
def toTree (t : Timespec) : Tree :=
  .table [("sec", .ofWord t.sec), ("nsec", .ofWord t.nsec)]

/-- The stamp that a tree spells. -/
def ofTree? (strictness : Tree.Strictness) (tree : Tree) : Option Timespec :=
  match tree.fields? strictness fieldNames with
  | some [some sec, some nsec] => do return ⟨← sec.word?, ← nsec.word?⟩
  | _ => none

end Timespec

/-! ## Metadata -/

namespace Stat

def fieldNames : List String :=
  ["dev", "ino", "mode", "nlink", "uid", "gid", "rdev", "size", "atim", "mtim", "ctim", "birthtim",
    "blksize", "blocks", "flags"]

/-- The metadata of a file as a tree. -/
def toTree (s : Stat) : Tree :=
  .table
    [("dev", .ofWord s.dev), ("ino", .ofWord s.ino), ("mode", .ofWord s.mode),
      ("nlink", .ofWord s.nlink), ("uid", .ofWord s.uid), ("gid", .ofWord s.gid),
      ("rdev", .ofWord s.rdev), ("size", .ofWord s.size), ("atim", s.atim.toTree),
      ("mtim", s.mtim.toTree), ("ctim", s.ctim.toTree), ("birthtim", s.birthtim.toTree),
      ("blksize", .ofWord s.blksize), ("blocks", .ofWord s.blocks), ("flags", .ofWord s.flags)]

/-- The metadata of a file that a tree spells. -/
def ofTree? (strictness : Tree.Strictness) (tree : Tree) : Option Stat :=
  match tree.fields? strictness fieldNames with
  | some [some dev, some ino, some mode, some nlink, some uid, some gid, some rdev, some size,
      some atim, some mtim, some ctim, some birthtim, some blksize, some blocks, some flags] => do
    let time := Timespec.ofTree? strictness
    return {
      dev := ← dev.word?, ino := ← ino.word?, mode := ← mode.word?, nlink := ← nlink.word?
      uid := ← uid.word?, gid := ← gid.word?, rdev := ← rdev.word?, size := ← size.word?
      atim := ← time atim, mtim := ← time mtim, ctim := ← time ctim, birthtim := ← time birthtim
      blksize := ← blksize.word?, blocks := ← blocks.word?, flags := ← flags.word? }
  | _ => none

end Stat

namespace Statfs

def fieldNames : List String :=
  ["bsize", "frsize", "blocks", "bfree", "bavail", "files", "ffree", "favail", "fsid", "flag",
    "namemax"]

/-- The metadata of a filesystem as a tree. -/
def toTree (s : Statfs) : Tree :=
  .table
    [("bsize", .ofWord s.bsize), ("frsize", .ofWord s.frsize), ("blocks", .ofWord s.blocks),
      ("bfree", .ofWord s.bfree), ("bavail", .ofWord s.bavail), ("files", .ofWord s.files),
      ("ffree", .ofWord s.ffree), ("favail", .ofWord s.favail), ("fsid", .ofWord s.fsid),
      ("flag", .ofWord s.flag), ("namemax", .ofWord s.namemax)]

/-- The metadata of a filesystem that a tree spells. -/
def ofTree? (strictness : Tree.Strictness) (tree : Tree) : Option Statfs :=
  match tree.fields? strictness fieldNames with
  | some [some bsize, some frsize, some blocks, some bfree, some bavail, some files, some ffree,
      some favail, some fsid, some flag, some namemax] => do
    return {
      bsize := ← bsize.word?, frsize := ← frsize.word?, blocks := ← blocks.word?
      bfree := ← bfree.word?, bavail := ← bavail.word?, files := ← files.word?
      ffree := ← ffree.word?, favail := ← favail.word?, fsid := ← fsid.word?
      flag := ← flag.word?, namemax := ← namemax.word? }
  | _ => none

end Statfs

/-! ## Features -/

namespace Capabilities

def fieldNames : List String :=
  ["case_insensitive", "readdir_plus", "delete_access", "open_trunc", "stat_ex"]

/-- A set of features as a tree. -/
def toTree (c : Capabilities) : Tree :=
  .table
    [("case_insensitive", .flag c.caseInsensitive), ("readdir_plus", .flag c.readdirPlus),
      ("delete_access", .flag c.deleteAccess), ("open_trunc", .flag c.openTrunc),
      ("stat_ex", .flag c.statEx)]

/-- A flag that is unset when its field is missing. -/
def flagOrUnset : Option Tree → Option Bool
  | none => some false
  | some tree => tree.flag?

/-- The set of features that a tree spells. Those it does not mention are not
    in the set. -/
def ofTree? (strictness : Tree.Strictness) (tree : Tree) : Option Capabilities :=
  match tree.fields? strictness fieldNames with
  | some [caseInsensitive, readdirPlus, deleteAccess, openTrunc, statEx] => do
    return {
      caseInsensitive := ← flagOrUnset caseInsensitive
      readdirPlus := ← flagOrUnset readdirPlus
      deleteAccess := ← flagOrUnset deleteAccess
      openTrunc := ← flagOrUnset openTrunc
      statEx := ← flagOrUnset statEx }
  | _ => none

end Capabilities

/-! ## Identifiers -/

def Uid.toTree (u : Uid) : Tree :=
  .ofWord u.value

def Uid.ofTree? (tree : Tree) : Option Uid :=
  tree.word?.map Uid.mk

def Gid.toTree (g : Gid) : Tree :=
  .ofWord g.value

def Gid.ofTree? (tree : Tree) : Option Gid :=
  tree.word?.map Gid.mk

def Pid.toTree (p : Pid) : Tree :=
  .ofWord p.value

def Pid.ofTree? (tree : Tree) : Option Pid :=
  tree.word?.map Pid.mk

/-! ## Kinds of records -/

/-- The kinds of records that documents hold. -/
inductive RecordKind
  | timespec
  | stat
  | statfs
  | capabilities
  | uid
  | gid
  | pid

namespace RecordKind

/-- The kind of a name. -/
def ofName? (name : String) : Option RecordKind :=
  [("Timespec", timespec), ("Stat", stat), ("Statfs", statfs), ("Capabilities", capabilities),
    ("Uid", uid), ("Gid", gid), ("Pid", pid)].lookup name

/-- The records of a kind. -/
def Record : RecordKind → Type
  | timespec => Timespec
  | stat => Stat
  | statfs => Statfs
  | capabilities => Capabilities
  | uid => Uid
  | gid => Gid
  | pid => Pid

/-- The record as a tree. -/
def toTree : (kind : RecordKind) → kind.Record → Tree
  | timespec => Timespec.toTree
  | stat => Stat.toTree
  | statfs => Statfs.toTree
  | capabilities => Capabilities.toTree
  | uid => Uid.toTree
  | gid => Gid.toTree
  | pid => Pid.toTree

/-- The record that a tree spells. -/
def ofTree? (strictness : Tree.Strictness) : (kind : RecordKind) → Tree → Option kind.Record
  | timespec => Timespec.ofTree? strictness
  | stat => Stat.ofTree? strictness
  | statfs => Statfs.ofTree? strictness
  | capabilities => Capabilities.ofTree? strictness
  | uid => Uid.ofTree?
  | gid => Gid.ofTree?
  | pid => Pid.ofTree?

end RecordKind

/-- Reads a tree as a record of the kind with a name, and writes the record
    again. -/
def Tree.asRecord? (strictness : Strictness) (name : String) (tree : Tree) : Option Tree := do
  let kind ← RecordKind.ofName? name
  return kind.toTree (← kind.ofTree? strictness tree)

end HostedFs
