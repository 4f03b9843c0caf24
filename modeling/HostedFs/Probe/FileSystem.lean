import HostedFs.FileSystem.Basic
import HostedFs.Text.Utf8

/-! # The filesystem of the probe

    A root directory that holds a single file which can only be read. Its
    state is the time at which the probe started.
-/

namespace HostedFs.Probe

/-- The path of the file. -/
def readmePath : String :=
  "/README"

/-- The content of the file. -/
def readme : List UInt8 :=
  Text.bytes "mounted by fusehost-probe\n"

/-- Metadata that dates from the start of the probe and belongs to the caller,
    if it is known. -/
def owned (started : Timespec) (caller : Option Caller) (s : Stat) : Stat :=
  let s := s.withTimes started
  match caller with
  | none => s
  | some c => { s with uid := c.uid.value, gid := c.gid.value }

/-- Metadata of a path. -/
def getattr (started : Timespec) (caller : Option Caller) (path : String) : Except Failure Stat :=
  if path = "/" then .ok (owned started caller (.directory 0o555))
  else if path = readmePath then
    .ok (owned started caller (.regular 0o444 (Int64.ofNat readme.length)))
  else .error (.returned .noEntry)

/-- The bits of the flags that ask to write. -/
def writeFlags : Int32 :=
  3

/-- Opens the file, for reading only. -/
def openFile (path : String) (flags : Int32) : Except Failure UInt64 :=
  if path ≠ readmePath then .error (.returned .noEntry)
  else if flags &&& writeFlags ≠ 0 then .error (.returned .access)
  else .ok 0

/-- The part of the file that a read of a size gets at an offset. -/
def slice (size : Nat) (offset : Nat) : List UInt8 :=
  (readme.drop (Nat.min offset readme.length)).take size

/-- The root directory alone can be listed. -/
def opendir (path : String) : Except Failure UInt64 :=
  if path = "/" then .ok 0 else .error (.returned .noEntry)

/-- Offers entries one after the other, until one is refused. -/
def offerAll (state : Timespec) (c : List String) :
    Exchange Timespec Offered (Except Failure Unit) :=
  match c with
  | [] => .done (.ok ()) state
  | name :: names =>
    .ask ⟨name, none, 0⟩ state fun yes state =>
      if yes then offerAll state names else .done (.ok ()) state

/-- The filesystem of the probe. -/
def fileSystem : FileSystem Timespec where
  respond caller c started :=
    match c with
    | .statfs _ =>
      .done
        (.ok ({ bsize := 4096, frsize := 4096, blocks := 1, files := 2, namemax := 255 } : Statfs))
        started
    | .getattr path _ => .done (getattr started caller path) started
    | .openFile path flags => .done (openFile path flags) started
    | .read path size offset _ =>
      if path ≠ readmePath then .done (.error (.returned .noEntry)) started
      else if offset < 0 then .done (.error (.returned .invalid)) started
      else
        let bytes := slice size offset.toInt.toNat
        .ask (⟨0, bytes⟩ : Placement) started fun _ started => .done (.ok bytes.length) started
    | .effect (.release ..) => .done (.ok ()) started
    | .effect (.releasedir ..) => .done (.ok ()) started
    | .opendir path => .done (opendir path) started
    | .readdir path _ _ =>
      if path = "/" then offerAll started [".", "..", "README"]
      else .done (.error (.returned .noEntry)) started
    | c => .done c.unimplemented started

end HostedFs.Probe
