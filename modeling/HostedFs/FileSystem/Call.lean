import HostedFs.Errno
import HostedFs.Identity
import HostedFs.Stat.Basic

/-! # Calls to a filesystem

    What an implementation of a filesystem can be asked, what it may answer
    and what it may ask back meanwhile.

    * `Effect` and `Call`: the questions; an effect is a call whose answer is
      only that it was done.
    * `Call.Value`, `Failure`: the answers.
    * `Call.Prompt`: what the implementation may ask back while it serves the
      call, such as to add an entry to the listing of a directory.
-/

namespace HostedFs

/-! ## Questions -/

/-- A call that answers nothing but that it was done. -/
inductive Effect
  | mknod (path : String) (mode : UInt32) (dev : UInt64)
  | mkdir (path : String) (mode : UInt32)
  | unlink (path : String)
  | rmdir (path : String)
  | link (path new : String)
  | symlink (target new : String)
  | rename (path new : String) (flags : UInt32)
  | chmod (path : String) (mode : UInt32)
  | chown (path : String) (uid gid : UInt32)
  | utimens (path : String) (atime mtime : Timespec)
  | truncate (path : String) (size : Int64) (handle : Option UInt64)
  | access (path : String) (mask : UInt32)
  | flush (path : String) (handle : UInt64)
  | release (path : String) (handle : UInt64)
  | fsync (path : String) (dataOnly : Bool) (handle : UInt64)
  | releasedir (path : String) (handle : UInt64)
  | fsyncdir (path : String) (dataOnly : Bool) (handle : UInt64)
  | setxattr (path name : String) (value : List UInt8) (flags : Int32)
  | removexattr (path name : String)
  | chflags (path : String) (flags : UInt32)
  | setcrtime (path : String) (time : Timespec)
  | setchgtime (path : String) (time : Timespec)
  deriving DecidableEq, Repr

/-- A call to an implementation. -/
inductive Call
  /-- The filesystem was mounted. -/
  | init
  /-- The filesystem is about to be gone. -/
  | destroy
  | effect (e : Effect)
  | statfs (path : String)
  | readlink (path : String)
  /-- Metadata by path, or by handle when one is given. -/
  | getattr (path : String) (handle : Option UInt64)
  | create (path : String) (flags : Int32) (mode : UInt32)
  | openFile (path : String) (flags : Int32)
  /-- Reads into a buffer of a size. -/
  | read (path : String) (size : Nat) (offset : Int64) (handle : UInt64)
  | write (path : String) (data : List UInt8) (offset : Int64) (handle : UInt64)
  | opendir (path : String)
  | readdir (path : String) (offset : Int64) (handle : UInt64)
  | getxattr (path name : String)
  | listxattr (path : String)
  /-- The stored spelling of a path. -/
  | getpath (path : String) (handle : Option UInt64)
  deriving DecidableEq, Repr

/-! ## Answers -/

/-- What a call answers when it succeeds. -/
def Call.Value : Call → Type
  | .init | .destroy | .effect _ | .readdir .. | .listxattr _ => Unit
  | .statfs _ => Statfs
  | .readlink _ | .getpath .. => String
  | .getattr .. => Stat
  | .create .. | .openFile .. | .opendir _ => UInt64
  | .read .. | .write .. => Nat
  | .getxattr .. => List UInt8

/-- How a call can fail. -/
inductive Failure
  /-- It answers an error number. -/
  | returned (e : Errno)
  /-- It breaks off with an error number. -/
  | raised (e : Errno)
  /-- It breaks off in any other way, perhaps with a text. -/
  | panicked (text : Option String)
  deriving DecidableEq, Repr

/-- A failure is not implemented if it answers so; to break off with that
    number is something else. -/
def Failure.IsUnimplemented (f : Failure) : Prop :=
  f = .returned .noSys

instance (f : Failure) : Decidable f.IsUnimplemented :=
  inferInstanceAs (Decidable (_ = _))

/-- The outcome of a call. -/
abbrev Call.Result (c : Call) : Type :=
  Except Failure c.Value

/-- The outcome of a call that the implementation does not have: to be mounted
    or gone needs nothing, and all else is not implemented. -/
def Call.unimplemented : (c : Call) → c.Result
  | .init | .destroy => .ok ()
  | .effect _ | .statfs _ | .readlink _ | .getattr .. | .create .. | .openFile .. | .read ..
  | .write .. | .opendir _ | .readdir .. | .getxattr .. | .listxattr _ | .getpath .. =>
    .error (.returned .noSys)

/-! ## Questions asked back -/

/-- An entry that a directory listing offers. -/
structure Offered where
  name : String
  stat : Option Stat
  /-- The position after the entry. -/
  next : Int64
  deriving DecidableEq, Repr

/-- Bytes to be put at a place of the buffer that is read into. -/
structure Placement where
  offset : Nat
  bytes : List UInt8
  deriving DecidableEq, Repr

/-- The request to end the mount. -/
inductive UnmountRequest
  | mk
  deriving DecidableEq, Repr

/-- What an implementation may ask back while it serves a call: to add an entry
    or a name, to put bytes, to end the mount. -/
def Call.Prompt : Call → Type
  | .readdir .. => Offered
  | .listxattr _ => String
  | .read .. => Placement
  | .init | .destroy => UnmountRequest
  | .effect _ | .statfs _ | .readlink _ | .getattr .. | .create .. | .openFile .. | .write ..
  | .opendir _ | .getxattr .. | .getpath .. => Empty

end HostedFs
