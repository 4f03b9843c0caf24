import HostedFs.Data.Tree
import HostedFs.FileSystem.Call
import HostedFs.Time.Native
import HostedFs.Text.Hex

/-! # Calls as lines of a trace

    A trace shows a call by the name of its operation and its arguments: bytes
    as hexadecimal digits, a time as its seconds and nanoseconds, and a
    handle that is missing as nothing.
-/

namespace HostedFs

namespace Tree

/-- A time as the list of its parts. -/
def ofTime (t : Timespec) : Tree :=
  .list [.ofWord t.sec, .ofWord t.nsec]

end Tree

/-- A time that is to be set, or why none is. -/
def TimeUpdate.toTree : TimeUpdate → Tree
  | .now => .text "now"
  | .omit => .text "omit"
  | .set t => .ofTime t

open HostedFs.Tree in
/-- The name and the arguments of an effect. -/
def Effect.line : Effect → String × List Tree
  | .mknod path mode dev => ("mknod", [.text path, ofWord mode, ofWord dev])
  | .mkdir path mode => ("mkdir", [.text path, ofWord mode])
  | .unlink path => ("unlink", [.text path])
  | .rmdir path => ("rmdir", [.text path])
  | .link path new => ("link", [.text path, .text new])
  | .symlink target new => ("symlink", [.text target, .text new])
  | .rename path new flags => ("rename", [.text path, .text new, ofWord flags])
  | .chmod path mode => ("chmod", [.text path, ofWord mode])
  | .chown path uid gid => ("chown", [.text path, ofWord uid, ofWord gid])
  | .utimens path atime mtime =>
    ("utimens", [.text path, .list [ofTime atime, ofTime mtime, .flag (atime == mtime)]])
  | .truncate path size handle => ("truncate", [.text path, ofWord size, orNothing ofWord handle])
  | .access path mask => ("access", [.text path, ofWord mask])
  | .flush path handle => ("flush", [.text path, ofWord handle])
  | .release path handle => ("release", [.text path, ofWord handle])
  | .fsync path dataOnly handle => ("fsync", [.text path, .flag dataOnly, ofWord handle])
  | .releasedir path handle => ("releasedir", [.text path, ofWord handle])
  | .fsyncdir path dataOnly handle => ("fsyncdir", [.text path, .flag dataOnly, ofWord handle])
  | .setxattr path name value flags =>
    ("setxattr", [.text path, .text name, .text (Text.hexBytes value), ofWord flags])
  | .removexattr path name => ("removexattr", [.text path, .text name])
  | .chflags path flags => ("chflags", [.text path, ofWord flags])
  | .setcrtime path time => ("setcrtime", [.text path, ofTime time])
  | .setchgtime path time => ("setchgtime", [.text path, ofTime time])

open HostedFs.Tree in
/-- The name and the arguments of a call. -/
def Call.line : Call → String × List Tree
  | .init => ("init", [])
  | .destroy => ("destroy", [])
  | .effect e => e.line
  | .statfs path => ("statfs", [.text path])
  | .readlink path => ("readlink", [.text path])
  | .getattr path handle => ("getattr", [.text path, orNothing ofWord handle])
  | .create path flags mode => ("create", [.text path, ofWord flags, ofWord mode])
  | .openFile path flags => ("open", [.text path, ofWord flags])
  | .read path size offset handle =>
    ("read", [.text path, .int size, ofWord offset, ofWord handle])
  | .write path data offset handle =>
    ("write", [.text path, .text (Text.hexBytes data), ofWord offset, ofWord handle])
  | .opendir path => ("opendir", [.text path])
  | .readdir path offset handle => ("readdir", [.text path, ofWord offset, ofWord handle])
  | .getxattr path name => ("getxattr", [.text path, .text name])
  | .listxattr path => ("listxattr", [.text path])
  | .getpath path handle => ("getpath", [.text path, orNothing ofWord handle])

end HostedFs
