/-! # Notifications of changes

    A filesystem whose content changes on its own tells the native side what
    happened at a path, as a set of kinds of change.
-/

namespace HostedFs

/-- A kind of change. -/
inductive Change
  | mkdir
  | rmdir
  | create
  | unlink
  | chmod
  | chown
  | utime
  | chflags
  | truncate
  deriving DecidableEq, Repr

/-- The bit of a kind of change. -/
def Change.bit : Change → UInt32
  | .mkdir => 1
  | .rmdir => 2
  | .create => 4
  | .unlink => 8
  | .chmod => 16
  | .chown => 32
  | .utime => 64
  | .chflags => 128
  | .truncate => 256

/-- The kind of change of a name. -/
def Change.ofName? (name : String) : Option Change :=
  [("MKDIR", Change.mkdir), ("RMDIR", .rmdir), ("CREATE", .create), ("UNLINK", .unlink),
    ("CHMOD", .chmod), ("CHOWN", .chown), ("UTIME", .utime), ("CHFLAGS", .chflags),
    ("TRUNCATE", .truncate)].lookup name

/-- A set of kinds of change, as the native side takes it. -/
structure ChangeSet where
  bits : UInt32
  deriving DecidableEq, Repr

namespace ChangeSet

/-- The set of the listed kinds. -/
def ofList (changes : List Change) : ChangeSet :=
  ⟨changes.foldl (fun bits change => bits ||| change.bit) 0⟩

/-- The set as messages show it. -/
def render (s : ChangeSet) : String :=
  s!"NotifyAction({s.bits})"

end ChangeSet

end HostedFs
