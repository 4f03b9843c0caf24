/-! # Users, groups and processes

    Identifiers that must not be taken for one another, and the caller of a
    request.
-/

namespace HostedFs

/-- A user. -/
structure Uid where
  value : UInt32
  deriving DecidableEq, Repr

/-- A group. -/
structure Gid where
  value : UInt32
  deriving DecidableEq, Repr

/-- A process; zero when the native side does not know it. -/
structure Pid where
  value : Int32
  deriving DecidableEq, Repr

namespace Uid

/-- The owner that a change of ownership leaves as it is. -/
def unchanged : Uid :=
  ⟨4294967295⟩

instance : Inhabited Uid :=
  ⟨⟨0⟩⟩

/-- The identifier with the name of its kind. -/
def render (u : Uid) : String :=
  s!"Uid({u.value})"

end Uid

namespace Gid

/-- The group that a change of ownership leaves as it is. -/
def unchanged : Gid :=
  ⟨4294967295⟩

instance : Inhabited Gid :=
  ⟨⟨0⟩⟩

/-- The identifier with the name of its kind. -/
def render (g : Gid) : String :=
  s!"Gid({g.value})"

end Gid

namespace Pid

instance : Inhabited Pid :=
  ⟨⟨0⟩⟩

/-- The identifier with the name of its kind. -/
def render (p : Pid) : String :=
  s!"Pid({p.value.toInt})"

end Pid

/-- Who made a request, and the file mode bits that it masks. -/
structure Caller where
  uid : Uid
  gid : Gid
  pid : Pid
  umask : UInt32
  deriving DecidableEq, Repr

end HostedFs
