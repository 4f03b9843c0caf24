import HostedFs.Capability
import HostedFs.Text.Quoted

/-! # What a host knows of its mount -/

namespace HostedFs

/-- The stages of a mount. -/
inductive MountState
  | unmounted
  | mounting
  | mounted
  | unmounting
  deriving DecidableEq, Repr

/-- The stage as reports name it. -/
def MountState.render : MountState → String
  | .unmounted => "unmounted"
  | .mounting => "mounting"
  | .mounted => "mounted"
  | .unmounting => "unmounting"

/-- The stage as the name of its case. -/
def MountState.caseName : MountState → String
  | .unmounted => "Unmounted"
  | .mounting => "Mounting"
  | .mounted => "Mounted"
  | .unmounting => "Unmounting"

/-- The native session of a running mount, as an address; zero is none. -/
structure Session where
  address : UInt64
  deriving DecidableEq, Repr

/-- No session. -/
def Session.none : Session :=
  ⟨0⟩

/-- The state of a mount, the session that the native side runs for it and the
    directory it is mounted on, as far as they are known. -/
structure MountRecord where
  state : MountState
  session : Session
  mountpoint : Option String
  deriving DecidableEq, Repr

namespace MountRecord

/-- The record while nothing is mounted. -/
def idle : MountRecord :=
  ⟨.unmounted, .none, none⟩

instance : Inhabited MountRecord :=
  ⟨idle⟩

/-- The record as messages show it. -/
def render (r : MountRecord) : String :=
  "Host \x7b state: " ++ r.state.caseName ++ ", mountpoint: " ++ Text.quotedOption r.mountpoint ++
    " \x7d"

/-- The session to be told of a change at a path, if there is one to tell. A
    path with a NUL cannot be passed on. -/
def sessionToNotify (r : MountRecord) (path : String) : Option Session :=
  if r.state = .mounted ∧ '\x00' ∉ path.toList then some r.session else Option.none

end MountRecord

/-- What the native side says of a connection, and what is wanted of it. -/
structure Connection where
  protoMajor : UInt32 := 0
  protoMinor : UInt32 := 0
  asyncRead : UInt32 := 0
  maxWrite : UInt32 := 0
  maxReadahead : UInt32 := 0
  /-- The features that the native side offers. -/
  capable : UInt32 := 0
  /-- The features wanted of it. -/
  want : UInt32 := 0
  reserved : List UInt32 := List.replicate 25 0
  deriving DecidableEq, Repr

/-- Settles the features of a connection: what is granted, and the connection
    with the granted features wanted. Null offers nothing. -/
def Connection.settle (asked : Capabilities) :
    Option Connection → Capabilities × Option Connection
  | none => ({}, none)
  | some conn =>
    let n := negotiate .current conn.capable asked
    (n.granted, some { conn with want := conn.want ||| n.want })

end HostedFs
