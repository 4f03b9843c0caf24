import HostedFs.Event
import HostedFs.Host.Arguments
import HostedFs.Host.Record
import HostedFs.Registry.Basic
import HostedFs.Signal.Bridge

/-! # The state of a host and of its process

    A host is used from many threads at once: one that mounts, any number that
    unmount, and one that listens for signals. This module holds how far each
    of them has come (its phase), who holds which lock, and what they share.

    A phase that belongs to a critical section carries a flag: `false` while
    the thread waits for the lock, `true` once it holds it.
-/

namespace HostedFs.Host

/-! ## Threads -/

/-- A thread of a host: a call to mount or to unmount, or a listener. -/
inductive Role
  | mount (n : Nat)
  | unmount (n : Nat)
  | listener (n : Nat)
  deriving DecidableEq, Repr

/-- How far an attempt to unmount has come. It holds the gate from the end of
    its first phase to the end of its last. -/
inductive UnmountPhase
  /-- It waits for the gate. -/
  | atGate
  /-- It looks at the record, to claim the mount. -/
  | checking (held : Bool)
  /-- The native side is unmounting. -/
  | calling (session : Session) (mountpoint : Option String)
  /-- The native side failed; it puts the record back. -/
  | restoring (mountpoint : Option String) (held : Bool)
  /-- It gives the gate back. -/
  | leaving (result : Bool)
  deriving DecidableEq, Repr

/-- A call to unmount. -/
inductive UnmountCall
  | running (phase : UnmountPhase)
  | finished (result : Bool)
  deriving DecidableEq, Repr

/-- How far the arming of a listener has come. -/
inductive ArmPhase
  /-- It asks the bridge for a slot. -/
  | registering (held : Bool)
  /-- It starts the listener's thread. -/
  | spawning (slot : Nat)
  /-- The thread could not be started; it gives the slot back. -/
  | abandoning (slot : Nat) (error : String) (held : Bool)
  /-- It waits until the thread says whether it is ready. -/
  | awaiting (listener : Nat)
  /-- The thread is not ready; it waits for its end. -/
  | joining (listener : Nat) (error : String)
  /-- It puts the listener into the host's place for it. -/
  | storing (listener : Nat) (held : Bool)
  deriving DecidableEq, Repr

/-- How far a call to mount has come. -/
inductive MountPhase
  /-- It looks at the record, to claim the host. -/
  | claiming (held : Bool)
  /-- The native library prepares. -/
  | preparing
  /-- It records the mountpoint. -/
  | naming (mountpoint : Option String) (held : Bool)
  /-- It registers the host under a token. -/
  | registering
  /-- The native event loop runs. -/
  | running
  /-- The native side reports that the filesystem is mounted. -/
  | starting (session : Session) (held : Bool)
  /-- A listener is being armed. -/
  | arming (phase : ArmPhase)
  /-- The implementation is told that it is mounted. It may unmount. -/
  | initializing (call : Option UnmountPhase)
  /-- The implementation is told that it is gone. It may unmount. -/
  | destroying (call : Option UnmountPhase)
  /-- The listener is told to stop. -/
  | disarming (held : Bool)
  /-- The record learns that the filesystem is gone. -/
  | closing (held : Bool)
  /-- The event loop has returned; it takes the listener out of its place. -/
  | taking (status : Int32) (held : Bool)
  /-- It waits for the end of the listener. -/
  | joining (status : Int32) (listener : Nat)
  /-- It passes the gate, so that no attempt to unmount is under way. -/
  | gating (status : Int32) (held : Bool)
  /-- It takes the token back. -/
  | releasing (status : Int32)
  /-- It makes the record idle. -/
  | resetting (error : Option HostError) (held : Bool)
  /-- It has returned. -/
  | returned (error : Option HostError)
  deriving DecidableEq, Repr

/-- A call to mount. -/
structure MountCall where
  mountpoint : String
  options : List String
  phase : MountPhase
  /-- The token of the mount, once it is registered. -/
  token : Option Token
  deriving DecidableEq, Repr

/-- How far a listener has come. -/
inductive ListenerPhase
  /-- Its thread starts. -/
  | starting
  /-- It waits for a signal or for the word to stop. -/
  | waiting
  /-- It unmounts. -/
  | calling (phase : UnmountPhase)
  /-- It gives its slot back. -/
  | closing (held : Bool)
  | exited
  deriving DecidableEq, Repr

/-- A listener for signals. -/
structure Listener where
  slot : Nat
  phase : ListenerPhase := .starting
  /-- It was told to stop. -/
  stopping : Bool := false
  /-- What it says of its start: nothing yet, that it is ready, or an error. -/
  ready : Option (Except String Unit) := none

/-! ## Shared state -/

/-- What the hosts of a process share. -/
structure Process where
  registry : Registry Nat := {}
  /-- Slots are owned by listeners, each known by its host and number. -/
  bridge : Signal.Bridge (Nat × Nat) := {}
  /-- Who holds the lock of the bridge. -/
  bridgeLock : Option (Nat × Role) := none

end Host

/-- The state of one host. -/
structure Host where
  record : MountRecord := .idle
  recordLock : Option Host.Role := none
  /-- Who holds the gate that every attempt to unmount passes. -/
  gate : Option Host.Role := none
  /-- The armed listener. -/
  listener : Option Nat := none
  listenerLock : Option Host.Role := none
  negotiated : Capabilities := {}
  mounts : Nat → Option Host.MountCall := fun _ => none
  unmounts : Nat → Option Host.UnmountCall := fun _ => none
  listeners : Nat → Option Host.Listener := fun _ => none
  /-- The number of the next listener. -/
  nextListener : Nat := 0

namespace Host

/-- What does not change about a host. -/
structure Setup where
  /-- The number under which the registry and the bridge know the host. -/
  number : Nat
  settings : HostSettings
  /-- The native side leaves it to the host to unmount on signals. -/
  nativeNeedsSignals : Bool
  /-- The canonical form of a path that resolves. -/
  canonical : String → Option String

/-- A listener is armed while the host is mounted. -/
def Setup.listens (setup : Setup) : Bool :=
  setup.settings.signalUnmount && setup.nativeNeedsSignals

/-- A host and the process it lives in. -/
structure World where
  process : Process := {}
  host : Host := {}

namespace World

/-! ## Updates -/

/-- The world with a call to mount come further. -/
def putMount (w : World) (n : Nat) (c : MountCall) : World :=
  { w with host := { w.host with mounts := fun m => if m = n then some c else w.host.mounts m } }

/-- The world with a call to unmount come further. -/
def putUnmount (w : World) (n : Nat) (c : UnmountCall) : World :=
  { w with
    host := { w.host with unmounts := fun m => if m = n then some c else w.host.unmounts m } }

/-- The world with a listener come further. -/
def putListener (w : World) (n : Nat) (l : Listener) : World :=
  { w with
    host := { w.host with listeners := fun m => if m = n then some l else w.host.listeners m } }

/-- Tells a listener to stop. -/
def stopListener (w : World) (n : Nat) : World :=
  match w.host.listeners n with
  | some l => w.putListener n { l with stopping := true }
  | none => w

/-- The world with another record. -/
def setRecord (w : World) (record : MountRecord) : World :=
  { w with host := { w.host with record } }

/-! ## Locks -/

/-- Takes the lock of the record, if it is free. -/
def lockRecord (w : World) (r : Role) : Option World :=
  if w.host.recordLock = none then some { w with host := { w.host with recordLock := some r } }
  else none

theorem lockRecord_eq_some_iff {w v : World} {r : Role} :
    w.lockRecord r = some v ↔
      w.host.recordLock = none ∧ { w with host := { w.host with recordLock := some r } } = v := by
  simp [lockRecord]

def unlockRecord (w : World) : World :=
  { w with host := { w.host with recordLock := none } }

/-- Takes the gate, if it is free. -/
def lockGate (w : World) (r : Role) : Option World :=
  if w.host.gate = none then some { w with host := { w.host with gate := some r } } else none

theorem lockGate_eq_some_iff {w v : World} {r : Role} :
    w.lockGate r = some v ↔
      w.host.gate = none ∧ { w with host := { w.host with gate := some r } } = v := by
  simp [lockGate]

def unlockGate (w : World) : World :=
  { w with host := { w.host with gate := none } }

/-- Takes the lock of the listener's place, if it is free. -/
def lockListener (w : World) (r : Role) : Option World :=
  if w.host.listenerLock = none then
    some { w with host := { w.host with listenerLock := some r } }
  else none

theorem lockListener_eq_some_iff {w v : World} {r : Role} :
    w.lockListener r = some v ↔
      w.host.listenerLock = none ∧
        { w with host := { w.host with listenerLock := some r } } = v := by
  simp [lockListener]

def unlockListener (w : World) : World :=
  { w with host := { w.host with listenerLock := none } }

/-- Takes the lock of the bridge, if it is free. -/
def lockBridge (w : World) (setup : Setup) (r : Role) : Option World :=
  if w.process.bridgeLock = none then
    some { w with process := { w.process with bridgeLock := some (setup.number, r) } }
  else none

theorem lockBridge_eq_some_iff {w v : World} {setup : Setup} {r : Role} :
    w.lockBridge setup r = some v ↔
      w.process.bridgeLock = none ∧
        { w with process := { w.process with bridgeLock := some (setup.number, r) } } = v := by
  simp [lockBridge]

def unlockBridge (w : World) : World :=
  { w with process := { w.process with bridgeLock := none } }

/-- The world with another bridge. -/
def setBridge (w : World) (bridge : Signal.Bridge (Nat × Nat)) : World :=
  { w with process := { w.process with bridge } }

end World

end Host

end HostedFs
