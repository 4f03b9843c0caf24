import HostedFs.Host.World

/-! # Steps of a host

    One step moves one thread from one phase to the next. A thread takes at
    most one lock in a step, and what it does while it holds a lock is one
    step, too. Answers of the native side, and what the system refuses, come
    as the input of a step; `go` is a step that needs none.

    * `unmountStep`: an attempt to unmount, whoever makes it;
    * `mountStep`, `listenerStep`: the other two kinds of thread;
    * `step`: a step of the host, and `run`: a sequence of them.
-/

namespace HostedFs.Host

/-- What a thread is given for a step. -/
inductive Input
  /-- Nothing. -/
  | go
  /-- The native library is prepared, or is not. -/
  | prepared (error : Option HostError)
  /-- The allocator gives a token. -/
  | allocated (token : Token)
  /-- The native side calls for the start of the filesystem. -/
  | callInit (session : Session) (connection : Option Connection)
  /-- The native side calls for its end. -/
  | callDestroy
  /-- The native event loop returns. -/
  | loopReturned (status : Int32)
  /-- The implementation unmounts. -/
  | callUnmount
  /-- The implementation has done what it was called for. -/
  | left
  /-- The native side has unmounted, or has not. -/
  | answered (done : Bool)
  /-- The system refuses to install handlers. -/
  | refused (refusal : Signal → Option Errno)
  /-- A thread cannot be started. -/
  | failed (error : String)
  /-- A listener takes the word to stop. -/
  | stop
  /-- A listener reads the signals that wait for it. -/
  | wake

/-- A step of a host. -/
inductive Label
  /-- A new call to mount. -/
  | mount (n : Nat) (mountpoint : String) (options : List String)
  /-- A new call to unmount. -/
  | unmount (n : Nat)
  /-- A thread goes on. -/
  | act (role : Role) (input : Input)
  /-- A signal is raised. -/
  | raise (signal : Signal)

/-- The world after a step and what it reports. -/
abbrev Moved :=
  World × List Event

/-! ## Unmounting -/

/-- The gate opens for one attempt at a time. An attempt that finds the host
    mounted claims the mount and asks the native side; if that fails, the
    record is put back unless it has changed meanwhile. -/
def unmountStep (role : Role) (phase : UnmountPhase) (input : Input) (w : World) :
    Option (UnmountCall × Moved) :=
  match phase, input with
  | .atGate, .go => do
    return (.running (.checking false), ← w.lockGate role, [])
  | .checking false, .go => do
    return (.running (.checking true), ← w.lockRecord role, [])
  | .checking true, .go =>
    let record := w.host.record
    if record.state = .mounted then
      some (.running (.calling record.session record.mountpoint),
        (w.setRecord { record with state := .unmounting }).unlockRecord,
        [.unmounting record.mountpoint])
    else some (.running (.leaving false), w.unlockRecord, [.unmountIgnored record.state])
  | .calling .., .answered true => some (.running (.leaving true), w, [])
  | .calling _ mountpoint, .answered false => some (.running (.restoring mountpoint false), w, [])
  | .restoring mountpoint false, .go => do
    return (.running (.restoring mountpoint true), ← w.lockRecord role, [])
  | .restoring mountpoint true, .go =>
    let record := w.host.record
    let record :=
      if record.state = .unmounting then { record with state := .mounted } else record
    some (.running (.leaving false), (w.setRecord record).unlockRecord,
      [.unmountFailed mountpoint])
  | .leaving result, .go => some (.finished result, w.unlockGate, [])
  | _, _ => none

/-! ## Arming a listener -/

/-- What arming a listener comes to: it goes on, or it is over. -/
inductive Arming
  | running (phase : ArmPhase)
  | over

/-- A listener is registered with the bridge, started, and put into the host's
    place for it once it is ready. A failure on the way undoes what was done
    and is reported; the mount goes on without a listener. -/
def armStep (setup : Setup) (role : Role) (phase : ArmPhase) (input : Input) (w : World) :
    Option (Arming × Moved) :=
  let register (refusal : Signal → Option Errno) : Arming × Moved :=
    match w.process.bridge.register (setup.number, w.host.nextListener) refusal with
    | (bridge, .ok slot) => (.running (.spawning slot), (w.setBridge bridge).unlockBridge, [])
    | (bridge, .error e) => (.over, (w.setBridge bridge).unlockBridge, [.notListening e.message])
  match phase, input with
  | .registering false, .go => do
    return (.running (.registering true), ← w.lockBridge setup role, [])
  | .registering true, .go => some (register fun _ => none)
  | .registering true, .refused refusal => some (register refusal)
  | .spawning slot, .go =>
    let n := w.host.nextListener
    let w := w.putListener n { slot }
    some (.running (.awaiting n), { w with host := { w.host with nextListener := n + 1 } }, [])
  | .spawning slot, .failed error => some (.running (.abandoning slot error false), w, [])
  | .abandoning slot error false, .go => do
    return (.running (.abandoning slot error true), ← w.lockBridge setup role, [])
  | .abandoning slot error true, .go =>
    some (.over, (w.setBridge (w.process.bridge.unregister slot)).unlockBridge,
      [.notListening error])
  | .awaiting n, .go => do
    match ← (← w.host.listeners n).ready with
    | .ok () => return (.running (.storing n false), w, [])
    | .error error => return (.running (.joining n error), w, [])
  | .joining n error, .go => do
    if (← w.host.listeners n).phase = .exited then return (.over, w, [.notListening error])
    else none
  | .storing n false, .go => do
    return (.running (.storing n true), ← w.lockListener role, [])
  | .storing n true, .go =>
    let w :=
      match w.host.listener with
      | some old => w.stopListener old
      | none => w
    some (.over, World.unlockListener { w with host := { w.host with listener := some n } }, [])
  | _, _ => none

/-! ## Mounting -/

/-- A step of a call to mount.

    The call claims the host, has the native library prepared, checks the
    arguments, records the mountpoint, registers the host and runs the native
    event loop. After the loop it waits for the listener and for any attempt to
    unmount before it takes the token back; whatever it comes to, the record is
    idle when it returns. -/
def mountStep (setup : Setup) (n : Nat) (c : MountCall) (input : Input) (w : World) :
    Option Moved :=
  let role := Role.mount n
  let goes (phase : MountPhase) (w : World) : Moved := (w.putMount n { c with phase }, [])
  match c.phase, input with
  | .claiming false, .go => do
    return goes (.claiming true) (← w.lockRecord role)
  | .claiming true, .go =>
    if w.host.record.state = .unmounted then
      some (goes .preparing
        (w.setRecord { w.host.record with state := .mounting }).unlockRecord)
    else some (goes (.returned (some .alreadyMounted)) w.unlockRecord)
  | .preparing, .prepared (some error) => some (goes (.resetting (some error) false) w)
  | .preparing, .prepared none =>
    match firstWithNul? (setup.settings.arguments c.mountpoint c.options) with
    | some arg => some (goes (.resetting (some (.nulInArgument arg)) false) w)
    | none =>
      match mountpointOf setup.canonical
          (setup.settings.argumentsAfterName c.mountpoint c.options) with
      | .ok mountpoint => some (goes (.naming mountpoint false) w)
      | .error e => some ((goes (.naming none false) w).1, [.mountpointUnknown e])
  | .naming mountpoint false, .go => do
    return goes (.naming mountpoint true) (← w.lockRecord role)
  | .naming mountpoint true, .go =>
    some (goes .registering (w.setRecord { w.host.record with mountpoint }).unlockRecord)
  | .registering, .allocated token =>
    if (w.process.registry.lookup token).isSome then none
    else
      let w := { w with
        process := { w.process with registry := w.process.registry.insert token setup.number } }
      some (w.putMount n { c with phase := .running, token := some token },
        [.loopEntered (setup.settings.arguments c.mountpoint c.options) token])
  | .running, .callInit session connection =>
    let negotiated := (Connection.settle setup.settings.requested connection).1
    some (goes (.starting session false) { w with host := { w.host with negotiated } })
  | .running, .callDestroy => some (goes (.destroying none) w)
  | .running, .loopReturned status => some (goes (.taking status false) w)
  | .starting session false, .go => do
    return goes (.starting session true) (← w.lockRecord role)
  | .starting session true, .go =>
    let w := (w.setRecord { w.host.record with state := .mounted, session }).unlockRecord
    let next := if setup.listens then .arming (.registering false) else .initializing none
    some ((goes next w).1, [.mounted w.host.record.mountpoint w.host.negotiated])
  | .arming phase, input => do
    match ← armStep setup role phase input w with
    | (.running phase, w, events) => return ((goes (.arming phase) w).1, events)
    | (.over, w, events) => return ((goes (.initializing none) w).1, events)
  | .initializing none, .callUnmount => some (goes (.initializing (some .atGate)) w)
  | .initializing none, .left => some (goes .running w)
  | .initializing (some phase), input => do
    match ← unmountStep role phase input w with
    | (.running phase, w, events) => return ((goes (.initializing (some phase)) w).1, events)
    | (.finished _, w, events) => return ((goes (.initializing none) w).1, events)
  | .destroying none, .callUnmount => some (goes (.destroying (some .atGate)) w)
  | .destroying none, .left => some (goes (.disarming false) w)
  | .destroying (some phase), input => do
    match ← unmountStep role phase input w with
    | (.running phase, w, events) => return ((goes (.destroying (some phase)) w).1, events)
    | (.finished _, w, events) => return ((goes (.destroying none) w).1, events)
  | .disarming false, .go => do
    return goes (.disarming true) (← w.lockListener role)
  | .disarming true, .go =>
    let w :=
      match w.host.listener with
      | some l => w.stopListener l
      | none => w
    some (goes (.closing false) w.unlockListener)
  | .closing false, .go => do
    return goes (.closing true) (← w.lockRecord role)
  | .closing true, .go =>
    let record := w.host.record
    let record :=
      if record.state = .mounted then { record with state := .unmounting } else record
    some ((goes .running (w.setRecord record).unlockRecord).1, [.destroyed])
  | .taking status false, .go => do
    return goes (.taking status true) (← w.lockListener role)
  | .taking status true, .go =>
    match w.host.listener with
    | some l =>
      let w := w.stopListener l
      some (goes (.joining status l)
        (World.unlockListener { w with host := { w.host with listener := none } }))
    | none => some (goes (.gating status false) w.unlockListener)
  | .joining status l, .go => do
    if (← w.host.listeners l).phase = .exited then return goes (.gating status false) w else none
  | .gating status false, .go => do
    return goes (.gating status true) (← w.lockGate role)
  | .gating status true, .go => some (goes (.releasing status) w.unlockGate)
  | .releasing status, .go => do
    let token ← c.token
    let w := { w with
      process := { w.process with registry := w.process.registry.erase token } }
    if status = 0 then return ((goes (.resetting none false) w).1, [.loopExited c.mountpoint])
    else return goes (.resetting (some (.nativeFailure status)) false) w
  | .resetting error false, .go => do
    return goes (.resetting error true) (← w.lockRecord role)
  | .resetting error true, .go => some (goes (.returned error) (w.setRecord .idle).unlockRecord)
  | _, _ => none

/-! ## Listening -/

/-- A step of a listener. It unmounts when it reads signals, and stops once that
    succeeded or when it is told to; when it is over, so is its slot. -/
def listenerStep (setup : Setup) (n : Nat) (l : Listener) (input : Input) (w : World) :
    Option Moved :=
  let role := Role.listener n
  let goes (phase : ListenerPhase) (w : World) : Moved := (w.putListener n { l with phase }, [])
  match l.phase, input with
  | .starting, .go =>
    some (w.putListener n { l with phase := .waiting, ready := some (.ok ()) }, [])
  | .starting, .failed error =>
    some (w.putListener n { l with phase := .closing false, ready := some (.error error) }, [])
  | .waiting, .stop =>
    if l.stopping then some ((goes (.closing false) w).1, [.listenerDisarmed]) else none
  | .waiting, .wake =>
    match ((w.process.bridge.pendingAt l.slot).take Signal.batch).getLast? with
    | none => none
    | some signal =>
      some ((goes (.calling .atGate) (w.setBridge (w.process.bridge.read l.slot))).1,
        [.signalReceived signal])
  | .calling phase, input => do
    match ← unmountStep role phase input w with
    | (.running phase, w, events) => return ((goes (.calling phase) w).1, events)
    | (.finished true, w, events) => return ((goes (.closing false) w).1, events)
    | (.finished false, w, events) =>
      return ((goes .waiting w).1, events ++ [.waitingForSignal])
  | .closing false, .go => do
    return goes (.closing true) (← w.lockBridge setup role)
  | .closing true, .go =>
    some (goes .exited (w.setBridge (w.process.bridge.unregister l.slot)).unlockBridge)
  | _, _ => none

/-! ## The host -/

/-- The world after a step, if the step is possible. -/
def step (setup : Setup) (label : Label) (w : World) : Option Moved :=
  match label with
  | .mount n mountpoint options =>
    match w.host.mounts n with
    | none => some (w.putMount n ⟨mountpoint, options, .claiming false, none⟩, [])
    | some _ => none
  | .unmount n =>
    match w.host.unmounts n with
    | none => some (w.putUnmount n (.running .atGate), [])
    | some _ => none
  | .act (.mount n) input => do
    mountStep setup n (← w.host.mounts n) input w
  | .act (.unmount n) input => do
    match ← w.host.unmounts n with
    | .running phase =>
      let (call, w, events) ← unmountStep (.unmount n) phase input w
      return (w.putUnmount n call, events)
    | .finished _ => none
  | .act (.listener n) input => do
    listenerStep setup n (← w.host.listeners n) input w
  | .raise signal =>
    if w.process.bridge.handles signal then
      some (w.setBridge (w.process.bridge.deliver signal), [])
    else some (w, [])

/-- What a caller is told who only asks whether a mount ended well; the reason
    of a failure is reported instead. -/
def mountOutcome (mountpoint : String) : Option HostError → Bool × List Event
  | none => (true, [])
  | some error => (false, [.mountFailed mountpoint error])

/-- The world after a sequence of steps, if each is possible in its turn, and
    all that they report. -/
def run (setup : Setup) : List Label → World → Option Moved
  | [], w => some (w, [])
  | label :: labels, w => do
    let (w, events) ← step setup label w
    let (w, more) ← run setup labels w
    return (w, events ++ more)

end HostedFs.Host
