import HostedFs.Host.Step
import HostedFs.Native.Operations
import HostedFs.Notification
import HostedFs.Request.Serve

/-! # Running hosts

    The hosts of a process, run in an order that is easy to follow: a thread
    goes on until it is over or waits for the native side, and while it waits
    for a listener the listeners go on.

    * `Surroundings`: the implementations and the native side, over a state.
    * `Hosts`: the hosts of a process with that state.
    * `Hosts.advance`: lets a thread go on.
    * The calls: to mount and to unmount, to notify, a signal, and what the
      native side calls for while a mount runs.
-/

namespace HostedFs.Host

/-- What hosts work with: the implementations, and the native side's answers.
    All share one state. -/
structure Surroundings (σ : Type) where
  /-- The implementation that a host serves; it may look at the host's record. -/
  fileSystem : Nat → MountRecord → FileSystem σ
  /-- The native library prepares for a host, and reports how. -/
  prepare : Nat → σ → Option HostError × σ × List Event
  /-- The native side unmounts, or takes its time and answers later. -/
  unmount : Nat → Session → Option String → σ → Option Bool × σ
  /-- The native side passes on that a path has changed. -/
  notify : Nat → Session → String → ChangeSet → σ → Bool × σ
  /-- The current time. -/
  now : Timespec

/-- The hosts of a process and the state of their surroundings. -/
structure Hosts (σ : Type) where
  process : Process := {}
  members : List (Setup × Host)
  state : σ
  /-- The number of the next call or registration. -/
  next : Nat := 0
  /-- What the last attempt to unmount came to. -/
  unmounted : Bool := false
  /-- What was reported, in order. -/
  events : List Event := []

/-- The attempt to unmount that a thread makes. -/
def attempt? (host : Host) : Role → Option UnmountPhase
  | .mount n =>
    match (host.mounts n).map MountCall.phase with
    | some (.initializing call) => call
    | some (.destroying call) => call
    | _ => none
  | .unmount n =>
    match host.unmounts n with
    | some (.running phase) => some phase
    | _ => none
  | .listener n =>
    match (host.listeners n).map Listener.phase with
    | some (.calling phase) => some phase
    | _ => none

namespace Hosts

variable {σ : Type}

/-! ## Looking at hosts -/

/-- The state of a host. -/
def host (s : Hosts σ) (h : Nat) : Host :=
  ((s.members[h]?).map Prod.snd).getD {}

/-- The settings of a host. -/
def settings? (s : Hosts σ) (h : Nat) : Option HostSettings :=
  (s.members[h]?).map fun (setup, _) => setup.settings

/-- How far a call to mount has come. -/
def mountPhase? (s : Hosts σ) (h n : Nat) : Option MountPhase :=
  ((s.host h).mounts n).map MountCall.phase

/-- Why a call to mount has failed, once it has. -/
def mountFailure? (s : Hosts σ) (h n : Nat) : Option HostError :=
  match s.mountPhase? h n with
  | some (.returned error) => error
  | _ => none

/-- The address that the native side was given for a mount. -/
def mountPointer (s : Hosts σ) (h n : Nat) : Nat :=
  ((((s.host h).mounts n).bind MountCall.token).map Token.toPointer).getD 0

/-- The result of a call to unmount, once it is over. -/
def unmountResult? (s : Hosts σ) (h n : Nat) : Option Bool :=
  match (s.host h).unmounts n with
  | some (.finished result) => some result
  | _ => none

/-- A call to unmount waits for the native side. -/
def isCallingNative (s : Hosts σ) (h n : Nat) : Bool :=
  match attempt? (s.host h) (.unmount n) with
  | some (.calling _ _) => true
  | _ => false

/-- The host that a request of the native side is for. A process that cannot
    tell has to end; the event says why. -/
def target (s : Hosts σ) (context : Option Native.Context) : Except Event Nat :=
  match context.bind fun c => Token.ofPointer? c.privateData with
  | none => .error .orphanedRequest
  | some token =>
    match s.process.registry.lookup token with
    | some h => .ok h
    | none => .error (.unregisteredToken token.address)

/-! ## Steps -/

/-- A step of a host, if it is possible. -/
def step? (h : Nat) (label : Label) (s : Hosts σ) : Option (Hosts σ) := do
  let (setup, host) ← s.members[h]?
  let (w, events) ← Host.step setup label ⟨s.process, host⟩
  return { s with
    process := w.process
    members := s.members.set h (setup, w.host)
    events := s.events ++ events }

/-- The input of a listener that waits: it reads signals before it stops. -/
def listenerInput? (s : Hosts σ) (l : Listener) : Option Input :=
  match l.phase with
  | .exited => none
  | .waiting =>
    if !(s.process.bridge.pendingAt l.slot).isEmpty then some .wake
    else if l.stopping then some .stop
    else none
  | _ => some .go

/-- The next input of a thread and the surroundings after it was asked for. There is none for
    a thread that is over, and none while the native loop, the implementation
    or a slow native side has its turn. -/
def feed (env : Surroundings σ) (h : Nat) (role : Role) (s : Hosts σ) : Option Input × Hosts σ :=
  match attempt? (s.host h) role with
  | some (.calling session mountpoint) =>
    let (answer, state) := env.unmount h session mountpoint s.state
    (answer.map Input.answered, { s with state })
  | some (.leaving result) => (some .go, { s with unmounted := result })
  | some _ => (some .go, s)
  | none =>
    match role with
    | .mount n =>
      match s.mountPhase? h n with
      | some .preparing =>
        let (error, state, events) := env.prepare h s.state
        (some (.prepared error), { s with state, events := s.events ++ events })
      | some .registering => (some (.allocated (.nth s.next)), { s with next := s.next + 1 })
      | none | some .running | some (.initializing _) | some (.destroying _) | some (.returned _) =>
        (none, s)
      | some _ => (some .go, s)
    | .unmount _ => (none, s)
    | .listener n => (((s.host h).listeners n).bind s.listenerInput?, s)

/-- Lets a thread go on by itself. The measure bounds its steps. -/
def advanceAlone (env : Surroundings σ) (h : Nat) (role : Role) : Nat → Hosts σ → Hosts σ
  | 0, s => s
  | n + 1, s =>
    match s.feed env h role with
    | (none, s) => s
    | (some input, fed) =>
      match fed.step? h (.act role input) with
      | some s => advanceAlone env h role n s
      | none => s

/-- More steps than a thread ever takes without waiting for the native side. -/
def patience : Nat :=
  256

/-- Lets the listeners of a host go on. -/
def advanceListeners (env : Surroundings σ) (h : Nat) (s : Hosts σ) : Hosts σ :=
  (List.range (s.host h).nextListener).foldl
    (fun s n => s.advanceAlone env h (.listener n) patience) s

/-- Lets a thread go on, and the listeners while it waits for one. -/
def advanceWithin (env : Surroundings σ) (h : Nat) (role : Role) : Nat → Hosts σ → Hosts σ
  | 0, s => s
  | n + 1, s =>
    match s.feed env h role with
    | (none, s) => s
    | (some input, fed) =>
      match fed.step? h (.act role input) with
      | some s => advanceWithin env h role n s
      | none => advanceWithin env h role n (s.advanceListeners env h)

/-- Lets a thread go on as far as it can. -/
def advance (env : Surroundings σ) (h : Nat) (role : Role) (s : Hosts σ) : Hosts σ :=
  s.advanceWithin env h role patience

/-- Gives a thread an input and lets it go on. -/
def act (env : Surroundings σ) (h : Nat) (role : Role) (input : Input) (s : Hosts σ) : Hosts σ :=
  match s.step? h (.act role input) with
  | some s => s.advance env h role
  | none => s

/-- Starts a call and lets it go on. Its number comes with the result. -/
def start (env : Surroundings σ) (h : Nat) (label : Nat → Label) (role : Nat → Role)
    (s : Hosts σ) : Nat × Hosts σ :=
  let n := s.next
  let s := { s with next := n + 1 }
  match s.step? h (label n) with
  | some s => (n, s.advance env h (role n))
  | none => (n, s)

/-! ## Calls to a host -/

/-- Begins to mount. Afterwards the event loop runs, or the call is over. -/
def beginMount (env : Surroundings σ) (h : Nat) (mountpoint : String) (options : List String)
    (s : Hosts σ) : Nat × Hosts σ :=
  s.start env h (fun n => .mount n mountpoint options) .mount

/-- The event loop of a mount returns, and the call comes to its end. -/
def endMount (env : Surroundings σ) (h n : Nat) (status : Int32) (s : Hosts σ) : Hosts σ :=
  s.act env h (.mount n) (.loopReturned status)

/-- Unmounts. The call is over unless the native side takes its time. -/
def unmount (env : Surroundings σ) (h : Nat) (s : Hosts σ) : Nat × Hosts σ :=
  s.start env h .unmount .unmount

/-- The native side answers a call to unmount at last. -/
def answerUnmount (env : Surroundings σ) (h n : Nat) (done : Bool) (s : Hosts σ) : Hosts σ :=
  s.act env h (.unmount n) (.answered done)

/-- Passes on that a path has changed, if the host is mounted. -/
def notify (env : Surroundings σ) (h : Nat) (path : String) (changes : ChangeSet) (s : Hosts σ) :
    Bool × Hosts σ :=
  match (s.host h).record.sessionToNotify path with
  | none => (false, s)
  | some session =>
    let (sent, state) := env.notify h session path changes s.state
    (sent, { s with state })

/-- A signal is raised, and every listener reacts. -/
def raise (env : Surroundings σ) (signal : Signal) (s : Hosts σ) : Hosts σ :=
  let s := (s.step? 0 (.raise signal)).getD s
  (List.range s.members.length).foldl (fun s h => s.advanceListeners env h) s

/-! ## Calls of the native side -/

/-- Serves a request. -/
def serve (env : Surroundings σ) (h : Nat) (caller : Option Caller) (request : Request)
    (s : Hosts σ) : Completion σ × Hosts σ :=
  let server : Server σ :=
    { fileSystem := env.fileSystem h (s.host h).record
      granted := (s.host h).negotiated
      directIo := ((s.settings? h).map HostSettings.directIo).getD false
      caller
      clock := fun _ => env.now }
  let completion := request.serve server s.state
  (completion, { s with state := completion.state, events := s.events ++ completion.events })

/-- Plays what an implementation does when it is told of the mount. It may
    unmount meanwhile. -/
def attend {R : Type} (env : Surroundings σ) (h n : Nat) :
    Exchange σ UnmountRequest R → Hosts σ → R × Hosts σ
  | .done result state, s => (result, { s with state })
  | .ask _ state resume, s =>
    let s := act env h (.mount n) .callUnmount { s with state }
    attend env h n (resume s.unmounted s.state) s

/-- The implementation has been told of the mount; a failure is reported. -/
def finishTelling (env : Surroundings σ) (h n : Nat) (operation : String)
    (told : Except Failure Unit × Hosts σ) : Hosts σ :=
  let events :=
    match told.1 with
    | .ok () => []
    | .error failure => failure.events operation
  let s := told.2
  act env h (.mount n) .left { s with events := s.events ++ events }

/-- The native side calls for the start of a mount. The connection comes back
    with what is wanted of it. -/
def callInit (env : Surroundings σ) (h n : Nat) (context : Native.Context)
    (connection : Option Connection) (s : Hosts σ) : Option Connection × Hosts σ :=
  let requested := ((s.settings? h).map HostSettings.requested).getD {}
  let s := s.act env h (.mount n) (.callInit ⟨context.session⟩ connection)
  let fileSystem := env.fileSystem h (s.host h).record
  let told := attend env h n (fileSystem.respond (some context.caller) .init s.state) s
  ((Connection.settle requested connection).2, finishTelling env h n "init" told)

/-- The native side calls for the end of a mount. -/
def callDestroy (env : Surroundings σ) (h n : Nat) (context : Native.Context) (s : Hosts σ) :
    Hosts σ :=
  let s := s.act env h (.mount n) .callDestroy
  let fileSystem := env.fileSystem h (s.host h).record
  let told := attend env h n (fileSystem.respond (some context.caller) .destroy s.state) s
  finishTelling env h n "destroy" told

end Hosts

end HostedFs.Host
