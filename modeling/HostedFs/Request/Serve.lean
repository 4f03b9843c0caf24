import HostedFs.Event
import HostedFs.FileSystem.Basic
import HostedFs.Request.Job

/-! # Serving requests

    A request is decoded, the implementation is called, and its answer becomes
    a status and a change of native memory.

    * `Service`: what has happened while a request is served.
    * `Job.run`: the calls that a decoded request makes and what it makes of
      their answers.
    * `Request.serve`: the whole way from a request to its completion.

    A status is zero or a count on success and negative on failure. Whatever
    an implementation does, it cannot break the native side: a panic becomes a
    status, too.
-/

namespace HostedFs

/-! ## The serving side -/

/-- What requests are served with. -/
structure Server (σ : Type) where
  fileSystem : FileSystem σ
  /-- The features that were granted to the mount. -/
  granted : Capabilities := {}
  /-- Every file is opened for direct input and output. -/
  directIo : Bool
  caller : Option Caller
  /-- What the clock shows, each time that it is looked at. -/
  clock : Nat → Timespec

/-- What has happened so far: the state of the implementation, the calls made
    and the events reported, in order, and how often the clock was looked at. -/
structure Service (σ : Type) where
  state : σ
  calls : List Call := []
  events : List Event := []
  looks : Nat := 0

namespace Server

variable {σ τ : Type}

/-- Calls the implementation; what it asks back is answered from a state. -/
def callWith (srv : Server σ) (c : Call) (answer : c.Prompt → τ → Bool × τ) (t : τ) :
    StateM (Service σ) (c.Result × τ) := fun service =>
  let (result, state, t) := ((srv.fileSystem.respond srv.caller c service.state).run answer t)
  ((result, t), { service with state, calls := service.calls ++ [c] })

/-- Calls the implementation; what it asks back is refused. -/
def call (srv : Server σ) (c : Call) : StateM (Service σ) c.Result := do
  return (← srv.callWith c (fun _ t => (false, t)) ()).1

/-- Looks at the clock. -/
def time (srv : Server σ) : StateM (Service σ) Timespec := fun service =>
  (srv.clock service.looks, { service with looks := service.looks + 1 })

end Server

/-- Reports events. -/
def Service.report {σ : Type} (events : List Event) : StateM (Service σ) Unit :=
  modify fun service => { service with events := service.events ++ events }

/-! ## Counts, entries and names -/

/-- The status of a successful operation that counts. -/
def countStatus (n : Nat) : Int32 :=
  Int32.ofInt ((Word.kind Int32).clamp n)

/-- A directory listing under way. -/
structure Listing where
  /-- The native side has refused an entry. -/
  full : Bool := false
  /-- The entries that it was offered. -/
  entries : List DirEntry := []
  /-- The number of names that could not be passed on. -/
  skipped : Nat := 0

namespace Listing

/-- The record of an entry's metadata. -/
def record (granted : Capabilities) (s : Stat) : PosixStat :=
  let zero : RawTime := ⟨0, 0⟩
  storeStat granted ⟨0, 0, 0, 0, 0, 0, 0, 0, 0, 0, zero, zero, zero⟩ s

/-- Offers an entry to the native side. Once that has refused one it is asked
    no more, and a name with a NUL is left out. -/
def offer (granted : Capabilities) (sink : DirSink) (o : Offered) (l : Listing) :
    Bool × Listing :=
  if l.full then (false, l)
  else if 0 ∈ Text.bytes o.name then (true, { l with skipped := l.skipped + 1 })
  else
    let entries := l.entries ++ [⟨Text.bytes o.name, o.stat.map (record granted), o.next⟩]
    let full := sink entries != 0
    (!full, { l with full, entries })

end Listing

/-- A list of names being packed, each with a NUL after it. -/
structure Packing where
  buffer : Buffer
  /-- The bytes of the names so far. The sum is not cut off: names that are held
      in memory have fewer than `2 ^ 64` bytes. -/
  used : Nat := 0
  overflow : Bool := false

/-- Packs a name. Where the size is zero only its length counts. -/
def Packing.add (name : String) (p : Packing) : Bool × Packing :=
  let bytes := Text.bytes name ++ [0]
  let used := p.used + bytes.length
  if p.buffer.size = 0 then (true, { p with used })
  else if p.buffer.bytes.length < used then (false, { p with overflow := true })
  else (true, { p with buffer := p.buffer.put p.used bytes, used })

/-! ## Jobs -/

namespace Job

variable {σ : Type}

/-- The time that an update stands for, given the current and the stored one. -/
def resolveTime (now : Timespec) (stored : Option Timespec) : TimeUpdate → Timespec
  | .now => now
  | .set t => t
  | .omit => stored.getD now

/-- The two times to be set, or the failure to look up the stored ones. Those
    are looked up only if one is to be kept; if they cannot be had, it becomes
    the current time. -/
def resolveTimes (srv : Server σ) (path : String) (atime mtime : TimeUpdate) :
    StateM (Service σ) (Except Failure (Timespec × Timespec)) := do
  let now ← srv.time
  let pick (stored : Option Stat) : Timespec × Timespec :=
    (resolveTime now (stored.map Stat.atim) atime, resolveTime now (stored.map Stat.mtim) mtime)
  if atime = .omit ∨ mtime = .omit then
    match ← srv.call (.getattr path none) with
    | .ok stat => return .ok (pick (some stat))
    | .error (.returned _) => return .ok (pick none)
    | .error f => return .error f
  else return .ok (pick none)

/-- File information of a newly opened file. -/
def opened (srv : Server σ) (info : FileInfo) (fh : UInt64) : FileInfo :=
  let info := { info with fh }
  if srv.directIo then info.setDirectIo true else info

/-- The outcome of an operation that counts nothing. -/
def done {α : Type} : Except Failure α → Except Failure Int32
  | .ok _ => .ok 0
  | .error f => .error f

/-- The outcome of an operation that gives a file a handle, and the file
    information after it. -/
def opening (info : FileInfo) (set : UInt64 → FileInfo) :
    Except Failure UInt64 → Except Failure Int32 × Memory
  | .ok fh => (.ok 0, .file (some (set fh)))
  | .error f => (.error f, .file (some info))

/-- Does a job: its outcome and the memory after it. -/
def run (srv : Server σ) : Job → StateM (Service σ) (Except Failure Int32 × Memory)
  | .effect e lenient => do
    match ← srv.call (.effect e) with
    | .ok _ => return (.ok 0, .nothing)
    | .error f =>
      if lenient && f.IsUnimplemented then return (.ok 0, .nothing) else return (.error f, .nothing)
  | .statfs path record => do
    let store (s : Statfs) : Except Failure Int32 × Memory :=
      match record with
      | some r => (.ok 0, .statvfs (some (r.store s)))
      | none => (.error (.returned .invalid), .statvfs none)
    match ← srv.call (.statfs path) with
    | .ok s => return store s
    | .error f => if f.IsUnimplemented then return store {} else return (.error f, .statvfs record)
  | .readlink path buffer => do
    match ← srv.call (.readlink path) with
    | .ok target => return (.ok 0, .buffer (buffer.putText target))
    | .error f => return (.error f, .buffer buffer)
  | .getattr path handle record => do
    match ← srv.call (.getattr path handle) with
    | .ok s => return (.ok 0, .stat (some (storeStat srv.granted record s)))
    | .error f => return (.error f, .stat (some record))
  | .utimens path none => do
    let now ← srv.time
    return (done (← srv.call (.effect (.utimens path now now))), .nothing)
  | .utimens path (some (atime, mtime)) => do
    match ← resolveTimes srv path atime mtime with
    | .ok (a, m) => return (done (← srv.call (.effect (.utimens path a m))), .nothing)
    | .error f => return (.error f, .nothing)
  | .getpath path handle buffer => do
    match ← srv.call (.getpath path handle) with
    | .ok stored => return (.ok 0, .buffer (buffer.putText stored))
    | .error f => return (.error f, .buffer buffer)
  | .openFile path info => do
    return opening info (opened srv info) (← srv.call (.openFile path info.flags))
  | .create path mode info => do
    match ← srv.call (.create path info.flags mode) with
    | .ok fh => return (.ok 0, .file (some (opened srv info fh)))
    | .error f =>
      if f.IsUnimplemented then
        match ← srv.call (.effect (.mknod path (Mode.regular ||| mode) 0)) with
        | .ok _ => return opening info (opened srv info) (← srv.call (.openFile path info.flags))
        | .error f => return (.error f, .file (some info))
      else return (.error f, .file (some info))
  | .read path buffer offset handle => do
    let (result, buffer) ← srv.callWith (.read path buffer.bytes.length offset handle)
      (fun (p : Placement) (b : Buffer) => (true, b.put p.offset p.bytes)) buffer
    match result with
    | .ok n => return (.ok (countStatus (Nat.min n buffer.size)), .buffer buffer)
    | .error f => return (.error f, .buffer buffer)
  | .write path data offset handle => do
    match ← srv.call (.write path data.bytes offset handle) with
    | .ok n => return (.ok (countStatus (Nat.min n data.size)), .nothing)
    | .error f => return (.error f, .nothing)
  | .opendir path info => do
    let set (fh : UInt64) : FileInfo := { info with fh }
    match ← srv.call (.opendir path) with
    | .ok fh => return (.ok 0, .file (some (set fh)))
    | .error f =>
      if f.IsUnimplemented then return (.ok 0, .file (some (set FileInfo.noHandle)))
      else return (.error f, .file (some info))
  | .readdir path sink offset handle => do
    let (result, listing) ← srv.callWith (.readdir path offset handle)
      (Listing.offer srv.granted sink) {}
    Service.report (List.replicate listing.skipped (.entryWithNul path))
    return (done result, .entries listing.entries)
  | .getxattr path name buffer => do
    match ← srv.call (.getxattr path name) with
    | .ok data =>
      let data : List UInt8 := data
      if buffer.size = 0 then return (.ok (countStatus data.length), .buffer buffer)
      else if buffer.bytes.length < data.length then
        return (.error (.returned .range), .buffer buffer)
      else return (.ok (countStatus data.length), .buffer (buffer.put 0 data))
    | .error f => return (.error f, .buffer buffer)
  | .listxattr path buffer => do
    let (result, packing) ← srv.callWith (.listxattr path) Packing.add { buffer }
    match result with
    | .ok _ =>
      if packing.overflow then return (.error (.returned .range), .buffer packing.buffer)
      else return (.ok (countStatus packing.used), .buffer packing.buffer)
    | .error f => return (.error f, .buffer packing.buffer)

end Job

/-! ## Requests -/

/-- The status of a failure. -/
def Failure.status : Failure → Int32
  | .returned e | .raised e => e.status
  | .panicked _ => Errno.io.status

/-- What is reported of a failure: only what carries no error number. -/
def Failure.events (operation : String) : Failure → List Event
  | .returned _ | .raised _ => []
  | .panicked text => [.operationPanicked operation text]

/-- What a request comes to. -/
structure Completion (σ : Type) where
  status : Int32
  memory : Memory
  /-- The calls that were made, in order. -/
  calls : List Call
  events : List Event
  state : σ

/-- Serves a request from a state of the implementation. -/
def Request.serve {σ : Type} (srv : Server σ) (request : Request) (state : σ) : Completion σ :=
  match request.decode with
  | .error e => ⟨e.status, request.memory, [], [], state⟩
  | .ok job =>
    let ((result, memory), service) := job.run srv { state }
    match result with
    | .ok status => ⟨status, memory, service.calls, service.events, service.state⟩
    | .error f =>
      ⟨f.status, memory, service.calls, service.events ++ f.events request.operation,
        service.state⟩

end HostedFs
