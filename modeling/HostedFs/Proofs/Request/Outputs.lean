import HostedFs.Proofs.Request.Outcomes

/-! # What a request leaves in native memory

    An operation that stores one answer does so last, after all that can fail. Where
    its status is negative the memory is as it was. Where a file was opened, its
    information has a handle, and but for direct input and output it is otherwise
    the same.

    * `Request.storing`: the operations that store one answer.
    * `Settles`: what one of them leaves, said by the conversations in which it was
      served.
    * `serve_memory`: the memory after each of them.
-/

namespace HostedFs

variable {σ : Type}

/-! ## What is left -/

namespace Request

/-- The operations that store one answer. -/
def storing : List String :=
  ["getattr", "fgetattr", "statfs", "readlink", "getpath", "getxattr", "open", "create", "opendir"]

/-- The operations that store no more of a file than that it is open. -/
def opening : List String :=
  ["open", "create", "opendir"]

end Request

/-- The implementation gave a file a handle. -/
inductive Gives : Conversation → UInt64 → Prop
  | openFile {path : String} {flags : Int32} {asked : List (Call.openFile path flags).Prompt}
      {fh : UInt64} : Gives ⟨.openFile path flags, asked, .ok fh⟩ fh
  | create {path : String} {flags : Int32} {mode : UInt32}
      {asked : List (Call.create path flags mode).Prompt} {fh : UInt64} :
      Gives ⟨.create path flags mode, asked, .ok fh⟩ fh
  | opendir {path : String} {asked : List (Call.opendir path).Prompt} {fh : UInt64} :
      Gives ⟨.opendir path, asked, .ok fh⟩ fh

/-- What is stored of a file that was opened. -/
inductive Opens (directIo : Bool) : Request → List Conversation → Memory → Prop
  /-- The handle and, if it is wanted, the bit for direct input and output. -/
  | openFile {path : NativeText} {info : FileInfo} {v : Conversation} {fh : UInt64}
      (given : Gives v fh) :
      Opens directIo (.openFile path (some info)) [v]
        (.file (some { info with fh, bits := if directIo then info.bits ||| 1 else info.bits }))
  /-- The handle is that of the last call. -/
  | create {path : NativeText} {mode : UInt32} {info : FileInfo} {before : List Conversation}
      {v : Conversation} {fh : UInt64} (given : Gives v fh) :
      Opens directIo (.create path mode (some info)) (before ++ [v])
        (.file (some { info with fh, bits := if directIo then info.bits ||| 1 else info.bits }))
  /-- Nothing but the handle. -/
  | opendir {path : NativeText} {info : FileInfo} {v : Conversation} {fh : UInt64}
      (given : Gives v fh) :
      Opens directIo (.opendir path (some info)) [v] (.file (some { info with fh }))
  /-- A directory can do without one. -/
  | unopened {path : NativeText} {info : FileInfo} {p : String}
      {asked : List (Call.opendir p).Prompt} :
      Opens directIo (.opendir path (some info))
        [⟨.opendir p, asked, .error (.returned .noSys)⟩]
        (.file (some { info with fh := FileInfo.noHandle }))

/-- What an operation that stores one answer leaves: the memory as it was if it has
    failed; and if it was to open a file, that. -/
structure Settles (directIo : Bool) (r : Request) (log : List Conversation)
    (out : Except Failure Int32 × Memory) : Prop where
  failed : statusOf out.1 < 0 → out.2 = r.memory
  opened : 0 ≤ statusOf out.1 → r.operation ∈ Request.opening → Opens directIo r log out.2

namespace Settles

variable {directIo : Bool} {r : Request} {log : List Conversation} {memory : Memory}

/-- A failure that leaves the memory. -/
theorem error (f : Failure) : Settles directIo r log (.error f, r.memory) where
  failed _ := rfl
  opened h := absurd h (Int.not_le.mpr f.expected_neg)

/-- A success of an operation that opens nothing. -/
theorem ok {status : Int32} (h : 0 ≤ status.toInt) (other : r.operation ∉ Request.opening) :
    Settles directIo r log (.ok status, memory) where
  failed hneg := absurd hneg (Int.not_lt.mpr h)
  opened _ hmem := absurd hmem other

/-- A success of one that opens a file. -/
theorem opens (h : Opens directIo r log memory) : Settles directIo r log (.ok 0, memory) where
  failed hneg := absurd hneg (Int.lt_irrefl 0)
  opened _ _ := h

theorem countStatus (n : Nat) (other : r.operation ∉ Request.opening) :
    Settles directIo r log (.ok (HostedFs.countStatus n), memory) := by
  refine ok ?_ other
  rw [toInt_countStatus, greatestStatus]
  omega

end Settles

/-! ## Jobs -/

/-- The file information after a file was opened. -/
theorem opened_eq (srv : Server σ) (info : FileInfo) (fh : UInt64) :
    Job.opened srv info fh =
      { info with fh, bits := if srv.directIo then info.bits ||| 1 else info.bits } := by
  unfold Job.opened
  cases srv.directIo <;> rfl

theorem opens_openFile (srv : Server σ) {path : NativeText} {info : FileInfo} {v : Conversation}
    {fh : UInt64} (given : Gives v fh) :
    Opens srv.directIo (.openFile path (some info)) [v]
      (.file (some (Job.opened srv.recorded info fh))) := by
  rw [opened_eq]
  exact .openFile given

theorem opens_create (srv : Server σ) {path : NativeText} {mode : UInt32} {info : FileInfo}
    (before : List Conversation) {v : Conversation} {fh : UInt64} (given : Gives v fh) :
    Opens srv.directIo (.create path mode (some info)) (before ++ [v])
      (.file (some (Job.opened srv.recorded info fh))) := by
  rw [opened_eq]
  exact .create given

theorem settles_openFile (srv : Server σ) (path : NativeText) (info : FileInfo) (p : String)
    (state : σ) :
    Ensures (Settles srv.directIo (.openFile path (some info)))
      (Job.run srv.recorded (.openFile p info)) { state := (state, []) } := by
  refine .call fun asked result next => .pure ?_
  cases result with
  | ok fh => exact .opens (opens_openFile srv .openFile)
  | error f => exact .error f

theorem settles_create (srv : Server σ) (path : NativeText) (mode : UInt32) (info : FileInfo)
    (p : String) (state : σ) :
    Ensures (Settles srv.directIo (.create path mode (some info)))
      (Job.run srv.recorded (.create p mode info)) { state := (state, []) } := by
  refine .call fun asked result next => ?_
  cases result with
  | ok fh => exact .pure (.opens (opens_create srv [] .create))
  | error f =>
    refine .ite (fun _ => .call fun asked' result' next' => ?_) fun _ => .pure (.error f)
    cases result' with
    | error f' => exact .pure (.error f')
    | ok done =>
      refine .call fun asked'' result'' next'' => .pure ?_
      cases result'' with
      | error f'' => exact .error f''
      | ok fh => exact .opens (opens_create srv _ .openFile)

theorem settles_opendir (srv : Server σ) (path : NativeText) (info : FileInfo) (p : String)
    (state : σ) :
    Ensures (Settles srv.directIo (.opendir path (some info)))
      (Job.run srv.recorded (.opendir p info)) { state := (state, []) } := by
  refine .call fun asked result next => ?_
  cases result with
  | ok fh => exact .pure (.opens (.opendir .opendir))
  | error f =>
    refine .ite (fun hf => .pure ?_) fun _ => .pure (.error f)
    obtain rfl : f = .returned .noSys := hf
    exact .opens .unopened

/-- The record for the whole filesystem is filled last, if there is one. -/
theorem settles_statfs (srv : Server σ) (path : NativeText) (record : Option StatvfsRecord)
    (p : String) (state : σ) :
    Ensures (Settles srv.directIo (.statfs path record))
      (Job.run srv.recorded (.statfs p record)) { state := (state, []) } := by
  have hother : (Request.statfs path record).operation ∉ Request.opening := by
    simp [Request.operation, Request.opening]
  refine .call fun asked result next => ?_
  cases record with
  | none =>
    cases result with
    | ok s => exact .pure (.error _)
    | error f => exact .ite (fun _ => .pure (.error _)) fun _ => .pure (.error f)
  | some record =>
    cases result with
    | ok s => exact .pure (.ok (by decide) hother)
    | error f => exact .ite (fun _ => .pure (.ok (by decide) hother)) fun _ => .pure (.error f)

/-- A value is stored if there is room for it. -/
theorem settles_getxattr (srv : Server σ) (path name : NativeText) (buffer : Buffer) (p n : String)
    (state : σ) :
    Ensures (Settles srv.directIo (.getxattr path name buffer))
      (Job.run srv.recorded (.getxattr p n buffer)) { state := (state, []) } := by
  have hother : (Request.getxattr path name buffer).operation ∉ Request.opening := by
    simp [Request.operation, Request.opening]
  refine .call fun asked result next => ?_
  cases result with
  | ok data =>
    exact .ite (fun _ => .pure (.countStatus _ hother)) fun _ =>
      .ite (fun _ => .pure (.error _)) fun _ => .pure (.countStatus _ hother)
  | error f => exact .pure (.error f)

/-- The job of an operation that stores one answer leaves what it should. -/
theorem settles_decode (srv : Server σ) {r : Request} {job : Job} (h : r.decode = .ok job)
    (hr : r.operation ∈ Request.storing) (state : σ) :
    Ensures (Settles srv.directIo r) (job.run srv.recorded) { state := (state, []) } := by
  cases r with
  -- One case for each storing operation; the others are excluded by `hr`.
  | statfs path record =>
    obtain ⟨p, -, rfl⟩ := job_of_read h
    exact settles_statfs srv path record p state
  | readlink | getpath =>
    obtain ⟨p, -, rfl⟩ := job_of_read h
    refine .call fun asked result next => ?_
    cases result with
    | ok target => exact .pure (.ok (by decide) (by simp [Request.operation, Request.opening]))
    | error f => exact .pure (.error f)
  | getattr | fgetattr =>
    obtain ⟨record, p, rfl, -, rfl⟩ := job_of_required h
    refine .call fun asked result next => ?_
    cases result with
    | ok s => exact .pure (.ok (by decide) (by simp [Request.operation, Request.opening]))
    | error f => exact .pure (.error f)
  | openFile path _ =>
    obtain ⟨info, p, rfl, -, rfl⟩ := job_of_required h
    exact settles_openFile srv path info p state
  | create path mode _ =>
    obtain ⟨info, p, rfl, -, rfl⟩ := job_of_required h
    exact settles_create srv path mode info p state
  | opendir path _ =>
    obtain ⟨info, p, rfl, -, rfl⟩ := job_of_required h
    exact settles_opendir srv path info p state
  | getxattr path name buffer =>
    obtain ⟨p, n, -, -, rfl⟩ := job_of_reads h
    exact settles_getxattr srv path name buffer p n state
  | _ => simp [Request.operation, Request.storing] at hr

/-! ## Requests -/

/-- The memory after an operation of `Request.storing`, which stores one answer, whatever its
    arguments are and whatever the implementation does.

    If the status is negative the memory is as it was. Otherwise, if a file was opened, it `Opens`
    the information: this has the handle that the implementation gave last, or none for a
    directory whose opening it does not have, and the bit for direct input and output is set if
    files are opened so; all else of it is as it was. -/
theorem serve_memory (srv : Server σ) {r : Request} (hr : r.operation ∈ Request.storing)
    (state : σ) :
    ((r.serve srv state).status < 0 → (r.serve srv state).memory = r.memory) ∧
      (0 ≤ (r.serve srv state).status → r.operation ∈ Request.opening →
        Opens srv.directIo r (r.log srv state) (r.serve srv state).memory) := by
  simp only [Int32.lt_iff_toInt_lt, Int32.le_iff_toInt_le]
  cases hdecode : r.decode with
  | error e =>
    have hserve : r.serve srv state = ⟨e.status, r.memory, [], [], state⟩ := by
      simp only [Request.serve, hdecode]
    have hneg : e.status.toInt < 0 := e.toInt_status ▸ e.expected_neg
    rw [hserve]
    exact ⟨fun _ => rfl, fun h => absurd h (Int.not_le.mpr hneg)⟩
  | ok job =>
    obtain ⟨result, hsettles, hstatus⟩ :=
      serve_ensures srv hdecode state (settles_decode srv hdecode hr state)
    rw [hstatus]
    exact ⟨hsettles.failed, hsettles.opened⟩

/-- A server whose implementation cannot make a file and open it in one call. To open
    a file has the answer given. -/
def opener (answer : Except Failure UInt64) : Server Unit where
  fileSystem.respond
    | _, .effect _, state => .done (.ok ()) state
    | _, .openFile .., state => .done answer state
    | _, c, state => .done c.unimplemented state
  directIo := true
  caller := none
  clock := fun _ => ⟨0, 0⟩

/-- To have a file made, with a handle left over in the file information. -/
def remaking : Request :=
  .create (some [47, 97]) 420 (some { flags := 2, bits := 4, fh := 9 })

/-- A panic in the last of three calls leaves the file information. If that call
    succeeds, the handle and one bit are set. -/
theorem serve_memory_remaking :
    (remaking.serve (opener (.error (.panicked none))) ()).memory = remaking.memory ∧
      Opens true remaking (remaking.log (opener (.ok 7)) ())
        (.file (some { flags := 2, bits := 5, fh := 7 })) := by
  have hstoring : remaking.operation ∈ Request.storing := by decide
  have hfailed := (serve_memory (opener (.error (.panicked none))) hstoring ()).1 (by decide)
  have hopened := (serve_memory (opener (.ok 7)) hstoring ()).2 (by decide) (by decide)
  exact ⟨hfailed, hopened⟩

end HostedFs
