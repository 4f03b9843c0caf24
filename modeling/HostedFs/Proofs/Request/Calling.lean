import HostedFs.Proofs.Request.Outcomes

/-! # What a request calls for

    A request is decoded to a job of its own kind, and the job begins with the call of
    the operation. Which job it is, is told once, so that nothing about a job has to
    decode its request again.

    * `Job.Once`: the jobs that are one call and pass its answer on.
    * `Decoded`, `decoded`: the job that a request is decoded to.
    * `called_decoded`: the calls of the job are those of the request.
-/

namespace HostedFs

variable {σ : Type} {r : Request} {job : Job} {c : Call}

/-! ## Jobs -/

/-- The job is the call alone, and without a failure the status is zero. -/
inductive Job.Once : Job → Call → Prop
  | effect (e : Effect) : Once (.effect e false) (.effect e)
  | readlink (path : String) (buffer : Buffer) : Once (.readlink path buffer) (.readlink path)
  | getattr (path : String) (handle : Option UInt64) (record : PosixStat) :
      Once (.getattr path handle record) (.getattr path handle)
  | getpath (path : String) (handle : Option UInt64) (buffer : Buffer) :
      Once (.getpath path handle buffer) (.getpath path handle)
  | openFile (path : String) (info : FileInfo) :
      Once (.openFile path info) (.openFile path info.flags)
  | readdir (path : String) (sink : DirSink) (offset : Int64) (handle : UInt64) :
      Once (.readdir path sink offset handle) (.readdir path offset handle)

open Request in
/-- The job that a request is decoded to. -/
inductive Decoded : Request → Job → Prop
  | once {r : Request} {job : Job} {c : Call} (plain : r.Plain) (once : job.Once c)
      (own : r.Own c) : Decoded r job
  /-- `fsync` and `fsyncdir` need not be implemented. -/
  | lenient {r : Request} {e : Effect} (own : r.Own (.effect e)) (named : e.line.1 = r.operation)
      (need_not : r.operation ∈ optional) (roomy : r.operation ∉ filling)
      (uncounted : r.operation ∉ counting) (fallsBack : ∀ log, r.FallsBack log .nothing) :
      Decoded r (.effect e true)
  | statfs {path : NativeText} (record : Option StatvfsRecord) {p : String}
      (read : path.read = .ok p) : Decoded (.statfs path record) (.statfs p record)
  | opendir {path : NativeText} (info : FileInfo) {p : String} (read : path.read = .ok p) :
      Decoded (.opendir path (some info)) (.opendir p info)
  | create {path : NativeText} (mode : UInt32) (info : FileInfo) {p : String}
      (read : path.read = .ok p) : Decoded (.create path mode (some info)) (.create p mode info)
  | utimens {path : NativeText} (times : Option (RawTime × RawTime)) {p : String}
      (read : path.read = .ok p) :
      Decoded (.utimens path times)
        (.utimens p (times.map fun both => (both.1.toUpdate, both.2.toUpdate)))
  | read {path : NativeText} (buffer : Buffer) (offset : Int64) (info : Option FileInfo)
      {p : String} (read : path.read = .ok p) :
      Decoded (.read path buffer offset info) (.read p buffer offset (FileInfo.handleOf info))
  | write {path : NativeText} (data : Buffer) (offset : Int64) (info : Option FileInfo)
      {p : String} (read : path.read = .ok p) :
      Decoded (.write path data offset info) (.write p data offset (FileInfo.handleOf info))
  | getxattr {path name : NativeText} (buffer : Buffer) {p n : String} (read : path.read = .ok p)
      (read_name : name.read = .ok n) :
      Decoded (.getxattr path name buffer) (.getxattr p n buffer)
  | listxattr {path : NativeText} (buffer : Buffer) {p : String} (read : path.read = .ok p) :
      Decoded (.listxattr path buffer) (.listxattr p buffer)

/-- Most requests are one call that passes its answer on. -/
theorem Decoded.ofOnce (h : r.operation ∉ Request.special) (once : job.Once c) (own : r.Own c) :
    Decoded r job :=
  .once (Request.plain_of_notMem h) once own

/-- Every request is decoded to a job of its own. -/
theorem decoded (h : r.decode = .ok job) : Decoded r job := by
  -- The requests of one case read the same arguments in the same order.
  cases r with
  | mknod | mkdir | unlink | rmdir | chmod | chown | truncate | ftruncate | access | chflags
  | flush | release | releasedir =>
    obtain ⟨p, hp, rfl⟩ := job_of_read h
    exact .ofOnce (by simp [Request.operation, Request.special]) (.effect _) ⟨p, hp, rfl⟩
  | symlink | link | rename | setxattr | removexattr =>
    obtain ⟨p, q, hp, hq, rfl⟩ := job_of_reads h
    exact .ofOnce (by simp [Request.operation, Request.special]) (.effect _) ⟨p, q, hp, hq, rfl⟩
  | setchgtime | setcrtime =>
    obtain ⟨t, p, ht, hp, rfl⟩ := job_of_required h
    exact .ofOnce (by simp [Request.operation, Request.special]) (.effect _) ⟨p, t, hp, ht, rfl⟩
  | readlink =>
    obtain ⟨p, hp, rfl⟩ := job_of_read h
    exact .ofOnce (by simp [Request.operation, Request.special]) (.readlink _ _) ⟨p, hp, rfl⟩
  | getpath =>
    obtain ⟨p, hp, rfl⟩ := job_of_read h
    exact .ofOnce (by simp [Request.operation, Request.special]) (.getpath _ _ _) ⟨p, hp, rfl⟩
  | getattr | fgetattr =>
    obtain ⟨record, p, -, hp, rfl⟩ := job_of_required h
    exact .ofOnce (by simp [Request.operation, Request.special]) (.getattr _ _ _) ⟨p, hp, rfl⟩
  | readdir =>
    obtain ⟨sink, p, -, hp, rfl⟩ := job_of_required h
    exact .ofOnce (by simp [Request.operation, Request.special]) (.readdir _ _ _ _) ⟨p, hp, rfl⟩
  | openFile =>
    obtain ⟨info, p, hinfo, hp, rfl⟩ := job_of_required h
    exact .ofOnce (by simp [Request.operation, Request.special]) (.openFile _ _)
      ⟨p, info, hp, hinfo, rfl⟩
  | opendir =>
    obtain ⟨info, p, rfl, hp, rfl⟩ := job_of_required h
    exact .opendir info hp
  | create =>
    obtain ⟨info, p, rfl, hp, rfl⟩ := job_of_required h
    exact .create _ info hp
  | fsync =>
    obtain ⟨p, hp, rfl⟩ := job_of_read h
    refine .lenient ⟨p, hp, rfl⟩ rfl ?_ ?_ ?_ fun _ => .fsync
    all_goals simp [Request.operation, Request.optional, Request.filling, Request.counting]
  | fsyncdir =>
    obtain ⟨p, hp, rfl⟩ := job_of_read h
    refine .lenient ⟨p, hp, rfl⟩ rfl ?_ ?_ ?_ fun _ => .fsyncdir
    all_goals simp [Request.operation, Request.optional, Request.filling, Request.counting]
  | getxattr =>
    obtain ⟨p, n, hp, hn, rfl⟩ := job_of_reads h
    exact .getxattr _ hp hn
  | statfs =>
    obtain ⟨p, hp, rfl⟩ := job_of_read h
    exact .statfs _ hp
  | utimens =>
    obtain ⟨p, hp, rfl⟩ := job_of_read h
    exact .utimens _ hp
  | read =>
    obtain ⟨p, hp, rfl⟩ := job_of_read h
    exact .read _ _ _ hp
  | write =>
    obtain ⟨p, hp, rfl⟩ := job_of_read h
    exact .write _ _ _ hp
  | listxattr =>
    obtain ⟨p, hp, rfl⟩ := job_of_read h
    exact .listxattr _ hp

/-! ## Calls -/

theorem Called.one {asked : List c.Prompt} {result : c.Result} (own : r.Own c) :
    Called r [⟨c, asked, result⟩] where
  calls := .one own
  own _ := ⟨_, List.mem_cons_self, own⟩

/-- A job that is one call makes it. -/
theorem called_once (srv : Server σ) (once : job.Once c) (own : r.Own c) (state : σ) :
    Ensures (fun log _ => Called r log) (job.run srv.recorded) { state := (state, []) } := by
  cases once with
  | effect e =>
    refine .call fun asked result next => ?_
    cases result with
    | ok done => exact .pure (.one own)
    | error f => exact .ite (fun _ => .pure (.one own)) fun _ => .pure (.one own)
  | readlink | getattr | getpath =>
    refine .call fun asked result next => ?_
    cases result with
    | ok value => exact .pure (.one own)
    | error f => exact .pure (.one own)
  | openFile => exact .call fun asked result next => .pure (.one own)
  | readdir => exact .callWith fun asked result next => .report (.pure (.one own))

/-- So does one whose call need not be implemented. -/
theorem called_lenient (srv : Server σ) {e : Effect} (own : r.Own (.effect e)) (state : σ) :
    Ensures (fun log _ => Called r log) (Job.run srv.recorded (.effect e true))
      { state := (state, []) } := by
  refine .call fun asked result next => ?_
  cases result with
  | ok done => exact .pure (.one own)
  | error f => exact .ite (fun _ => .pure (.one own)) fun _ => .pure (.one own)

/-- After `create` there may be two calls more. -/
theorem called_create (srv : Server σ) {path : NativeText} (mode : UInt32) (info : FileInfo)
    {p : String} (read : path.read = .ok p) (state : σ) :
    Ensures (fun log _ => Called (.create path mode (some info)) log)
      (Job.run srv.recorded (.create p mode info)) { state := (state, []) } := by
  have own : (Request.create path mode (some info)).Own (.create p info.flags mode) :=
    ⟨p, info, read, rfl, rfl⟩
  refine .call fun asked result next => ?_
  cases result with
  | ok fh => exact .pure (.one own)
  | error f =>
    refine .ite (fun _ => .call fun asked' result' next' => ?_) fun _ => .pure (.one own)
    cases result' with
    | ok done =>
      refine .call fun _ _ _ => .pure ⟨.opened read, fun _ => ?_⟩
      exact ⟨_, List.mem_cons_self, own⟩
    | error f' => exact .pure ⟨.made read, fun _ => ⟨_, List.mem_cons_self, own⟩⟩

/-- The times are set unless looking them up ends it all. -/
theorem called_utimens (srv : Server σ) {path : NativeText} (times : Option (RawTime × RawTime))
    {p : String} (read : path.read = .ok p) (state : σ) :
    Ensures (fun log _ => Called (.utimens path times) log)
      (Job.run srv.recorded
        (.utimens p (times.map fun both => (both.1.toUpdate, both.2.toUpdate))))
      { state := (state, []) } := by
  have own (times : Option (RawTime × RawTime)) (a m : Timespec) :
      (Request.utimens path times).Own (.effect (.utimens p a m)) := ⟨p, a, m, read, rfl⟩
  cases times with
  | none => exact .time fun now looks => .call fun asked result next => .pure (.one (own _ _ _))
  | some both =>
    obtain ⟨atime, mtime⟩ := both
    show Ensures _ (Job.resolveTimes srv.recorded p atime.toUpdate mtime.toUpdate >>= _) _
    unfold Job.resolveTimes
    rw [bind_assoc]
    refine .time fun now looks => ?_
    dsimp only
    by_cases hkeep : atime.toUpdate = .omit ∨ mtime.toUpdate = .omit
    · rw [if_pos hkeep, bind_assoc]
      refine .call fun asked result next => ?_
      have hset {result : (Call.getattr p none).Result} {a m : Timespec} {asked'}
          {result' : (Call.effect (.utimens p a m)).Result} :
          Called (.utimens path (some (atime, mtime)))
            [⟨.getattr p none, asked, result⟩, ⟨.effect (.utimens p a m), asked', result'⟩] :=
        ⟨.set read hkeep, fun _ => ⟨_, List.mem_cons_of_mem _ List.mem_cons_self, own _ a m⟩⟩
      -- Only a failure that is not answered ends it.
      have hended {f : Failure} (strict : ∀ e, f ≠ .returned e) :
          Called (.utimens path (some (atime, mtime))) [⟨.getattr p none, asked, .error f⟩] := by
        refine ⟨.looked read hkeep, fun hnone => absurd ?_ (hnone f)⟩
        refine ⟨_, List.mem_cons_self, rfl, fun hforgiven => ?_⟩
        generalize hv : (⟨.getattr p none, asked, .error f⟩ : Conversation) = v at hforgiven
        cases hforgiven with
        | unimplemented own need_not => simp [Request.operation, Request.optional] at need_not
        | stored =>
          cases hv
          exact strict _ rfl
      cases result with
      | ok stat =>
        rw [pure_bind]
        exact .call fun _ _ _ => .pure hset
      | error f =>
        cases f with
        | returned e =>
          rw [pure_bind]
          exact .call fun _ _ _ => .pure hset
        | raised e => exact .pure (hended (by simp))
        | panicked text => exact .pure (hended (by simp))
    · rw [if_neg hkeep, pure_bind]
      exact .call fun asked result next => .pure (.one (own _ _ _))

/-- Every job makes the calls of the request that it was decoded from. -/
theorem called_decoded (srv : Server σ) (h : Decoded r job) (state : σ) :
    Ensures (fun log _ => Called r log) (job.run srv.recorded) { state := (state, []) } := by
  cases h with
  -- Every branch of a job makes its `own` call first, and ends with it unless it falls back.
  | once plain once own => exact called_once srv once own state
  | lenient own => exact called_lenient srv own state
  | create mode info read => exact called_create srv mode info read state
  | utimens times read => exact called_utimens srv times read state
  | statfs record read =>
    have own : (Request.statfs _ record).Own (.statfs _) := ⟨_, read, rfl⟩
    refine .call fun asked result next => ?_
    cases result with
    | ok s => exact .pure (.one own)
    | error f => exact .ite (fun _ => .pure (.one own)) fun _ => .pure (.one own)
  | opendir info read =>
    have own : (Request.opendir _ (some info)).Own (.opendir _) := ⟨_, read, rfl⟩
    refine .call fun asked result next => ?_
    cases result with
    | ok fh => exact .pure (.one own)
    | error f => exact .ite (fun _ => .pure (.one own)) fun _ => .pure (.one own)
  | read buffer offset info read =>
    have own : (Request.read _ buffer offset info).Own (.read _ _ offset _) := ⟨_, read, rfl⟩
    refine .callWith fun asked result next => ?_
    cases result with
    | ok n => exact .pure (.one own)
    | error f => exact .pure (.one own)
  | write data offset info read =>
    have own : (Request.write _ data offset info).Own (.write _ _ offset _) := ⟨_, read, rfl⟩
    refine .call fun asked result next => ?_
    cases result with
    | ok n => exact .pure (.one own)
    | error f => exact .pure (.one own)
  | getxattr buffer read read_name =>
    have own : (Request.getxattr _ _ buffer).Own (.getxattr _ _) := ⟨_, _, read, read_name, rfl⟩
    refine .call fun asked result next => ?_
    cases result with
    | ok data =>
      exact .ite (fun _ => .pure (.one own)) fun _ =>
        .ite (fun _ => .pure (.one own)) fun _ => .pure (.one own)
    | error f => exact .pure (.one own)
  | listxattr buffer read =>
    have own : (Request.listxattr _ buffer).Own (.listxattr _) := ⟨_, read, rfl⟩
    refine .callWith fun asked result next => ?_
    cases result with
    | ok done => exact .ite (fun _ => .pure (.one own)) fun _ => .pure (.one own)
    | error f => exact .pure (.one own)

end HostedFs
