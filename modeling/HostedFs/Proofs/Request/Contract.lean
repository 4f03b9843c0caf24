import HostedFs.FileSystem.Trace
import HostedFs.Proofs.Request.Recording

/-! # The status of a request

    What a caller can rely on about the status, said by the conversations in which
    the request was served. It is negative exactly when the operation failed, and
    then it tells the first failure that was not forgiven.

    * `Failure.expected`: the status that stands for a failure.
    * `Request.Own`, `Request.Calls`: the call of the operation itself, and all calls.
    * `Request.Forgives`: the few failures that are passed over.
    * `Request.Fails`, `Request.LacksRoom`: the ways in which an operation fails.
    * `Request.Counts`: what the status is otherwise.
    * `Called`, `Answers`, `Contract`: what is called, what the status answers for, and
      both.
-/

namespace HostedFs

/-! ## Statuses -/

/-- The status that stands for an error number, whatever its sign is. -/
def Errno.expected (e : Errno) : Int :=
  if e.code = 0 then -5 else -(e.code.toInt.natAbs : Int)

/-- The status that stands for a failure. An error number has the same, whether it
    is answered or broken off with. -/
def Failure.expected : Failure → Int
  | .returned e | .raised e => e.expected
  | .panicked _ => -5

theorem Errno.expected_neg (e : Errno) : e.expected < 0 := by
  unfold expected
  split
  · decide
  next hne =>
    have hcode : e.code.toInt ≠ 0 := by
      intro h
      exact hne (Int32.toInt_inj.mp h)
    omega

theorem Failure.expected_neg (f : Failure) : f.expected < 0 := by
  cases f with
  | returned e => exact e.expected_neg
  | raised e => exact e.expected_neg
  | panicked text => exact Int.neg_of_sign_eq_neg_one rfl

/-- A positive number has a negative one. The least negative one is left as it is. -/
theorem toInt_neg_of_pos {x : Int32} (h : 0 < x) : (-x).toInt = -x.toInt := by
  have hpos : 0 < x.toInt := Int32.lt_iff_toInt_lt.mp h
  have hlt := x.toInt_lt
  rw [Int32.toInt_neg, Int.bmod_def]
  omega

theorem Errno.toInt_status (e : Errno) : e.status.toInt = e.expected := by
  unfold status expected
  split
  · rfl
  · split
    next hpos =>
      have hcode : 0 < e.code.toInt := Int32.lt_iff_toInt_lt.mp hpos
      rw [toInt_neg_of_pos hpos]
      omega
    next hnot =>
      have hcode : ¬ 0 < e.code.toInt := fun h => hnot (Int32.lt_iff_toInt_lt.mpr h)
      omega

theorem Failure.toInt_status (f : Failure) : f.status.toInt = f.expected := by
  cases f with
  | returned e => exact e.toInt_status
  | raised e => exact e.toInt_status
  | panicked text => rfl

/-- The status of a failure is negative. -/
theorem Failure.status_neg (f : Failure) : f.status < 0 := by
  rw [Int32.lt_iff_toInt_lt, f.toInt_status]
  exact f.expected_neg

/-- The greatest status. -/
def greatestStatus : Int :=
  2147483647

/-- A count is cut off at the greatest status. -/
theorem toInt_countStatus (n : Nat) : (countStatus n).toInt = min (n : Int) greatestStatus := by
  have hstatus : (countStatus n).toInt = (Word.kind Int32).clamp n :=
    Word.toInt_ofInt (α := Int32) _ (IntKind.contains_clamp _ _)
  rw [hstatus]
  show (if -2147483648 ≤ (n : Int) ∧ (n : Int) ≤ 2147483647 then (n : Int)
    else if (n : Int) < 0 then -2147483648 else 2147483647) = min (n : Int) 2147483647
  split
  · omega
  · split <;> omega

/-! ## Calls -/

namespace Request

open FileInfo (handleOf realHandle)

/-- A call is that of the operation's own method, with the arguments of the request as
    they are decoded. Which times `utimens` sets is not told here. -/
def Own : Request → Call → Prop
  | statfs path _, c => ∃ p, path.read = .ok p ∧ c = .statfs p
  | mknod path mode dev, c => ∃ p, path.read = .ok p ∧ c = .effect (.mknod p mode dev)
  | mkdir path mode, c => ∃ p, path.read = .ok p ∧ c = .effect (.mkdir p mode)
  | unlink path, c => ∃ p, path.read = .ok p ∧ c = .effect (.unlink p)
  | rmdir path, c => ∃ p, path.read = .ok p ∧ c = .effect (.rmdir p)
  | symlink target new, c =>
    ∃ p q, target.read = .ok p ∧ new.read = .ok q ∧ c = .effect (.symlink p q)
  | link path new, c => ∃ p q, path.read = .ok p ∧ new.read = .ok q ∧ c = .effect (.link p q)
  | rename path new, c =>
    ∃ p q, path.read = .ok p ∧ new.read = .ok q ∧ c = .effect (.rename p q 0)
  | readlink path _, c => ∃ p, path.read = .ok p ∧ c = .readlink p
  | getattr path _, c => ∃ p, path.read = .ok p ∧ c = .getattr p none
  | fgetattr path _ info, c =>
    ∃ p, path.read = .ok p ∧ c = .getattr p (realHandle (handleOf info))
  | chmod path mode, c => ∃ p, path.read = .ok p ∧ c = .effect (.chmod p mode)
  | chown path uid gid, c => ∃ p, path.read = .ok p ∧ c = .effect (.chown p uid gid)
  | truncate path size, c => ∃ p, path.read = .ok p ∧ c = .effect (.truncate p size none)
  | ftruncate path size info, c =>
    ∃ p, path.read = .ok p ∧ c = .effect (.truncate p size (realHandle (handleOf info)))
  | access path mask, c => ∃ p, path.read = .ok p ∧ c = .effect (.access p mask.toUInt32)
  | utimens path _, c =>
    ∃ p atime mtime, path.read = .ok p ∧ c = .effect (.utimens p atime mtime)
  | setchgtime path time, c =>
    ∃ p t, path.read = .ok p ∧ time = some t ∧ c = .effect (.setchgtime p t.toTimespec)
  | setcrtime path time, c =>
    ∃ p t, path.read = .ok p ∧ time = some t ∧ c = .effect (.setcrtime p t.toTimespec)
  | chflags path flags, c => ∃ p, path.read = .ok p ∧ c = .effect (.chflags p flags)
  | getpath path _ info, c => ∃ p, path.read = .ok p ∧ c = .getpath p (realHandle (handleOf info))
  | openFile path info, c =>
    ∃ p i, path.read = .ok p ∧ info = some i ∧ c = .openFile p i.flags
  | create path mode info, c =>
    ∃ p i, path.read = .ok p ∧ info = some i ∧ c = .create p i.flags mode
  | read path buffer offset info, c =>
    ∃ p, path.read = .ok p ∧ c = .read p buffer.bytes.length offset (handleOf info)
  | write path data offset info, c =>
    ∃ p, path.read = .ok p ∧ c = .write p data.bytes offset (handleOf info)
  | flush path info, c => ∃ p, path.read = .ok p ∧ c = .effect (.flush p (handleOf info))
  | release path info, c => ∃ p, path.read = .ok p ∧ c = .effect (.release p (handleOf info))
  | fsync path dataOnly info, c =>
    ∃ p, path.read = .ok p ∧ c = .effect (.fsync p (dataOnly != 0) (handleOf info))
  | opendir path _, c => ∃ p, path.read = .ok p ∧ c = .opendir p
  | readdir path _ offset info, c =>
    ∃ p, path.read = .ok p ∧ c = .readdir p offset (handleOf info)
  | releasedir path info, c => ∃ p, path.read = .ok p ∧ c = .effect (.releasedir p (handleOf info))
  | fsyncdir path dataOnly info, c =>
    ∃ p, path.read = .ok p ∧ c = .effect (.fsyncdir p (dataOnly != 0) (handleOf info))
  | setxattr path name value flags, c =>
    ∃ p n, path.read = .ok p ∧ name.read = .ok n ∧ c = .effect (.setxattr p n value.bytes flags)
  | getxattr path name _, c => ∃ p n, path.read = .ok p ∧ name.read = .ok n ∧ c = .getxattr p n
  | listxattr path _, c => ∃ p, path.read = .ok p ∧ c = .listxattr p
  | removexattr path name, c =>
    ∃ p n, path.read = .ok p ∧ name.read = .ok n ∧ c = .effect (.removexattr p n)

/-- The calls of a request, in order. All but two operations are one call. -/
inductive Calls : Request → List Call → Prop
  | one {r : Request} {c : Call} (own : r.Own c) : Calls r [c]
  /-- `create` may be followed by `mknod`, -/
  | made {path : NativeText} {mode : UInt32} {info : FileInfo} {p : String}
      (read : path.read = .ok p) :
      Calls (.create path mode (some info))
        [.create p info.flags mode, .effect (.mknod p (Mode.regular ||| mode) 0)]
  /-- and that by `open`. -/
  | opened {path : NativeText} {mode : UInt32} {info : FileInfo} {p : String}
      (read : path.read = .ok p) :
      Calls (.create path mode (some info))
        [.create p info.flags mode, .effect (.mknod p (Mode.regular ||| mode) 0),
          .openFile p info.flags]
  /-- `utimens` comes after `getattr`, if it comes at all, when a time is to be kept. -/
  | looked {path : NativeText} {atime mtime : RawTime} {p : String} (read : path.read = .ok p)
      (kept : atime.toUpdate = .omit ∨ mtime.toUpdate = .omit) :
      Calls (.utimens path (some (atime, mtime))) [.getattr p none]
  | set {path : NativeText} {atime mtime : RawTime} {p : String} {a m : Timespec}
      (read : path.read = .ok p) (kept : atime.toUpdate = .omit ∨ mtime.toUpdate = .omit) :
      Calls (.utimens path (some (atime, mtime))) [.getattr p none, .effect (.utimens p a m)]

end Request

/-! ## Failures -/

namespace Request

/-- The operations that need not be implemented: there is something else to do. -/
def optional : List String :=
  ["statfs", "fsync", "fsyncdir", "opendir", "create"]

/-- The operations that fill what can be missing or too small. -/
def filling : List String :=
  ["statfs", "getxattr", "listxattr"]

/-- The operations that count. -/
def counting : List String :=
  ["read", "write", "getxattr", "listxattr"]

/-- A failure of a call that is passed over: it is answered that an operation is
    not implemented which need not be; or the times of a file cannot be looked up
    that are to be kept. -/
inductive Forgives : Request → Conversation → Prop
  | unimplemented {r : Request} {c : Call} {asked : List c.Prompt}
      (own : c.line.1 = r.operation) (need_not : r.operation ∈ optional) :
      Forgives r ⟨c, asked, .error (.returned .noSys)⟩
  | stored {path : NativeText} {times : Option (RawTime × RawTime)} {p : String}
      {handle : Option UInt64} {asked : List (Call.getattr p handle).Prompt} {e : Errno} :
      Forgives (.utimens path times) ⟨.getattr p handle, asked, .error (.returned e)⟩

/-- Some call fails, and that is not passed over. -/
def Fails (r : Request) (log : List Conversation) (f : Failure) : Prop :=
  ∃ v ∈ log, v.result = .error f ∧ ¬ r.Forgives v

/-- The bytes that names take up in a list, each with a NUL after it. -/
def packedSize : List String → Nat
  | [] => 0
  | name :: names => (Text.bytes name).length + 1 + packedSize names

/-- The native side leaves no room for what was answered. -/
inductive LacksRoom : Request → List Conversation → Errno → Prop
  /-- There is no record to be filled. -/
  | statfs {path : NativeText} {log : List Conversation}
      (answered : ∀ f, ¬ Fails (.statfs path none) log f) :
      LacksRoom (.statfs path none) log .invalid
  /-- The value is longer than the buffer, and more than its length was wanted. -/
  | getxattr {path name : NativeText} {buffer : Buffer} {p n : String}
      {asked : List (Call.getxattr p n).Prompt} {data : List UInt8} (wanted : buffer.size ≠ 0)
      (short : buffer.bytes.length < data.length) :
      LacksRoom (.getxattr path name buffer) [⟨.getxattr p n, asked, .ok data⟩] .range
  /-- So is the list of names. -/
  | listxattr {path : NativeText} {buffer : Buffer} {p : String} {names : List String}
      (wanted : buffer.size ≠ 0) (short : buffer.bytes.length < packedSize names) :
      LacksRoom (.listxattr path buffer) [⟨.listxattr p, names, .ok ()⟩] .range

/-- Only these operations fill what can be too small. -/
theorem LacksRoom.operation_mem {r : Request} {log : List Conversation} {e : Errno}
    (h : LacksRoom r log e) : r.operation ∈ filling := by
  cases h with
  | statfs answered => simp [operation, filling]
  | getxattr wanted short => simp [operation, filling]
  | listxattr wanted short => simp [operation, filling]

/-- There is one number for each request. -/
theorem LacksRoom.unique {r : Request} {log log' : List Conversation} {e e' : Errno}
    (h : LacksRoom r log e) (h' : LacksRoom r log' e') : e = e' := by
  cases h with
  | statfs answered =>
    cases h'
    rfl
  | getxattr wanted short =>
    cases h'
    rfl
  | listxattr wanted short =>
    cases h'
    rfl

/-! ## Successes -/

/-- What is counted when an operation succeeds. -/
inductive Counts : Request → List Conversation → Nat → Prop
  /-- No more than the buffer holds, whatever was answered. -/
  | read {path : NativeText} {buffer : Buffer} {offset : Int64} {info : Option FileInfo}
      {p : String} {size : Nat} {handle : UInt64} {asked : List Placement} {n : Nat} :
      Counts (.read path buffer offset info) [⟨.read p size offset handle, asked, .ok n⟩]
        (min n buffer.size)
  | write {path : NativeText} {data : Buffer} {offset : Int64} {info : Option FileInfo}
      {p : String} {handle : UInt64}
      {asked : List (Call.write p data.bytes offset handle).Prompt} {n : Nat} :
      Counts (.write path data offset info) [⟨.write p data.bytes offset handle, asked, .ok n⟩]
        (min n data.size)
  /-- The length of the value, or of the packed names. -/
  | getxattr {path name : NativeText} {buffer : Buffer} {p n : String}
      {asked : List (Call.getxattr p n).Prompt} {data : List UInt8} :
      Counts (.getxattr path name buffer) [⟨.getxattr p n, asked, .ok data⟩] data.length
  | listxattr {path : NativeText} {buffer : Buffer} {p : String} {names : List String} :
      Counts (.listxattr path buffer) [⟨.listxattr p, names, .ok ()⟩] (packedSize names)
  /-- Nothing. -/
  | none {r : Request} {log : List Conversation}
      (uncounted : r.operation ∉ counting) : Counts r log 0

/-- What is done when a failure is passed over. -/
inductive FallsBack : Request → List Conversation → Memory → Prop
  /-- All that is told of the filesystem is zero. -/
  | statfs {path : NativeText} {record : Option StatvfsRecord} {log : List Conversation} :
      FallsBack (.statfs path record) log (.statvfs (record.map fun r => r.store {}))
  /-- Nothing has to be brought to the disk. -/
  | fsync {path : NativeText} {dataOnly : Int32} {info : Option FileInfo}
      {log : List Conversation} : FallsBack (.fsync path dataOnly info) log .nothing
  | fsyncdir {path : NativeText} {dataOnly : Int32} {info : Option FileInfo}
      {log : List Conversation} : FallsBack (.fsyncdir path dataOnly info) log .nothing
  /-- The directory has no handle. -/
  | opendir {path : NativeText} {info : FileInfo} {log : List Conversation} :
      FallsBack (.opendir path (some info)) log
        (.file (some { info with fh := FileInfo.noHandle }))
  /-- The file is made and then opened, -/
  | create {path : NativeText} {mode : UInt32} {info : FileInfo} {p : String}
      {log : List Conversation} {memory : Memory}
      (calls : log.map Conversation.call = [.create p info.flags mode,
        .effect (.mknod p (Mode.regular ||| mode) 0), .openFile p info.flags]) :
      FallsBack (.create path mode (some info)) log memory
  /-- unless it cannot be made. -/
  | unmade {path : NativeText} {mode : UInt32} {info : FileInfo} {p : String}
      {log : List Conversation} {memory : Memory}
      (calls : log.map Conversation.call = [.create p info.flags mode,
        .effect (.mknod p (Mode.regular ||| mode) 0)])
      (failed : ∃ f, Fails (.create path mode (some info)) log f) :
      FallsBack (.create path mode (some info)) log memory
  /-- The times are set all the same. -/
  | utimens {path : NativeText} {times : Option (RawTime × RawTime)} {p : String}
      {atime mtime : Timespec} {log : List Conversation} {memory : Memory}
      (calls : log.map Conversation.call = [.getattr p none, .effect (.utimens p atime mtime)]) :
      FallsBack (.utimens path times) log memory

end Request

/-! ## The contract -/

/-- The calls that a request with good arguments makes. -/
structure Called (r : Request) (log : List Conversation) : Prop where
  /-- They are the operation's own, on the decoded arguments, and few others. -/
  calls : r.Calls (log.map Conversation.call)
  /-- The operation's own call is among them, unless one before it has failed. -/
  own : (∀ f, ¬ r.Fails log f) → ∃ v ∈ log, r.Own v.call

/-- What the status and the memory tell of the calls that were made. -/
structure Answers (r : Request) (log : List Conversation) (status : Int) (memory : Memory) :
    Prop where
  /-- The status is negative exactly when the operation has failed. -/
  neg_iff : status < 0 ↔ (∃ f, r.Fails log f) ∨ ∃ e, r.LacksRoom log e
  /-- It tells the failure of a call, -/
  fails : ∀ f, r.Fails log f → status = f.expected
  /-- which is the last one that is made, -/
  stops : ∀ before v after f, log = before ++ v :: after → v.result = .error f →
    ¬ r.Forgives v → after = []
  /-- or that there was no room. -/
  cramped : ∀ e, r.LacksRoom log e → status = e.expected
  /-- Otherwise it counts. -/
  counts : ¬ ((∃ f, r.Fails log f) ∨ ∃ e, r.LacksRoom log e) →
    ∃ n, r.Counts log n ∧ status = min (n : Int) greatestStatus
  /-- When a failure is passed over, there is something else to do. -/
  fallsBack : ∀ v ∈ log, r.Forgives v → r.FallsBack log memory

/-- What a caller can rely on when a request with good arguments is served: its
    operation is called for, and the status answers for what came of that. -/
structure Contract (r : Request) (log : List Conversation) (status : Int) (memory : Memory) :
    Prop extends Called r log, Answers r log status memory

namespace Answers

variable {r : Request} {log : List Conversation} {memory : Memory}

/-- The answer where the last call fails, and all failures before are passed over. -/
theorem ofFailure (before : List Conversation) {v : Conversation} {f : Failure}
    (hlog : log = before ++ [v]) (failed : v.result = .error f) (strict : ¬ r.Forgives v)
    (others : ∀ w ∈ before, ∀ g, w.result = .error g → r.Forgives w)
    (fallsBack : ∀ w ∈ before, r.Forgives w → r.FallsBack log memory)
    (room : ∀ e, ¬ r.LacksRoom log e) : Answers r log f.expected memory := by
  subst hlog
  have hfails : r.Fails (before ++ [v]) f := ⟨v, by simp, failed, strict⟩
  -- The failures before are forgiven, so the last one is the only strict one.
  have hlast : ∀ w ∈ before ++ [v], ∀ g, w.result = .error g → ¬ r.Forgives w → w = v := by
    intro w hw g hg hstrict
    rcases List.mem_append.mp hw with hw | hw
    · exact absurd (others w hw g hg) hstrict
    · exact List.mem_singleton.mp hw
  refine ⟨⟨fun _ => .inl ⟨f, hfails⟩, fun _ => f.expected_neg⟩, ?_, ?_, ?_, ?_, ?_⟩
  · rintro g ⟨w, hw, hg, hstrict⟩
    obtain rfl := hlast w hw g hg hstrict
    rw [failed] at hg
    cases hg
    rfl
  · intro front w after g hsplit hg hstrict
    rcases List.eq_nil_or_concat after with rfl | ⟨after, last, rfl⟩
    · rfl
    · -- Otherwise it would be one of those before.
      rw [List.concat_eq_append, ← List.cons_append, ← List.append_assoc] at hsplit
      obtain ⟨hbefore, -⟩ := List.append_inj' hsplit rfl
      have hmem : w ∈ before := by simp [hbefore]
      exact absurd (others w hmem g hg) hstrict
  · intro e he
    exact absurd he (room e)
  · intro hnone
    exact absurd (.inl ⟨f, hfails⟩) hnone
  · intro w hw hforgiven
    rcases List.mem_append.mp hw with hw | hw
    · exact fallsBack w hw hforgiven
    · obtain rfl := List.mem_singleton.mp hw
      exact absurd hforgiven strict

/-- No call has failed but such as are passed over. -/
theorem not_fails (others : ∀ w ∈ log, ∀ g, w.result = .error g → r.Forgives w) (f : Failure) :
    ¬ r.Fails log f := by
  rintro ⟨w, hw, hf, hstrict⟩
  exact hstrict (others w hw f hf)

/-- The answer where no call fails but such as are passed over, and there is room. -/
theorem ofSuccess {n : Nat} {status : Int}
    (others : ∀ w ∈ log, ∀ g, w.result = .error g → r.Forgives w)
    (fallsBack : ∀ w ∈ log, r.Forgives w → r.FallsBack log memory)
    (room : ∀ e, ¬ r.LacksRoom log e) (counts : r.Counts log n)
    (hstatus : status = min (n : Int) greatestStatus) : Answers r log status memory := by
  have hnone : ¬ ((∃ f, r.Fails log f) ∨ ∃ e, r.LacksRoom log e) := by
    rintro (⟨f, hf⟩ | ⟨e, he⟩)
    · exact not_fails others f hf
    · exact room e he
  have hstatus_nonneg : ¬ status < 0 := by
    rw [hstatus, greatestStatus]
    omega
  refine ⟨⟨fun h => absurd h hstatus_nonneg, fun h => absurd h hnone⟩, ?_, ?_, ?_, ?_, fallsBack⟩
  · intro f hf
    exact absurd hf (not_fails others f)
  · intro before v after f hsplit hf hstrict
    exact absurd ⟨v, by simp [hsplit], hf, hstrict⟩ (not_fails others f)
  · intro e he
    exact absurd he (room e)
  · intro _
    exact ⟨n, counts, hstatus⟩

/-- The answer where there is no room for the answer. -/
theorem ofCramped {e : Errno}
    (others : ∀ w ∈ log, ∀ g, w.result = .error g → r.Forgives w)
    (fallsBack : ∀ w ∈ log, r.Forgives w → r.FallsBack log memory)
    (cramped : r.LacksRoom log e) : Answers r log e.expected memory := by
  refine ⟨⟨fun _ => .inr ⟨e, cramped⟩, fun _ => e.expected_neg⟩, ?_, ?_, ?_, ?_, fallsBack⟩
  · intro f hf
    exact absurd hf (not_fails others f)
  · intro before v after f hsplit hf hstrict
    exact absurd ⟨v, by simp [hsplit], hf, hstrict⟩ (not_fails others f)
  · intro e' he'
    rw [cramped.unique he']
  · intro hnone
    exact absurd (.inr ⟨e, cramped⟩) hnone

end Answers

end HostedFs
