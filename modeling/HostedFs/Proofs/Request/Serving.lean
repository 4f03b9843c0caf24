import HostedFs.Proofs.Request.Calling

/-! # Every request is served by contract

    * `honours_once`: the many jobs that are one call.
    * `honours_lenient` and the like: operations that need not be implemented, or
      that take more than one call.
    * `honours_read` and the like: operations that count.
    * `honours_decoded`: the job of every request.
    * `serve_contract`: the calls and the status of every request.
-/

namespace HostedFs

variable {σ : Type}

/-! ## One call -/

/-- A job that is one call passes the answer on. -/
theorem honours_once (srv : Server σ) {r : Request} (hr : r.Plain) {job : Job} {c : Call}
    (h : job.Once c) (state : σ) : Honours r (job.run srv.recorded) { state := (state, []) } := by
  cases h with
  -- One case for each job that is a single call; its answer is the last one of the log.
  | effect e =>
    refine .call fun asked result next => ?_
    cases result with
    | ok done => exact .pure (.ofOnce hr (.effect e) asked (.ok done) _)
    | error f =>
      refine .ite (fun hlenient => ?_) fun _ => .pure (.ofOnce hr (.effect e) asked (.error f) _)
      simp at hlenient
  | readlink path buffer =>
    refine .call fun asked result next => ?_
    cases result with
    | ok target => exact .pure (.ofOnce hr (.readlink path) asked (.ok target) _)
    | error f => exact .pure (.ofOnce hr (.readlink path) asked (.error f) _)
  | getattr path handle record =>
    refine .call fun asked result next => ?_
    cases result with
    | ok s => exact .pure (.ofOnce hr (.getattr path handle) asked (.ok s) _)
    | error f => exact .pure (.ofOnce hr (.getattr path handle) asked (.error f) _)
  | getpath path handle buffer =>
    refine .call fun asked result next => ?_
    cases result with
    | ok stored => exact .pure (.ofOnce hr (.getpath path handle) asked (.ok stored) _)
    | error f => exact .pure (.ofOnce hr (.getpath path handle) asked (.error f) _)
  | openFile path info =>
    refine .call fun asked result next => ?_
    cases result with
    | ok fh => exact .pure (.ofOnce hr (.openFile path info.flags) asked (.ok fh) _)
    | error f => exact .pure (.ofOnce hr (.openFile path info.flags) asked (.error f) _)
  | readdir path sink offset handle =>
    refine .callWith fun asked result next => .report (.pure ?_)
    exact .ofOnce hr (.readdir path offset handle) asked result _

/-! ## Operations that need not be implemented -/

/-- To have nothing brought to the disk is no failure. -/
theorem honours_lenient (srv : Server σ) {r : Request} {e : Effect} (own : e.line.1 = r.operation)
    (need_not : r.operation ∈ Request.optional) (roomy : r.operation ∉ Request.filling)
    (uncounted : r.operation ∉ Request.counting) (fallsBack : ∀ log, r.FallsBack log .nothing)
    (state : σ) : Honours r (Job.run srv.recorded (.effect e true)) { state := (state, []) } := by
  have hroom := Request.not_lacksRoom roomy
  refine .call fun asked result next => ?_
  cases result with
  | ok done => exact .pure (.ofOk (hroom _) (.none uncounted) rfl)
  | error f =>
    have hforgives := forgives_iff (.effect e) asked f own need_not
    refine .ite (fun hf => .pure ?_) fun hf => .pure ?_
    · exact .ofForgiven (hforgives.mpr (by simpa using hf)) (fallsBack _) (hroom _)
        (.none uncounted)
    · exact .ofError (mt hforgives.mp (by simpa using hf)) (hroom _)

/-- A directory without a handle can be used, too. -/
theorem honours_opendir (srv : Server σ) (path : NativeText) (p : String) (info : FileInfo)
    (state : σ) :
    Honours (.opendir path (some info)) (Job.run srv.recorded (.opendir p info))
      { state := (state, []) } := by
  have hroom := Request.not_lacksRoom (r := .opendir path (some info))
    (by simp [Request.operation, Request.filling])
  have huncounted : (Request.opendir path (some info)).operation ∉ Request.counting := by
    simp [Request.operation, Request.counting]
  refine .call fun asked result next => ?_
  cases result with
  | ok fh => exact .pure (.ofOk (hroom _) (.none huncounted) rfl)
  | error f =>
    have hforgives := forgives_iff (r := .opendir path (some info)) (.opendir p) asked f rfl
      (by simp [Request.operation, Request.optional])
    refine .ite (fun hf => .pure ?_) fun hf => .pure ?_
    · exact .ofForgiven (hforgives.mpr hf) .opendir (hroom _) (.none huncounted)
    · exact .ofError (mt hforgives.mp hf) (hroom _)

/-- A filesystem of which nothing is told is one of zeros. -/
theorem honours_statfs (srv : Server σ) (path : NativeText) (record : StatvfsRecord) (p : String)
    (state : σ) :
    Honours (.statfs path (some record)) (Job.run srv.recorded (.statfs p (some record)))
      { state := (state, []) } := by
  have hroom (log : List Conversation) (e : Errno) :
      ¬ (Request.statfs path (some record)).LacksRoom log e := by
    intro h
    cases h
  have huncounted : (Request.statfs path (some record)).operation ∉ Request.counting := by
    simp [Request.operation, Request.counting]
  refine .call fun asked result next => ?_
  cases result with
  | ok s => exact .pure (.ofOk (hroom _) (.none huncounted) rfl)
  | error f =>
    have hforgives := forgives_iff (r := .statfs path (some record)) (.statfs p) asked f rfl
      (by simp [Request.operation, Request.optional])
    refine .ite (fun hf => .pure ?_) fun hf => .pure ?_
    · exact .ofForgiven (hforgives.mpr hf) .statfs (hroom _) (.none huncounted)
    · exact .ofError (mt hforgives.mp hf) (hroom _)

/-- Without a record to be filled the call is made all the same, and has to succeed
    or to be passed over before that is looked at. -/
theorem honours_statfs_null (srv : Server σ) (path : NativeText) (p : String) (state : σ) :
    Honours (.statfs path none) (Job.run srv.recorded (.statfs p none))
      { state := (state, []) } := by
  refine .call fun asked result next => ?_
  -- Without a record the status is that of an invalid argument, once the call has come out.
  have hcramped (hnone : ∀ v ∈ [(⟨.statfs p, asked, result⟩ : Conversation)], ∀ g,
      v.result = .error g → (Request.statfs path none).Forgives v) :
      Answers (.statfs path none) [⟨.statfs p, asked, result⟩] (Errno.expected .invalid)
        (.statvfs none) :=
    .ofCramped hnone (fun _ _ _ => .statfs) (.statfs (Answers.not_fails hnone))
  cases result with
  | ok s =>
    refine .pure (hcramped ?_)
    intro v hv g hg
    obtain rfl := List.mem_singleton.mp hv
    cases hg
  | error f =>
    have hforgives := forgives_iff (r := .statfs path none) (.statfs p) asked f rfl
      (by simp [Request.operation, Request.optional])
    refine .ite (fun hf => .pure (hcramped ?_)) fun hf => .pure (.ofError (mt hforgives.mp hf) ?_)
    · intro v hv g _
      rw [List.mem_singleton.mp hv]
      exact hforgives.mpr hf
    · intro e he
      cases he with
      | statfs answered => exact answered f ⟨_, List.mem_cons_self, rfl, mt hforgives.mp hf⟩

/-! ## Operations in more than one call -/

/-- A call to another operation is never passed over. -/
theorem strict_of_line {r : Request} {c : Call} {asked : List c.Prompt} {f : Failure}
    (other : c.line.1 ≠ r.operation) (timeless : r.operation ≠ "utimens") :
    ¬ r.Forgives ⟨c, asked, .error f⟩ := by
  intro h
  generalize hv : (⟨c, asked, .error f⟩ : Conversation) = v at h
  cases h with
  | unimplemented own need_not =>
    cases hv
    exact other own
  | stored => exact timeless rfl

/-- A file is made and opened in two calls if it cannot be done in one. -/
theorem honours_create (srv : Server σ) (path : NativeText) (mode : UInt32) (info : FileInfo)
    (p : String) (state : σ) :
    Honours (.create path mode (some info)) (Job.run srv.recorded (.create p mode info))
      { state := (state, []) } := by
  -- The request has no buffer, tells no count and sets no times.
  have hroom := Request.not_lacksRoom (r := .create path mode (some info))
    (by simp [Request.operation, Request.filling])
  have huncounted : (Request.create path mode (some info)).operation ∉ Request.counting := by
    simp [Request.operation, Request.counting]
  have htimeless : (Request.create path mode (some info)).operation ≠ "utimens" := by
    simp [Request.operation]
  refine .call fun asked₁ result₁ next₁ => ?_
  cases result₁ with
  | ok fh => exact .pure (.ofOk (hroom _) (.none huncounted) rfl)
  | error f =>
    have hforgives := forgives_iff (r := .create path mode (some info))
      (.create p info.flags mode) asked₁ f rfl (by simp [Request.operation, Request.optional])
    refine .ite (fun hf => .call fun asked₂ result₂ next₂ => ?_) fun hf => .pure ?_
    · -- The first answer is passed over, and a regular file is made.
      have hforgiven := hforgives.mpr hf
      cases result₂ with
      | error g =>
        have hstrict : ¬ (Request.create path mode (some info)).Forgives
            ⟨.effect (.mknod p (Mode.regular ||| mode) 0), asked₂, .error g⟩ :=
          strict_of_line (by simp [Call.line, Effect.line, Request.operation]) htimeless
        refine .pure (.ofFailure [_] rfl rfl hstrict ?_ ?_ (hroom _))
        · intro w hw _ _
          rw [List.mem_singleton.mp hw]
          exact hforgiven
        · intro w _ _
          exact .unmade rfl ⟨g, _, by simp, rfl, hstrict⟩
      | ok done =>
        refine .call fun asked₃ result₃ next₃ => ?_
        -- It was made, and is opened: of the three calls only the last one may still fail.
        have hothers : ∀ w ∈ [(⟨.create p info.flags mode, asked₁, .error f⟩ : Conversation),
            ⟨.effect (.mknod p (Mode.regular ||| mode) 0), asked₂, .ok done⟩],
            ∀ g, w.result = .error g → (Request.create path mode (some info)).Forgives w := by
          intro w hw g hg
          rcases List.mem_cons.mp hw with rfl | hw
          · exact hforgiven
          · rw [List.mem_singleton.mp hw] at hg
            cases hg
        cases result₃ with
        | ok fh =>
          refine .pure (.ofSuccess ?_ (fun w _ _ => .create rfl) (hroom _) (.none huncounted) rfl)
          intro w hw g hg
          rcases List.mem_append.mp hw with hw | hw
          · exact hothers w hw g hg
          · rw [List.mem_singleton.mp hw] at hg
            cases hg
        | error g =>
          have hstrict : ¬ (Request.create path mode (some info)).Forgives
              ⟨.openFile p info.flags, asked₃, .error g⟩ :=
            strict_of_line (by simp [Call.line, Request.operation]) htimeless
          exact .pure (.ofFailure [_, _] rfl rfl hstrict hothers
            (fun w _ _ => .create rfl) (hroom _))
    · exact .ofError (mt hforgives.mp hf) (hroom _)

/-- The times of a file are set, and what was passed over before does not count. -/
theorem honours_utimens_set (srv : Server σ) (path : NativeText)
    (times : Option (RawTime × RawTime)) (p : String) (atime mtime : Timespec)
    {service : Service (σ × List Conversation)}
    (others : ∀ w ∈ service.state.2, ∀ g, w.result = .error g →
      (Request.utimens path times).Forgives w)
    (fallsBack : ∀ w ∈ service.state.2, (Request.utimens path times).Forgives w →
      service.state.2.map Conversation.call = [.getattr p none]) :
    Honours (.utimens path times) (do
      return (Job.done (← srv.recorded.call (.effect (.utimens p atime mtime))), .nothing))
      service := by
  have hroom := Request.not_lacksRoom (r := .utimens path times)
    (by simp [Request.operation, Request.filling])
  refine .call fun asked result next => .pure ?_
  cases result with
  | ok done =>
    refine .ofSuccess ?_ ?_ (hroom _) (.none (by simp [Request.operation, Request.counting])) rfl
    · intro w hw g hg
      rcases List.mem_append.mp hw with hw | hw
      · exact others w hw g hg
      · rw [List.mem_singleton.mp hw] at hg
        cases hg
    · intro w hw hforgiven
      rcases List.mem_append.mp hw with hw | hw
      · exact .utimens (by rw [List.map_append, fallsBack w hw hforgiven]; rfl)
      · rw [List.mem_singleton.mp hw] at hforgiven
        cases hforgiven
  | error g =>
    refine .ofFailure service.state.2 rfl rfl ?_ others ?_ (hroom _)
    · -- Where times are set nothing is optional.
      intro h
      generalize hv : (⟨.effect (.utimens p atime mtime), asked, .error g⟩ : Conversation) = v at h
      cases h with
      | unimplemented own need_not => simp [Request.operation, Request.optional] at need_not
      | stored => cases hv
    · intro w hw hforgiven
      exact .utimens (by rw [List.map_append, fallsBack w hw hforgiven]; rfl)

/-- Times are set whether or not those that are to be kept can be looked up. -/
theorem honours_utimens (srv : Server σ) (path : NativeText) (times : Option (RawTime × RawTime))
    (p : String) (updates : Option (TimeUpdate × TimeUpdate)) (state : σ) :
    Honours (.utimens path times) (Job.run srv.recorded (.utimens p updates))
      { state := (state, []) } := by
  cases updates with
  | none =>
    refine .time fun now looks => ?_
    exact honours_utimens_set srv path times p now now (by simp) (by simp)
  | some updates =>
    show Honours _ (Job.resolveTimes srv.recorded p updates.1 updates.2 >>= _) _
    unfold Job.resolveTimes
    rw [bind_assoc]
    refine .time fun now looks => ?_
    dsimp only
    -- A time that is to be kept is looked up first, and only a returned error is passed over.
    by_cases hkeep : updates.1 = .omit ∨ updates.2 = .omit
    · rw [if_pos hkeep, bind_assoc]
      refine .call fun asked result next => ?_
      have hcalls {result : (Call.getattr p none).Result} :
          [(⟨.getattr p none, asked, result⟩ : Conversation)].map Conversation.call =
            [.getattr p none] := rfl
      have hroom := Request.not_lacksRoom (r := .utimens path times)
        (by simp [Request.operation, Request.filling])
      cases result with
      | ok stat =>
        refine honours_utimens_set srv path times p _ _ ?_ fun _ _ _ => hcalls
        intro w hw g hg
        rw [List.mem_singleton.mp hw] at hg
        cases hg
      | error f =>
        cases f with
        | returned e =>
          refine honours_utimens_set srv path times p _ _ ?_ fun _ _ _ => hcalls
          intro w hw _ _
          rw [List.mem_singleton.mp hw]
          exact .stored
        | raised e => exact .pure (.ofError (by rintro ⟨⟩) (hroom _))
        | panicked text => exact .pure (.ofError (by rintro ⟨⟩) (hroom _))
    · rw [if_neg hkeep]
      exact honours_utimens_set srv path times p _ _ (by simp) (by simp)

/-! ## Operations that count -/

namespace Buffer

theorem length_overwrite (old : List UInt8) (offset : Nat) (new : List UInt8) :
    (overwrite old offset new).length = old.length := by
  simp only [overwrite, List.length_append, List.length_take, List.length_drop]
  omega

/-- Whatever is put into a buffer, its size stays. -/
@[simp] theorem size_put (b : Buffer) (offset : Nat) (new : List UInt8) :
    (b.put offset new).size = b.size := by
  cases b with
  | null size => rfl
  | block bytes => exact length_overwrite bytes offset new

@[simp] theorem length_bytes_put (b : Buffer) (offset : Nat) (new : List UInt8) :
    (b.put offset new).bytes.length = b.bytes.length := by
  cases b with
  | null size => rfl
  | block bytes => exact length_overwrite bytes offset new

theorem size_foldl_put (places : List Placement) (b : Buffer) :
    (places.foldl (fun b p => b.put p.offset p.bytes) b).size = b.size := by
  induction places generalizing b with
  | nil => rfl
  | cons p places ih => rw [List.foldl_cons, ih, size_put]

end Buffer

/-- As many bytes are read as were answered, but no more than the buffer holds. -/
theorem honours_read (srv : Server σ) (path : NativeText) (buffer : Buffer) (offset : Int64)
    (info : Option FileInfo) (p : String) (handle : UInt64) (state : σ) :
    Honours (.read path buffer offset info) (Job.run srv.recorded (.read p buffer offset handle))
      { state := (state, []) } := by
  have hroom := Request.not_lacksRoom (r := .read path buffer offset info)
    (by simp [Request.operation, Request.filling])
  refine .callWith fun asked result next => ?_
  cases result with
  | ok n =>
    have hsize := Buffer.size_foldl_put asked buffer
    have hstatus := congrArg (fun size => min ((Nat.min n size : Nat) : Int) greatestStatus) hsize
    exact .pure (.ofOk (hroom _) .read ((toInt_countStatus _).trans hstatus))
  | error f =>
    refine .pure (.ofError (Request.not_forgives_of_counting ?_ _) (hroom _))
    simp [Request.operation, Request.counting]

theorem honours_write (srv : Server σ) (path : NativeText) (data : Buffer) (offset : Int64)
    (info : Option FileInfo) (p : String) (handle : UInt64) (state : σ) :
    Honours (.write path data offset info) (Job.run srv.recorded (.write p data offset handle))
      { state := (state, []) } := by
  have hroom := Request.not_lacksRoom (r := .write path data offset info)
    (by simp [Request.operation, Request.filling])
  refine .call fun asked result next => ?_
  cases result with
  | ok n => exact .pure (.ofOk (hroom _) .write (toInt_countStatus _))
  | error f =>
    refine .pure (.ofError (Request.not_forgives_of_counting ?_ _) (hroom _))
    simp [Request.operation, Request.counting]

/-- A value is passed on if there is room for it, or only its length is wanted. -/
theorem honours_getxattr (srv : Server σ) (path name : NativeText) (buffer : Buffer)
    (p n : String) (state : σ) :
    Honours (.getxattr path name buffer) (Job.run srv.recorded (.getxattr p n buffer))
      { state := (state, []) } := by
  refine .call fun asked result next => ?_
  cases result with
  | ok data =>
    refine .ite (fun hsize => .pure ?_) fun hsize =>
      .ite (fun hshort => .pure ?_) fun hfits => .pure ?_
    · refine .ofOk ?_ .getxattr (toInt_countStatus _)
      intro e he
      cases he with
      | getxattr wanted short => exact wanted hsize
    · exact .ofShort (.getxattr hsize hshort)
    · refine .ofOk ?_ .getxattr (toInt_countStatus _)
      intro e he
      cases he with
      | getxattr wanted short => exact hfits short
  | error f =>
    refine .pure (.ofError (Request.not_forgives_of_counting ?_ _) ?_)
    · simp [Request.operation, Request.counting]
    · intro e he
      cases he

/-! ### Names -/

namespace Packing

/-- The names packed so far, and then more of them. -/
def addAll (names : List String) (p : Packing) : Packing :=
  names.foldl (fun p name => (add name p).2) p

/-- Where only the length is wanted, there is always room. -/
theorem addAll_of_size_eq_zero {p : Packing} (h : p.buffer.size = 0) (names : List String) :
    (addAll names p).overflow = p.overflow ∧
      (addAll names p).used = p.used + Request.packedSize names := by
  induction names generalizing p with
  | nil => exact ⟨rfl, rfl⟩
  | cons name names ih =>
    have hadd : (add name p).2 = { p with used := p.used + ((Text.bytes name).length + 1) } := by
      simp [add, h]
    obtain ⟨hoverflow, hused⟩ := ih (p := (add name p).2) (by rw [hadd]; exact h)
    rw [hadd] at hoverflow hused
    refine ⟨?_, ?_⟩
    · show (addAll names (add name p).2).overflow = _
      rw [hadd, hoverflow]
    · show (addAll names (add name p).2).used = _
      rw [hadd, hused]
      simp only [Request.packedSize]
      omega

/-- Otherwise there is room as long as all of them fit. -/
theorem addAll_of_size_ne_zero {p : Packing} (h : p.buffer.size ≠ 0)
    (hused : p.used ≤ p.buffer.bytes.length) (names : List String) :
    ((addAll names p).overflow = false ↔ p.overflow = false ∧
        p.used + Request.packedSize names ≤ p.buffer.bytes.length) ∧
      ((addAll names p).overflow = false →
        (addAll names p).used = p.used + Request.packedSize names) := by
  induction names generalizing p with
  | nil => simpa [addAll, Request.packedSize] using fun _ => hused
  | cons name names ih =>
    have hsum : Request.packedSize (name :: names) =
        (Text.bytes name).length + 1 + Request.packedSize names := rfl
    have hcons : addAll (name :: names) p = addAll names (add name p).2 := rfl
    by_cases hfits : p.used + ((Text.bytes name).length + 1) ≤ p.buffer.bytes.length
    · have hadd : (add name p).2 =
          { p with
            buffer := p.buffer.put p.used (Text.bytes name ++ [0])
            used := p.used + ((Text.bytes name).length + 1) } := by
        simp [add, h, Nat.not_lt.mpr hfits]
      have hrest := ih (p := (add name p).2) (by rw [hadd]; simpa using h)
        (by rw [hadd]; simpa using hfits)
      rw [hcons, hsum]
      simpa [hadd, Nat.add_assoc] using hrest
    · have hadd : (add name p).2 = { p with overflow := true } := by
        simp [add, h, Nat.not_le.mp hfits]
      have hrest := ih (p := (add name p).2) (by rw [hadd]; exact h) (by rw [hadd]; exact hused)
      -- What was refused once stays refused.
      have hoverflow : (addAll names (add name p).2).overflow ≠ false := by
        intro hnone
        have hbefore := (hrest.1.mp hnone).1
        simp [hadd] at hbefore
      rw [hcons, hsum]
      refine ⟨⟨fun hnone => absurd hnone hoverflow, ?_⟩, fun hnone => absurd hnone hoverflow⟩
      rintro ⟨-, hall⟩
      omega

/-- Names overflow a buffer if there is one and they do not fit. -/
theorem overflow_addAll (buffer : Buffer) (names : List String) :
    (addAll names { buffer }).overflow = true ↔
      buffer.size ≠ 0 ∧ buffer.bytes.length < Request.packedSize names := by
  by_cases h : buffer.size = 0
  · have hnone := (addAll_of_size_eq_zero (p := { buffer }) h names).1
    simp [hnone, h]
  · have hiff := (addAll_of_size_ne_zero (p := { buffer }) h (Nat.zero_le _) names).1
    rw [← not_iff_not, Bool.not_eq_true, hiff]
    simp [h]

/-- If they do not, their length is known. -/
theorem used_addAll {buffer : Buffer} {names : List String}
    (h : ¬ (addAll names { buffer }).overflow = true) :
    (addAll names { buffer }).used = Request.packedSize names := by
  by_cases hsize : buffer.size = 0
  · have hused := (addAll_of_size_eq_zero (p := { buffer }) hsize names).2
    rwa [Nat.zero_add] at hused
  · have hused := (addAll_of_size_ne_zero (p := { buffer }) hsize (Nat.zero_le _) names).2
      (Bool.not_eq_true _ ▸ h)
    rwa [Nat.zero_add] at hused

end Packing

/-- So is a list of names. -/
theorem honours_listxattr (srv : Server σ) (path : NativeText) (buffer : Buffer) (p : String)
    (state : σ) :
    Honours (.listxattr path buffer) (Job.run srv.recorded (.listxattr p buffer))
      { state := (state, []) } := by
  refine .callWith fun names result next => ?_
  cases result with
  | ok done =>
    refine .ite (fun hoverflow => .pure ?_) fun hoverflow => .pure ?_
    · have hshort := (Packing.overflow_addAll buffer names).mp hoverflow
      exact .ofShort (.listxattr hshort.1 hshort.2)
    · have hused := Packing.used_addAll hoverflow
      have hstatus := congrArg (fun n : Nat => min (n : Int) greatestStatus) hused
      refine .ofOk ?_ .listxattr ((toInt_countStatus _).trans hstatus)
      intro e he
      cases he with
      | listxattr wanted short =>
        exact hoverflow ((Packing.overflow_addAll buffer names).mpr ⟨wanted, short⟩)
  | error f =>
    refine .pure (.ofError (Request.not_forgives_of_counting ?_ _) ?_)
    · simp [Request.operation, Request.counting]
    · intro e he
      cases he

/-! ## Every request -/

/-- The status of every job answers for its calls. -/
theorem honours_decoded (srv : Server σ) {r : Request} {job : Job} (h : Decoded r job)
    (state : σ) : Honours r (job.run srv.recorded) { state := (state, []) } := by
  cases h with
  | once plain once own => exact honours_once srv plain once state
  | lenient own named need_not roomy uncounted fallsBack =>
    exact honours_lenient srv named need_not roomy uncounted fallsBack state
  | @statfs path record p read =>
    cases record with
    | none => exact honours_statfs_null srv path p state
    | some record => exact honours_statfs srv path record p state
  | opendir info read => exact honours_opendir srv _ _ info state
  | create mode info read => exact honours_create srv _ mode info _ state
  | utimens times read => exact honours_utimens srv _ times _ _ state
  | read buffer offset info read => exact honours_read srv _ buffer offset info _ _ state
  | write data offset info read => exact honours_write srv _ data offset info _ _ state
  | getxattr buffer read read_name => exact honours_getxattr srv _ _ buffer _ _ state
  | listxattr buffer read => exact honours_listxattr srv _ buffer _ state

/-- A request whose arguments can be decoded is served by `Contract`, whatever the implementation
    does: the operation's own method is called with the decoded arguments (`Called`), and the status
    answers for what came of that (`Answers`). The calls of the log are all the calls there are. -/
theorem serve_contract (srv : Server σ) {r : Request} {job : Job} (h : r.decode = .ok job)
    (state : σ) :
    Contract r (r.log srv state) (r.serve srv state).status.toInt (r.serve srv state).memory ∧
      (r.log srv state).map Conversation.call = (r.serve srv state).calls := by
  obtain ⟨-, -, -, -, hcalls⟩ := serve_recorded srv r state
  have hdecoded : Decoded r job := decoded h
  obtain ⟨-, hcalled, -⟩ := serve_ensures srv h state (called_decoded srv hdecoded state)
  have hhonours := Honours.iff_ensures.mp (honours_decoded srv hdecoded state)
  obtain ⟨result, hanswers, hstatus⟩ := serve_ensures srv h state hhonours
  rw [← hstatus] at hanswers
  exact ⟨⟨hcalled, hanswers⟩, hcalls⟩

/-- A server whose implementation fails in every call alike. -/
def failing (f : Failure) : Server Unit where
  fileSystem := ⟨fun _ _ state => .done (.error f) state⟩
  directIo := false
  caller := none
  clock := fun _ => ⟨0, 0⟩

/-- To have a file made and opened. -/
def creation : Request :=
  .create (some [47, 97]) 420 (some {})

/-- That making a file in one call is not implemented is passed over if it is
    answered, and so the file cannot be made in two calls, either. -/
theorem serve_contract_failing :
    creation.decode = .ok (.create "/a" 420 {}) ∧
      (creation.serve (failing (.returned .noSys)) ()).status = -38 ∧
      (creation.serve (failing (.returned .noSys)) ()).calls =
        [.create "/a" 0 420, .effect (.mknod "/a" (Mode.regular ||| 420) 0)] ∧
      (creation.serve (failing (.raised .noSys)) ()).status = -38 ∧
      (creation.serve (failing (.raised .noSys)) ()).calls = [.create "/a" 0 420] ∧
      Contract creation (creation.log (failing (.returned .noSys)) ())
        (creation.serve (failing (.returned .noSys)) ()).status.toInt
        (creation.serve (failing (.returned .noSys)) ()).memory ∧
      Contract creation (creation.log (failing (.raised .noSys)) ())
        (creation.serve (failing (.raised .noSys)) ()).status.toInt
        (creation.serve (failing (.raised .noSys)) ()).memory := by
  have hdecode : creation.decode = .ok (.create "/a" 420 {}) := rfl
  exact ⟨hdecode, by decide, by decide, by decide, by decide,
    (serve_contract (failing (.returned .noSys)) hdecode ()).1,
    (serve_contract (failing (.raised .noSys)) hdecode ()).1⟩

end HostedFs
