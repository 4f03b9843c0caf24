import HostedFs.Proofs.Request.Answers
import HostedFs.Proofs.Request.Arguments

/-! # Files by path and by handle

    Metadata can be asked for, and a file truncated, by its path or by file information.
    Where that is null, or its handle is the one that stands for none, both come to the
    same. Any other handle is passed on, whatever else the file information says.

    * `Completion.Same`: two requests come to the same.
    * `getattr_ends`, `truncate_ends`: the two operations, by the answer to their call.
    * `Server.IgnoresPaths`: the implementation goes by the handle if it is given one.
    * `serve_handles`: what follows for all paths, handles and implementations.
-/

namespace HostedFs

variable {σ : Type}

/-! ## Requests that come to the same -/

/-- Two requests come to the same, for the caller and for the implementation. What is
    reported of a failure may name different operations. -/
structure Completion.Same (a b : Completion σ) : Prop where
  status : a.status = b.status
  memory : a.memory = b.memory
  state : a.state = b.state

/-- Requests for the same job come to the same, by the same calls. -/
theorem same_of_decode (srv : Server σ) {r r' : Request} (hjob : r.decode = r'.decode)
    (hmemory : r.memory = r'.memory) (state : σ) :
    (r.serve srv state).Same (r'.serve srv state) ∧
      (r.serve srv state).calls = (r'.serve srv state).calls := by
  unfold Request.serve
  rw [hjob, hmemory]
  cases r'.decode with
  | error e => exact ⟨⟨rfl, rfl, rfl⟩, rfl⟩
  | ok job =>
    dsimp only
    generalize job.run srv { state } = ran
    obtain ⟨⟨result, memory⟩, service⟩ := ran
    cases result with
    | ok status => exact ⟨⟨rfl, rfl, rfl⟩, rfl⟩
    | error f => exact ⟨⟨rfl, rfl, rfl⟩, rfl⟩

/-! ## Handles -/

namespace FileInfo

/-- Null has no handle, nor has file information with that one. -/
theorem realHandle_of_none {info : Option FileInfo} (h : ∀ i ∈ info, i.fh = noHandle) :
    realHandle (handleOf info) = none := by
  cases info with
  | none => rfl
  | some i => exact if_pos (h i rfl)

/-- Any other handle is one. -/
theorem realHandle_of_ne {i : FileInfo} (h : i.fh ≠ noHandle) :
    realHandle (handleOf (some i)) = some i.fh :=
  if_neg h

end FileInfo

/-! ## One request -/

/-- What follows from the answer to a request for metadata: it is stored, or the record
    stays. -/
inductive Stored (granted : Capabilities) (record : PosixStat) :
    Except Failure Stat → Int → Memory → Prop
  | ok {s : Stat} : Stored granted record (.ok s) 0 (.stat (some (storeStat granted record s)))
  | error {f : Failure} : Stored granted record (.error f) f.expected (.stat (some record))

/-- Nothing else follows. -/
theorem Stored.unique {granted : Capabilities} {record : PosixStat}
    {result : Except Failure Stat} {status status' : Int} {memory memory' : Memory}
    (h : Stored granted record result status memory)
    (h' : Stored granted record result status' memory') : status = status' ∧ memory = memory' := by
  cases h with
  | ok =>
    cases h'
    exact ⟨rfl, rfl⟩
  | error =>
    cases h'
    exact ⟨rfl, rfl⟩

theorem getattr_ends (srv : Server σ) (p : String) (handle : Option UInt64) (record : PosixStat)
    (state : σ) :
    Ends (fun calls next out => calls = [.getattr p handle] ∧
        ∃ result, srv.answer (.getattr p handle) state = (result, next) ∧
          Stored srv.granted record result (statusOf out.1) out.2)
      (Job.run srv (.getattr p handle record)) { state } := by
  refine .call fun result next answered => ?_
  cases result with
  | ok s => exact .pure ⟨rfl, .ok s, answered, .ok⟩
  | error f => exact .pure ⟨rfl, .error f, answered, .error⟩

theorem truncate_ends (srv : Server σ) (p : String) (size : Int64) (handle : Option UInt64)
    (state : σ) :
    Ends (fun calls next out => calls = [.effect (.truncate p size handle)] ∧
        ∃ result, srv.answer (.effect (.truncate p size handle)) state = (result, next) ∧
          statusOf out.1 = statusOf (Job.done result) ∧ out.2 = .nothing)
      (Job.run srv (.effect (.truncate p size handle) false)) { state } := by
  refine .call fun result next answered => ?_
  cases result with
  | ok done => exact .pure ⟨rfl, .ok done, answered, rfl, rfl⟩
  | error f => exact .pure ⟨rfl, .error f, answered, rfl, rfl⟩

/-- A request for the metadata of an open file. -/
theorem serve_fgetattr (srv : Server σ) {path : NativeText} {p : String} (spelled : path.Spells p)
    (record : PosixStat) {i : FileInfo} (known : i.fh ≠ FileInfo.noHandle) (state : σ) :
    ((Request.fgetattr path (some record) (some i)).serve srv state).calls =
        [.getattr p (some i.fh)] ∧
      ∃ result, srv.answer (.getattr p (some i.fh)) state =
          (result, ((Request.fgetattr path (some record) (some i)).serve srv state).state) ∧
        Stored srv.granted record result
          ((Request.fgetattr path (some record) (some i)).serve srv state).status.toInt
          ((Request.fgetattr path (some record) (some i)).serve srv state).memory := by
  have hdecode : (Request.fgetattr path (some record) (some i)).decode =
      .ok (.getattr p (some i.fh) record) := by
    rw [← FileInfo.realHandle_of_ne known]
    exact NativeText.read_bind spelled _
  obtain ⟨out, hout, hstatus⟩ :=
    serve_ends srv hdecode state (getattr_ends srv p (some i.fh) record state)
  rw [hstatus]
  exact hout

/-- A request to truncate an open file. -/
theorem serve_ftruncate (srv : Server σ) {path : NativeText} {p : String}
    (spelled : path.Spells p) (size : Int64) {i : FileInfo} (known : i.fh ≠ FileInfo.noHandle)
    (state : σ) :
    ((Request.ftruncate path size (some i)).serve srv state).calls =
        [.effect (.truncate p size (some i.fh))] ∧
      ∃ result, srv.answer (.effect (.truncate p size (some i.fh))) state =
          (result, ((Request.ftruncate path size (some i)).serve srv state).state) ∧
        ((Request.ftruncate path size (some i)).serve srv state).status.toInt =
          statusOf (Job.done result) ∧
        ((Request.ftruncate path size (some i)).serve srv state).memory = .nothing := by
  have hdecode : (Request.ftruncate path size (some i)).decode =
      .ok (.effect (.truncate p size (some i.fh)) false) := by
    rw [← FileInfo.realHandle_of_ne known]
    exact NativeText.read_bind spelled _
  obtain ⟨out, hout, hstatus⟩ :=
    serve_ends srv hdecode state (truncate_ends srv p size (some i.fh) state)
  rw [hstatus]
  exact hout

/-! ## Two requests -/

/-- The implementation does not look at the path when it is given a handle. -/
structure Server.IgnoresPaths (srv : Server σ) : Prop where
  getattr : ∀ p q fh state,
    srv.answer (.getattr p (some fh)) state = srv.answer (.getattr q (some fh)) state
  truncate : ∀ p q size fh state,
    srv.answer (.effect (.truncate p size (some fh))) state =
      srv.answer (.effect (.truncate q size (some fh))) state

/-- Without a record nothing is asked, and the path is not read. -/
theorem serve_fgetattr_null (srv : Server σ) (path : NativeText) (info : Option FileInfo)
    (state : σ) :
    (Request.fgetattr path none info).serve srv state =
      ⟨Errno.invalid.status, .stat none, [], [], state⟩ :=
  rfl

section ignored

variable {srv : Server σ} (ignores : srv.IgnoresPaths) {path path' : NativeText} {p p' : String}
  (spelled : path.Spells p) (spelled' : path'.Spells p') {i : FileInfo}
  (known : i.fh ≠ FileInfo.noHandle)
include ignores spelled spelled' known

theorem fgetattr_same (record : Option PosixStat) (state : σ) :
    ((Request.fgetattr path record (some i)).serve srv state).Same
      ((Request.fgetattr path' record (some i)).serve srv state) := by
  cases record with
  | none =>
    rw [serve_fgetattr_null, serve_fgetattr_null]
    exact ⟨rfl, rfl, rfl⟩
  | some record =>
    obtain ⟨-, result, hanswer, hstored⟩ := serve_fgetattr srv spelled record known state
    obtain ⟨-, result', hanswer', hstored'⟩ := serve_fgetattr srv spelled' record known state
    rw [ignores.getattr p p' i.fh state] at hanswer
    obtain ⟨rfl, hstate⟩ := Prod.mk.inj (hanswer.symm.trans hanswer')
    obtain ⟨hstatus, hmemory⟩ := hstored.unique hstored'
    exact ⟨Int32.toInt_inj.mp hstatus, hmemory, hstate⟩

theorem ftruncate_same (size : Int64) (state : σ) :
    ((Request.ftruncate path size (some i)).serve srv state).Same
      ((Request.ftruncate path' size (some i)).serve srv state) := by
  obtain ⟨-, result, hanswer, hstatus, hmemory⟩ := serve_ftruncate srv spelled size known state
  obtain ⟨-, result', hanswer', hstatus', hmemory'⟩ := serve_ftruncate srv spelled' size known state
  rw [ignores.truncate p p' size i.fh state] at hanswer
  obtain ⟨rfl, hstate⟩ := Prod.mk.inj (hanswer.symm.trans hanswer')
  exact ⟨Int32.toInt_inj.mp (hstatus.trans hstatus'.symm), hmemory.trans hmemory'.symm, hstate⟩

end ignored

/-- Requests with this file information come to what those by path come to. -/
structure ByPath (srv : Server σ) (record : Option PosixStat) (size : Int64)
    (info : Option FileInfo) (state : σ) : Prop where
  getattr : ∀ path,
    ((Request.fgetattr path record info).serve srv state).Same
        ((Request.getattr path record).serve srv state) ∧
      ((Request.fgetattr path record info).serve srv state).calls =
        ((Request.getattr path record).serve srv state).calls
  truncate : ∀ path,
    ((Request.ftruncate path size info).serve srv state).Same
        ((Request.truncate path size).serve srv state) ∧
      ((Request.ftruncate path size info).serve srv state).calls =
        ((Request.truncate path size).serve srv state).calls

/-- What is asked of the implementation where there is a handle, and what the path is
    good for then. -/
structure ByHandle (srv : Server σ) (record : Option PosixStat) (size : Int64) (i : FileInfo)
    (state : σ) : Prop where
  /-- The handle is passed on, and the path with it. Without a record to be filled nothing
      is asked. -/
  getattr : ∀ path p, NativeText.Spells path p →
    ((Request.fgetattr path record (some i)).serve srv state).calls =
      if record.isSome then [.getattr p (some i.fh)] else []
  truncate : ∀ path p, NativeText.Spells path p →
    ((Request.ftruncate path size (some i)).serve srv state).calls =
      [.effect (.truncate p size (some i.fh))]
  /-- If the implementation does not look at the path, neither does anything else. -/
  ignored : srv.IgnoresPaths → ∀ path path' p p', NativeText.Spells path p →
    NativeText.Spells path' p' →
    ((Request.fgetattr path record (some i)).serve srv state).Same
        ((Request.fgetattr path' record (some i)).serve srv state) ∧
      ((Request.ftruncate path size (some i)).serve srv state).Same
        ((Request.ftruncate path' size (some i)).serve srv state)

/-- Requests about an open file, whatever the implementation does.

    If the file information is null, or if its handle is `noHandle`, the file is known `ByPath`: the
    request comes to what the one by path comes to, by the same calls, even where its arguments are
    bad. Any other handle is passed on (`ByHandle`), whatever else the file information says; and
    where the implementation does not look at the path then, two paths come to the same. -/
theorem serve_handles (srv : Server σ) (record : Option PosixStat) (size : Int64)
    (info : Option FileInfo) (state : σ) :
    ((∀ i ∈ info, i.fh = FileInfo.noHandle) → ByPath srv record size info state) ∧
      ∀ i ∈ info, i.fh ≠ FileInfo.noHandle → ByHandle srv record size i state := by
  constructor
  · intro h
    -- Both requests are decoded to the same job, or refused with the same error.
    have hnone := FileInfo.realHandle_of_none h
    refine ⟨fun path => ?_, fun path => ?_⟩
    · have hdecode : (Request.fgetattr path record info).decode =
          (Request.getattr path record).decode := by simp only [Request.decode, hnone]
      exact same_of_decode srv hdecode rfl state
    · have hdecode : (Request.ftruncate path size info).decode =
          (Request.truncate path size).decode := by simp only [Request.decode, hnone]
      exact same_of_decode srv hdecode rfl state
  · intro i _ known
    refine ⟨fun path p spelled => ?_, fun path p spelled => ?_, ?_⟩
    · cases record with
      | none =>
        rw [serve_fgetattr_null]
        rfl
      | some record => exact (serve_fgetattr srv spelled record known state).1
    · exact (serve_ftruncate srv spelled size known state).1
    · intro ignores path path' p p' spelled spelled'
      exact ⟨fgetattr_same ignores spelled spelled' known record state,
        ftruncate_same ignores spelled spelled' known size state⟩

/-- A server whose implementation knows every open file, and none by its path. -/
def numbered : Server Unit where
  fileSystem.respond
    | _, .getattr _ (some fh), state => .done (.ok { ino := fh }) state
    | _, .effect (.truncate _ _ (some _)), state => .done (.ok ()) state
    | _, c, state => .done c.unimplemented state
  directIo := false
  caller := none
  clock := fun _ => ⟨0, 0⟩

theorem ignoresPaths_numbered : numbered.IgnoresPaths where
  getattr _ _ _ _ := rfl
  truncate _ _ _ _ _ := rfl

/-- A record that was not written yet. -/
def unwritten : PosixStat :=
  ⟨0, 0, 0, 0, 0, 0, 0, 0, 0, 0, ⟨0, 0⟩, ⟨0, 0⟩, ⟨0, 0⟩⟩

/-- An open file has the same metadata under two names, and none by its path. -/
theorem serve_handles_numbered :
    ByPath numbered (some unwritten) 0 (some { flags := 2, fh := FileInfo.noHandle }) () ∧
      ByHandle numbered (some unwritten) 0 { flags := 2, fh := 7 } () ∧
      ((Request.fgetattr (some [47, 97]) (some unwritten)
          (some { flags := 2, fh := 7 })).serve numbered ()).Same
        ((Request.fgetattr (some [47, 98]) (some unwritten)
          (some { flags := 2, fh := 7 })).serve numbered ()) := by
  have hpath := (serve_handles numbered (some unwritten) 0
    (some { flags := 2, fh := FileInfo.noHandle }) ()).1 (by simp)
  have hhandle := (serve_handles numbered (some unwritten) 0 (some { flags := 2, fh := 7 }) ()).2
    { flags := 2, fh := 7 } rfl (by decide)
  have ha : NativeText.Spells (some [47, 97]) "/a" := ⟨[47, 97], rfl, by decide⟩
  have hb : NativeText.Spells (some [47, 98]) "/b" := ⟨[47, 98], rfl, by decide⟩
  exact ⟨hpath, hhandle, (hhandle.ignored ignoresPaths_numbered _ _ "/a" "/b" ha hb).1⟩

/-- All bits of the handle that stands for none are set. -/
example : FileInfo.noHandle = ~~~0 := rfl

end HostedFs
