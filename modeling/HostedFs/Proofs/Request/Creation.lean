import HostedFs.Proofs.Request.Answers
import HostedFs.Proofs.Request.Arguments
import HostedFs.Proofs.Request.Outputs

/-! # Files that are made and opened

    An implementation may make and open a file in one call. One that answers that it
    does not have this call is asked to make the file and then to open it, and the file
    information is written when all of this is done.

    * `Creates`: the calls that are made, with the answer to the last of them.
    * `Opened`: the status and the file information that follow from that answer.
    * `serve_creates`: both, for every request to create a file.
-/

namespace HostedFs

variable {σ : Type}

/-- How a file comes to be made and opened, from a state: by which calls, with which
    answer to the last of them, and with which state after it. -/
inductive Creates (srv : Server σ) (p : String) (flags : Int32) (mode : UInt32) (state : σ) :
    List Call → Except Failure UInt64 → σ → Prop
  /-- In one call, if the implementation has it. -/
  | atOnce {result : Except Failure UInt64} {next : σ}
      (answered : srv.answer (.create p flags mode) state = (result, next))
      (had : result ≠ .error (.returned .noSys)) :
      Creates srv p flags mode state [.create p flags mode] result next
  /-- Otherwise a regular file is made first. It may be that it cannot, -/
  | unmade {f : Failure} {missed next : σ}
      (lacked : srv.answer (.create p flags mode) state = (.error (.returned .noSys), missed))
      (failed : srv.answer (.effect (.mknod p (Mode.regular ||| mode) 0)) missed =
        (.error f, next)) :
      Creates srv p flags mode state
        [.create p flags mode, .effect (.mknod p (Mode.regular ||| mode) 0)] (.error f) next
  /-- and if it can, it is opened with the same flags. -/
  | inTurn {result : Except Failure UInt64} {missed made next : σ}
      (lacked : srv.answer (.create p flags mode) state = (.error (.returned .noSys), missed))
      (done : srv.answer (.effect (.mknod p (Mode.regular ||| mode) 0)) missed = (.ok (), made))
      (answered : srv.answer (.openFile p flags) made = (result, next)) :
      Creates srv p flags mode state
        [.create p flags mode, .effect (.mknod p (Mode.regular ||| mode) 0), .openFile p flags]
        result next

/-- The status and the file information after an answer. If it is a handle, the handle is
    stored and, if files are opened so, the bit for direct input and output is set. -/
inductive Opened (directIo : Bool) (info : FileInfo) : Except Failure UInt64 → Int → Memory → Prop
  | ok {fh : UInt64} :
      Opened directIo info (.ok fh) 0
        (.file (some { info with fh, bits := if directIo then info.bits ||| 1 else info.bits }))
  | error {f : Failure} : Opened directIo info (.error f) f.expected (.file (some info))

theorem opened_ok (srv : Server σ) (info : FileInfo) (fh : UInt64) :
    Opened srv.directIo info (.ok fh) 0 (.file (some (Job.opened srv info fh))) := by
  rw [opened_eq]
  exact .ok

/-- A file is made and opened, and its information written, in each of these ways. -/
theorem creates_run (srv : Server σ) (p : String) (mode : UInt32) (info : FileInfo) (state : σ) :
    Ends (fun calls next out => ∃ result, Creates srv p info.flags mode state calls result next ∧
        Opened srv.directIo info result (statusOf out.1) out.2)
      (Job.run srv (.create p mode info)) { state } := by
  refine .call fun result missed answered => ?_
  cases result with
  | ok fh =>
    have had : (Except.ok fh : Except Failure UInt64) ≠ .error (.returned .noSys) := nofun
    exact .pure ⟨.ok fh, .atOnce answered had, opened_ok srv info fh⟩
  | error f =>
    refine .ite (fun unimplemented => ?_) fun implemented => ?_
    · -- This answer alone leads on to further calls.
      obtain rfl : f = .returned .noSys := unimplemented
      refine .call fun result made done => ?_
      cases result with
      | error f => exact .pure ⟨.error f, .unmade answered done, .error⟩
      | ok value =>
        refine .call fun result next opened => .pure ⟨result, .inTurn answered done opened, ?_⟩
        cases result with
        | ok fh => exact opened_ok srv info fh
        | error f => exact .error
    · have had : (Except.error f : Except Failure UInt64) ≠ .error (.returned .noSys) := by
        intro h
        exact implemented (Except.error.inj h)
      exact .pure ⟨.error f, .atOnce answered had, .error⟩

/-- A request to create a file, whatever the implementation does.

    The implementation is asked to make and open the file. If and only if it answers `noSys`, it
    is asked to `mknod` a regular file instead, and once that has succeeded, to open it
    (`Creates`). The status is that of the last call that is made. If that call gave a handle, the
    file information has it, and the bit for direct input and output is set if files are opened
    so; all else of it stays, and all of it if there is no handle (`Opened`). -/
theorem serve_creates (srv : Server σ) {path : NativeText} {p : String} (spelled : path.Spells p)
    (mode : UInt32) (info : FileInfo) (state : σ) :
    ∃ result,
      Creates srv p info.flags mode state
        ((Request.create path mode (some info)).serve srv state).calls result
        ((Request.create path mode (some info)).serve srv state).state ∧
      Opened srv.directIo info result
        ((Request.create path mode (some info)).serve srv state).status.toInt
        ((Request.create path mode (some info)).serve srv state).memory := by
  have hdecode : (Request.create path mode (some info)).decode = .ok (.create p mode info) :=
    NativeText.read_bind spelled _
  obtain ⟨out, ⟨result, hcreates, hopened⟩, hstatus⟩ :=
    serve_ends srv hdecode state (creates_run srv p mode info state)
  rw [hstatus]
  exact ⟨result, hcreates, hopened⟩

/-- Three calls make and open a file, and the handle of the last one is stored. -/
theorem serve_creates_remaking :
    NativeText.Spells (some [47, 97]) "/a" ∧
      ∃ result,
        Creates (opener (.ok 7)) "/a" 2 420 ()
          [.create "/a" 2 420, .effect (.mknod "/a" 0o100644 0), .openFile "/a" 2] result () ∧
        Opened true { flags := 2, bits := 4, fh := 9 } result 0
          (.file (some { flags := 2, bits := 5, fh := 7 })) := by
  have hspelled : NativeText.Spells (some [47, 97]) "/a" := ⟨[47, 97], rfl, by decide⟩
  obtain ⟨result, hcreates, hopened⟩ :=
    serve_creates (opener (.ok 7)) hspelled 420 { flags := 2, bits := 4, fh := 9 } ()
  exact ⟨hspelled, result, hcreates, hopened⟩

/-- Only an answer counts as not having the call. An implementation that breaks off with
    the same error number is asked nothing more. -/
example :
    let breaking : Server Unit := {
      fileSystem.respond
        | _, .create .., state => .done (.error (.raised .noSys)) state
        | _, c, state => .done c.unimplemented state
      directIo := true
      caller := none
      clock := fun _ => ⟨0, 0⟩ }
    let out := (Request.create (some [47, 97]) 420 (some {})).serve breaking ()
    out.calls = [.create "/a" 0 420] ∧ out.status = -38 ∧ out.memory = .file (some {}) := by
  decide

end HostedFs
