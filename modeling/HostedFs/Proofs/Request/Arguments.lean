import HostedFs.Proofs.Attempts
import HostedFs.Proofs.Request.Outcomes

/-! # The arguments of a request

    The arguments of a request are looked at one after another, and the first bad
    one decides the status before anything is asked of the implementation. What is
    asked of it carries the texts that were passed, and no others.

    * `Argument.Bad`, `FirstBad`: what is wrong with an argument, and which of
      several decides.
    * `Request.arguments`, `decode_checks`: what is looked at, in order.
    * `Call.texts`, `run_texts`: the texts that calls carry.
    * `serve_arguments`: both, for every request.
-/

namespace HostedFs

/-! ## Texts -/

/-- The bytes at an address, up to the first NUL, are the UTF-8 form of a text. -/
def NativeText.Spells (t : NativeText) (s : String) : Prop :=
  ∃ bs, t = some bs ∧ Text.bytes s = untilNul bs

theorem NativeText.spells_of_read {t : NativeText} {s : String} (h : t.read = .ok s) :
    t.Spells s := by
  cases t with
  | none => cases h
  | some bs =>
    cases htext : Text.ofBytes? (untilNul bs) with
    | none => simp [read, htext] at h
    | some text =>
      obtain rfl : text = s := by simpa [read, htext] using h
      exact ⟨bs, rfl, Text.bytes_of_ofBytes? htext⟩

theorem NativeText.read_of_spells {t : NativeText} {s : String} (h : t.Spells s) :
    t.read = .ok s := by
  obtain ⟨bs, rfl, hbytes⟩ := h
  have htext : Text.ofBytes? (untilNul bs) = some s := by
    rw [← hbytes, Text.ofBytes?_bytes]
  simp [read, htext]

/-- What is made of a text goes on with what it spells. -/
theorem NativeText.read_bind {α : Type} {t : NativeText} {s : String} (h : t.Spells s)
    (next : String → Except Errno α) : t.read >>= next = next s := by
  rw [read_of_spells h]
  rfl

/-! ## Bad arguments -/

/-- What is looked at before a request is served. -/
inductive Argument
  /-- A text, which must be there and be one. -/
  | text (t : NativeText)
  /-- Another address; if there is nothing at it, that is the error given. -/
  | address (there : Bool) (e : Errno)

namespace Argument

/-- An argument is bad, and the error number says why. -/
inductive Bad : Argument → Errno → Prop
  | null : Bad (.text none) .invalid
  /-- No text has these bytes. -/
  | garbled {bs : List UInt8} (h : ∀ s, Text.bytes s ≠ NativeText.untilNul bs) :
      Bad (.text (some bs)) .illegalSequence
  | missing {e : Errno} : Bad (.address false e) e

/-- The text that is passed, if the argument is one. -/
def text? : Argument → Option NativeText
  | .text t => some t
  | .address .. => none

end Argument

theorem NativeText.read_eq_error_iff {t : NativeText} {e : Errno} :
    t.read = .error e ↔ (Argument.text t).Bad e := by
  cases t with
  | none =>
    constructor
    · intro h
      cases h
      exact .null
    · intro h
      cases h
      rfl
  | some bs =>
    cases htext : Text.ofBytes? (untilNul bs) with
    | some s =>
      have hread : read (some bs) = .ok s := by simp [read, htext]
      constructor
      · intro h
        cases hread.symm.trans h
      · intro h
        cases h with
        | garbled hnone => exact absurd (Text.bytes_of_ofBytes? htext) (hnone s)
    | none =>
      have hread : read (some bs) = .error .illegalSequence := by simp [read, htext]
      constructor
      · intro h
        cases hread.symm.trans h
        refine .garbled fun s hs => ?_
        -- The bytes of a text can be read back.
        rw [← hs, Text.ofBytes?_bytes] at htext
        cases htext
      · intro h
        cases h with
        | garbled hnone => exact hread

theorem required_eq_error_iff {α : Type} {e e' : Errno} {value? : Option α} :
    Request.required e value? = .error e' ↔ (Argument.address value?.isSome e).Bad e' := by
  cases value? with
  | none =>
    constructor
    · intro h
      cases h
      exact .missing
    · intro h
      cases h
      rfl
  | some value =>
    constructor
    · intro h
      cases h
    · intro h
      cases h

/-- The error number is that of the first bad argument. -/
inductive FirstBad : List Argument → Errno → Prop
  | here {a : Argument} {rest : List Argument} {e : Errno} (bad : a.Bad e) :
      FirstBad (a :: rest) e
  | later {a : Argument} {rest : List Argument} {e : Errno} (good : ∀ e', ¬ a.Bad e')
      (bad : FirstBad rest e) : FirstBad (a :: rest) e

theorem FirstBad.exists_mem {args : List Argument} {e : Errno} (h : FirstBad args e) :
    ∃ a ∈ args, a.Bad e := by
  induction h with
  | here bad => exact ⟨_, List.mem_cons_self, bad⟩
  | later _ _ ih =>
    obtain ⟨a, ha, hbad⟩ := ih
    exact ⟨a, List.mem_cons_of_mem _ ha, hbad⟩

/-- An attempt fails exactly by the first bad one of the arguments. -/
def Checks {α : Type} (args : List Argument) (x : Except Errno α) : Prop :=
  ∀ e, x = .error e ↔ FirstBad args e

namespace Checks

variable {α β : Type} {rest : List Argument}

theorem ok (a : α) : Checks [] (Pure.pure a) := by
  intro e
  constructor
  · intro h
    cases h
  · intro h
    cases h

/-- One argument is looked at before the others. -/
theorem cons {a : Argument} {x : Except Errno β} {next : β → Except Errno α}
    (first : ∀ e, x = .error e ↔ a.Bad e) (others : ∀ b, x = .ok b → Checks rest (next b)) :
    Checks (a :: rest) (x >>= next) := by
  intro e
  constructor
  · intro h
    rcases bind_eq_error_iff.mp h with hfirst | ⟨b, hb, hnext⟩
    · exact .here ((first e).mp hfirst)
    · refine .later (fun e' hbad => ?_) ((others b hb e).mp hnext)
      cases hb.symm.trans ((first e').mpr hbad)
  · intro h
    cases h with
    | here bad => exact bind_eq_error_iff.mpr (.inl ((first e).mpr bad))
    | later good bad =>
      cases hx : x with
      | error e' => exact absurd ((first e').mp hx) (good e')
      | ok b => exact (others b hx e).mpr bad

theorem text (t : NativeText) {next : String → Except Errno α}
    (h : ∀ s, Checks rest (next s)) : Checks (.text t :: rest) (t.read >>= next) :=
  cons (fun _ => NativeText.read_eq_error_iff) fun s _ => h s

theorem address (e : Errno) (value? : Option β) {next : β → Except Errno α}
    (h : ∀ b, Checks rest (next b)) :
    Checks (.address value?.isSome e :: rest) (Request.required e value? >>= next) :=
  cons (fun _ => required_eq_error_iff) fun b _ => h b

end Checks

/-! ## Requests -/

namespace Request

/-- The arguments of a request that are looked at, in order. A handle need not be
    there, nor a buffer, nor the times to be set, and of the record for the whole
    filesystem it shows only when it is to be filled. -/
def arguments : Request → List Argument
  | .statfs path _ | .mknod path .. | .mkdir path _ | .unlink path | .rmdir path
  | .readlink path _ | .chmod path _ | .chown path .. | .truncate path _ | .ftruncate path ..
  | .access path _ | .utimens path _ | .chflags path _ | .getpath path .. | .read path ..
  | .write path .. | .flush path _ | .release path _ | .fsync path .. | .releasedir path _
  | .fsyncdir path .. | .listxattr path _ => [.text path]
  | .symlink target new => [.text target, .text new]
  | .link path new | .rename path new => [.text path, .text new]
  | .setxattr path name .. | .getxattr path name _ | .removexattr path name =>
    [.text path, .text name]
  | .getattr path record | .fgetattr path record _ => [.address record.isSome .invalid, .text path]
  | .setchgtime path time | .setcrtime path time => [.address time.isSome .invalid, .text path]
  | .openFile path info | .create path _ info | .opendir path info =>
    [.address info.isSome .invalid, .text path]
  | .readdir path sink .. => [.address sink.isSome .io, .text path]

/-- The texts among them. -/
def texts (r : Request) : List NativeText :=
  r.arguments.filterMap Argument.text?

/-- A request is refused by its first bad argument. -/
theorem decode_checks (r : Request) : Checks r.arguments r.decode := by
  cases r with
  | symlink | link | rename | setxattr | getxattr | removexattr =>
    exact .text _ fun _ => .text _ fun _ => .ok _
  | getattr | fgetattr | setchgtime | setcrtime | openFile | create | opendir | readdir =>
    exact .address _ _ fun _ => .text _ fun _ => .ok _
  | _ => exact .text _ fun _ => .ok _

/-- A request without a bad argument can be served. -/
theorem exists_job {r : Request} (h : ∀ a ∈ r.arguments, ∀ e, ¬ a.Bad e) :
    ∃ job, r.decode = .ok job := by
  cases hdecode : r.decode with
  | ok job => exact ⟨job, rfl⟩
  | error e =>
    obtain ⟨a, ha, hbad⟩ := ((r.decode_checks e).mp hdecode).exists_mem
    exact absurd hbad (h a ha e)

end Request

/-! ## Calls -/

/-- The texts that an effect carries: paths and names. -/
def Effect.texts : Effect → List String
  | .mknod path .. | .mkdir path _ | .unlink path | .rmdir path | .chmod path _ | .chown path ..
  | .utimens path .. | .truncate path .. | .access path _ | .flush path _ | .release path _
  | .fsync path .. | .releasedir path _ | .fsyncdir path .. | .chflags path _
  | .setcrtime path _ | .setchgtime path _ => [path]
  | .link path new | .rename path new _ => [path, new]
  | .symlink target new => [target, new]
  | .setxattr path name .. | .removexattr path name => [path, name]

/-- The texts that a call carries. -/
def Call.texts : Call → List String
  | .init | .destroy => []
  | .effect e => e.texts
  | .statfs path | .readlink path | .getattr path _ | .create path .. | .openFile path _
  | .read path .. | .write path .. | .opendir path | .readdir path .. | .listxattr path
  | .getpath path _ => [path]
  | .getxattr path name => [path, name]

/-- The texts that a job is about. -/
def Job.texts : Job → List String
  | .effect e _ => e.texts
  | .statfs path _ | .readlink path _ | .getattr path .. | .utimens path _ | .getpath path ..
  | .openFile path _ | .create path .. | .read path .. | .write path .. | .opendir path _
  | .readdir path .. | .listxattr path _ => [path]
  | .getxattr path name _ => [path, name]

/-- The texts of a job are those that were passed. -/
theorem Request.spells_of_decode {r : Request} {job : Job} (h : r.decode = .ok job) :
    List.Forall₂ NativeText.Spells r.texts job.texts := by
  cases r with
  | symlink | link | rename | setxattr | getxattr | removexattr =>
    obtain ⟨s, s', hs, hs', rfl⟩ := job_of_reads h
    exact .cons (NativeText.spells_of_read hs) (.cons (NativeText.spells_of_read hs') .nil)
  | getattr | fgetattr | setchgtime | setcrtime | openFile | create | opendir | readdir =>
    obtain ⟨_, s, -, hs, rfl⟩ := job_of_required h
    exact .cons (NativeText.spells_of_read hs) .nil
  | _ =>
    obtain ⟨s, hs, rfl⟩ := job_of_read h
    exact .cons (NativeText.spells_of_read hs) .nil

/-- Something was asked, and always with the same texts. -/
structure Addressed (texts : List String) (log : List Conversation) : Prop where
  asked : log ≠ []
  texts : ∀ v ∈ log, v.call.texts = texts

section addressed

variable {texts : List String} {c : Call} {asked : List c.Prompt} {result : c.Result}

theorem Addressed.concat {log : List Conversation} (hlog : ∀ v ∈ log, v.call.texts = texts)
    (h : c.texts = texts) : Addressed texts (log ++ [⟨c, asked, result⟩]) := by
  refine ⟨by simp, fun v hv => ?_⟩
  rcases List.mem_append.mp hv with hv | hv
  · exact hlog v hv
  · rw [List.mem_singleton.mp hv]
    exact h

theorem Addressed.one (h : c.texts = texts) : Addressed texts [⟨c, asked, result⟩] :=
  .concat (List.forall_mem_nil _) h

end addressed

/-- To set times is one more call with the same path. -/
theorem utimens_set_texts {σ : Type} (srv : Server σ) (path : String) (atime mtime : Timespec)
    {service : Service (σ × List Conversation)}
    (hlog : ∀ v ∈ service.state.2, v.call.texts = [path]) :
    Ensures (fun log _ => Addressed [path] log) (do
      return (Job.done (← srv.recorded.call (.effect (.utimens path atime mtime))), .nothing))
      service :=
  .call fun _ _ _ => .pure (.concat hlog rfl)

theorem utimens_texts {σ : Type} (srv : Server σ) (path : String)
    (updates : TimeUpdate × TimeUpdate) (state : σ) :
    Ensures (fun log _ => Addressed [path] log)
      (Job.run srv.recorded (.utimens path (some updates))) { state := (state, []) } := by
  show Ensures _ (Job.resolveTimes srv.recorded path updates.1 updates.2 >>= _) _
  unfold Job.resolveTimes
  rw [bind_assoc]
  refine .time fun now looks => ?_
  dsimp only
  -- A time that is kept is looked up first, by a call with the same path.
  by_cases hkeep : updates.1 = .omit ∨ updates.2 = .omit
  · rw [if_pos hkeep, bind_assoc]
    refine .call fun asked result next => ?_
    have hlooked : Addressed [path] [⟨.getattr path none, asked, result⟩] := .one rfl
    cases result with
    | ok stat => exact utimens_set_texts srv path _ _ hlooked.texts
    | error f =>
      cases f with
      | returned e => exact utimens_set_texts srv path _ _ hlooked.texts
      | raised e => exact .pure hlooked
      | panicked text => exact .pure hlooked
  · rw [if_neg hkeep]
    exact utimens_set_texts srv path _ _ (by simp)

/-- All calls of a job carry its texts, and there is one at least. -/
theorem run_texts {σ : Type} (srv : Server σ) (job : Job) (state : σ) :
    Ensures (fun log _ => Addressed job.texts log) (job.run srv.recorded)
      { state := (state, []) } := by
  cases job with
  -- Along each job: whatever a call answers, the ones before it carried the texts of the job.
  | effect e lenient =>
    refine .call fun asked result next => ?_
    cases result with
    | ok done => exact .pure (.one rfl)
    | error f => exact .ite (fun _ => .pure (.one rfl)) fun _ => .pure (.one rfl)
  | statfs path record =>
    refine .call fun asked result next => ?_
    cases result with
    | ok s => exact .pure (.one rfl)
    | error f => exact .ite (fun _ => .pure (.one rfl)) fun _ => .pure (.one rfl)
  | utimens path times =>
    cases times with
    | none => exact .time fun now looks => .call fun asked result next => .pure (.one rfl)
    | some times => exact utimens_texts srv path times state
  | openFile path info => exact .call fun asked result next => .pure (.one rfl)
  | create path mode info =>
    refine .call fun asked result next => ?_
    cases result with
    | ok fh => exact .pure (.one rfl)
    | error f =>
      refine .ite (fun _ => .call fun asked' result' next' => ?_) fun _ => .pure (.one rfl)
      have hasked : Addressed [path] [⟨.create path info.flags mode, asked, .error f⟩] := .one rfl
      have hmade : Addressed [path] ([⟨.create path info.flags mode, asked, .error f⟩] ++
          [⟨.effect (.mknod path (Mode.regular ||| mode) 0), asked', result'⟩]) :=
        .concat hasked.texts rfl
      cases result' with
      | ok done => exact .call fun _ _ _ => .pure (.concat hmade.texts rfl)
      | error f' => exact .pure hmade
  | opendir path info =>
    refine .call fun asked result next => ?_
    cases result with
    | ok fh => exact .pure (.one rfl)
    | error f => exact .ite (fun _ => .pure (.one rfl)) fun _ => .pure (.one rfl)
  | read path buffer offset handle =>
    refine .callWith fun asked result next => ?_
    cases result with
    | ok n => exact .pure (.one rfl)
    | error f => exact .pure (.one rfl)
  | readdir path sink offset handle =>
    exact .callWith fun asked result next => .report (.pure (.one rfl))
  | getxattr path name buffer =>
    refine .call fun asked result next => ?_
    cases result with
    | ok data =>
      exact .ite (fun _ => .pure (.one rfl)) fun _ =>
        .ite (fun _ => .pure (.one rfl)) fun _ => .pure (.one rfl)
    | error f => exact .pure (.one rfl)
  | listxattr path buffer =>
    refine .callWith fun names result next => ?_
    cases result with
    | ok done => exact .ite (fun _ => .pure (.one rfl)) fun _ => .pure (.one rfl)
    | error f => exact .pure (.one rfl)
  | readlink | getattr | getpath | write =>
    refine .call fun asked result next => ?_
    cases result with
    | ok value => exact .pure (.one rfl)
    | error f => exact .pure (.one rfl)

/-! ## Every request -/

/-- What follows from the `arguments` of a request.

    If one of them is bad, the first such (`FirstBad`) decides the status, nothing is asked of the
    implementation, and nothing else happens. Otherwise the implementation is asked. And every
    call that is made carries `texts` whose UTF-8 forms are the bytes that were passed, up to the
    first NUL of each (`Spells`). -/
theorem serve_arguments {σ : Type} (srv : Server σ) (r : Request) (state : σ) :
    (∀ e, FirstBad r.arguments e → r.serve srv state = ⟨e.status, r.memory, [], [], state⟩) ∧
      ((∀ a ∈ r.arguments, ∀ e, ¬ a.Bad e) → (r.serve srv state).calls ≠ []) ∧
      ∀ c ∈ (r.serve srv state).calls, List.Forall₂ NativeText.Spells r.texts c.texts := by
  have hrefused {e : Errno} (h : r.decode = .error e) :
      r.serve srv state = ⟨e.status, r.memory, [], [], state⟩ := by
    simp only [Request.serve, h]
  -- What `run_texts` says of the log holds of the calls, which are those of the log.
  have hserved {job : Job} (h : r.decode = .ok job) :
      (r.serve srv state).calls ≠ [] ∧ ∀ c ∈ (r.serve srv state).calls, c.texts = job.texts := by
    obtain ⟨-, hlog, -⟩ := serve_ensures srv h state (run_texts srv job state)
    obtain ⟨-, -, -, -, hcalls⟩ := serve_recorded srv r state
    rw [← hcalls]
    exact ⟨by simpa using hlog.asked, by simpa using hlog.texts⟩
  refine ⟨fun e hbad => hrefused ((r.decode_checks e).mpr hbad), fun hgood => ?_, fun c hc => ?_⟩
  · obtain ⟨job, hjob⟩ := Request.exists_job hgood
    exact (hserved hjob).1
  · cases hdecode : r.decode with
    | error e =>
      rw [hrefused hdecode] at hc
      cases hc
    | ok job =>
      rw [(hserved hdecode).2 c hc]
      exact Request.spells_of_decode hdecode

/-- The statuses that bad arguments lead to. -/
example : Errno.status .invalid = -22 ∧ Errno.status .illegalSequence = -84 ∧
    Errno.status .io = -5 := by decide

/-- An implementation that answers every call that it does not have it. -/
def bareServer : Server Unit where
  fileSystem := .bare Unit
  directIo := false
  caller := none
  clock := fun _ => ⟨0, 0⟩

/-- To have an attribute set whose name is the bytes. What follows a NUL does not
    belong to the path. -/
def naming (name : List UInt8) : Request :=
  .setxattr (some [47, 97, 0, 255]) (some name) (.block []) 0

/-- The path is one, but the name is no text in the first request. In the second,
    both are. -/
theorem serve_arguments_naming :
    (naming [255]).serve bareServer () = ⟨-84, .nothing, [], [], ()⟩ ∧
      ((naming [120]).serve bareServer ()).calls =
        [.effect (.setxattr "/a" "x" [] 0)] ∧
      List.Forall₂ NativeText.Spells [some [47, 97, 0, 255], some [120]] ["/a", "x"] := by
  have hbad : FirstBad (naming [255]).arguments .illegalSequence :=
    (Request.decode_checks _ _).mp rfl
  have hcalls : ((naming [120]).serve bareServer ()).calls =
      [.effect (.setxattr "/a" "x" [] 0)] := by decide
  have hspells := (serve_arguments bareServer (naming [120]) ()).2.2
    (.effect (.setxattr "/a" "x" [] 0)) (by simp [hcalls])
  exact ⟨(serve_arguments bareServer (naming [255]) ()).1 _ hbad, hcalls, hspells⟩

end HostedFs
