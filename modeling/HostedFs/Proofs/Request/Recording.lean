import HostedFs.Request.Serve

/-! # What an implementation was asked and answered

    To say what a request comes to, one must know what the implementation did
    while it was served. An implementation can be made to note that down.

    * `Conversation`: one call, what was asked back, and the result.
    * `Exchange.Plays`, `plays_run`: the courses of a call, with the answers to what
      was asked back, and what is kept in each of them.
    * `FileSystem.recorded`: the same implementation, which keeps a record.
    * `Request.log`: the record of a request.
    * `serve_recorded`: to keep the record changes nothing else.
-/

namespace HostedFs

/-- A call with what was asked back meanwhile, and its result. -/
structure Conversation where
  call : Call
  asked : List call.Prompt
  result : call.Result

/-! ## Exchanges -/

namespace Exchange

variable {σ Q R τ : Type}

/-- What is asked back in the course of an exchange. -/
def asked (answer : Q → τ → Bool × τ) : Exchange σ Q R → τ → List Q
  | .done _ _, _ => []
  | .ask question state resume, t =>
    question :: asked answer (resume (answer question t).1 state) (answer question t).2

/-- The one who answers has answered each question in its turn. -/
theorem run_answerer (answer : Q → τ → Bool × τ) (x : Exchange σ Q R) (t : τ) :
    (x.run answer t).2.2 =
      (x.asked answer t).foldl (fun t question => (answer question t).2) t := by
  induction x generalizing t with
  | done result state => rfl
  | ask question state resume ih => exact ih _ _ _

/-- A course that an exchange can take: what is asked, each with an answer, and how it
    ends with those answers. -/
inductive Plays : Exchange σ Q R → List (Q × Bool) → R → σ → Prop
  | done (result : R) (state : σ) : Plays (.done result state) [] result state
  | ask {question : Q} {state final : σ} {resume : Bool → σ → Exchange σ Q R} {yes : Bool}
      {told : List (Q × Bool)} {result : R} (rest : Plays (resume yes state) told result final) :
      Plays (.ask question state resume) ((question, yes) :: told) result final

/-- An exchange takes one of its courses, and what each answer of the other side keeps
    is kept to the end. -/
theorem plays_run {Kept : List (Q × Bool) → τ → Prop} {answer : Q → τ → Bool × τ}
    (step : ∀ told t question, Kept told t →
      Kept (told ++ [(question, (answer question t).1)]) (answer question t).2)
    (x : Exchange σ Q R) {before : List (Q × Bool)} {t : τ} (h : Kept before t) :
    ∃ told, x.Plays told (x.run answer t).1 (x.run answer t).2.1 ∧
      Kept (before ++ told) (x.run answer t).2.2 := by
  induction x generalizing before t with
  | done result state => exact ⟨[], .done result state, by rwa [List.append_nil]⟩
  | ask question state resume ih =>
    obtain ⟨told, hplays, hkept⟩ := ih (answer question t).1 state (step before t question h)
    rw [List.append_assoc] at hkept
    exact ⟨_, .ask hplays, hkept⟩

/-- The same exchange, which notes down what was asked so far and the result. -/
def recorded (c : Call) : Exchange σ c.Prompt c.Result → List c.Prompt → List Conversation →
    Exchange (σ × List Conversation) c.Prompt c.Result
  | .done result state, asked, log => .done result (state, log ++ [⟨c, asked, result⟩])
  | .ask question state resume, asked, log =>
    .ask question (state, log) fun yes (state, log) =>
      recorded c (resume yes state) (asked ++ [question]) log

theorem run_recorded {c : Call} (answer : c.Prompt → τ → Bool × τ)
    (x : Exchange σ c.Prompt c.Result) (before : List c.Prompt) (log : List Conversation) (t : τ) :
    (x.recorded c before log).run answer t =
      ((x.run answer t).1,
        ((x.run answer t).2.1, log ++ [⟨c, before ++ x.asked answer t, (x.run answer t).1⟩]),
        (x.run answer t).2.2) := by
  induction x generalizing before log t with
  | done result state => simp [recorded, run, asked]
  | ask question state resume ih =>
    have hrest := ih (answer question t).1 state (before ++ [question]) log (answer question t).2
    rw [List.append_assoc] at hrest
    exact hrest

end Exchange

/-! ## Implementations -/

/-- The same implementation, which keeps a record of its conversations. -/
def FileSystem.recorded {σ : Type} (fs : FileSystem σ) : FileSystem (σ × List Conversation) where
  respond caller c := fun (state, log) => (fs.respond caller c state).recorded c [] log

/-- The same server with an implementation that keeps a record. -/
def Server.recorded {σ : Type} (srv : Server σ) : Server (σ × List Conversation) where
  fileSystem := srv.fileSystem.recorded
  granted := srv.granted
  directIo := srv.directIo
  caller := srv.caller
  clock := srv.clock

/-- The conversations in which a request is served. -/
def Request.log {σ : Type} (srv : Server σ) (r : Request) (state : σ) : List Conversation :=
  (r.serve srv.recorded (state, [])).state.2

/-! ## Serving with a record -/

variable {σ τ α β : Type}

/-- A call adds its conversation to the record. -/
theorem Server.callWith_recorded (srv : Server σ) (c : Call) (answer : c.Prompt → τ → Bool × τ)
    (t : τ) (r : Service (σ × List Conversation)) :
    srv.recorded.callWith c answer t r =
      let x := srv.fileSystem.respond srv.caller c r.state.1
      (((x.run answer t).1, (x.run answer t).2.2),
        { r with
          state := ((x.run answer t).2.1,
            r.state.2 ++ [⟨c, x.asked answer t, (x.run answer t).1⟩])
          calls := r.calls ++ [c] }) := by
  have hrun := Exchange.run_recorded answer (srv.fileSystem.respond srv.caller c r.state.1) []
    r.state.2 t
  show (fun out : c.Result × (σ × List Conversation) × τ =>
    ((out.1, out.2.2), { r with state := out.2.1, calls := r.calls ++ [c] }))
      (((srv.fileSystem.respond srv.caller c r.state.1).recorded c [] r.state.2).run answer t) = _
  rw [hrun]
  rfl

/-- What is asked and answered in a call becomes known from its record. -/
theorem Server.callWith_noted (srv : Server σ) (c : Call) (answer : c.Prompt → τ → Bool × τ)
    (t : τ) (r : Service (σ × List Conversation)) :
    ∃ asked result state, srv.recorded.callWith c answer t r =
      ((result, asked.foldl (fun t question => (answer question t).2) t),
        { r with
          state := (state, r.state.2 ++ [⟨c, asked, result⟩])
          calls := r.calls ++ [c] }) := by
  have hcall := srv.callWith_recorded c answer t r
  dsimp only at hcall
  rw [Exchange.run_answerer] at hcall
  exact ⟨_, _, _, hcall⟩

/-- What has happened is the same, but for the record, and that is of the calls
    that were made. -/
structure Mirrors (r : Service (σ × List Conversation)) (s : Service σ) : Prop where
  state : r.state.1 = s.state
  calls : r.calls = s.calls
  events : r.events = s.events
  looks : r.looks = s.looks
  log : r.state.2.map Conversation.call = s.calls

/-- The same is done, whether a record is kept or not. -/
def Alike (m : StateM (Service (σ × List Conversation)) α) (m' : StateM (Service σ) α) : Prop :=
  ∀ r s, Mirrors r s → (m r).1 = (m' s).1 ∧ Mirrors (m r).2 (m' s).2

namespace Alike

theorem pure (a : α) : Alike (σ := σ) (Pure.pure a) (Pure.pure a) := by
  intro r s h
  exact ⟨rfl, h⟩

theorem bind {m : StateM (Service (σ × List Conversation)) α} {m' : StateM (Service σ) α}
    {f : α → StateM (Service (σ × List Conversation)) β} {f' : α → StateM (Service σ) β}
    (hm : Alike m m') (hf : ∀ a, Alike (f a) (f' a)) : Alike (m >>= f) (m' >>= f') := by
  intro r s h
  obtain ⟨hvalue, hservice⟩ := hm r s h
  have hrest := hf (m r).1 _ _ hservice
  rw [hvalue] at hrest
  show (f (m r).1 (m r).2).1 = (f' (m' s).1 (m' s).2).1 ∧
    Mirrors (f (m r).1 (m r).2).2 (f' (m' s).1 (m' s).2).2
  rw [hvalue]
  exact hrest

theorem callWith (srv : Server σ) (c : Call) (answer : c.Prompt → τ → Bool × τ) (t : τ) :
    Alike (srv.recorded.callWith c answer t) (srv.callWith c answer t) := by
  intro r s h
  rw [Server.callWith_recorded, h.state]
  refine ⟨rfl, rfl, ?_, h.events, h.looks, ?_⟩
  · show r.calls ++ [c] = s.calls ++ [c]
    rw [h.calls]
  · show (r.state.2 ++ [_]).map Conversation.call = s.calls ++ [c]
    rw [List.map_append, h.log]
    rfl

theorem call (srv : Server σ) (c : Call) : Alike (srv.recorded.call c) (srv.call c) :=
  bind (callWith srv c _ ()) fun _ => pure _

/-- The clock shows the same, looked at as often. -/
theorem time (srv : Server σ) : Alike srv.recorded.time srv.time := by
  intro r s h
  refine ⟨congrArg srv.clock h.looks, h.state, h.calls, h.events, ?_, h.log⟩
  show r.looks + 1 = s.looks + 1
  rw [h.looks]

theorem report (events : List Event) :
    Alike (σ := σ) (Service.report events) (Service.report events) := by
  intro r s h
  refine ⟨rfl, h.state, h.calls, ?_, h.looks, h.log⟩
  show r.events ++ events = s.events ++ events
  rw [h.events]

theorem ite {p : Prop} [Decidable p] {m n : StateM (Service (σ × List Conversation)) α}
    {m' n' : StateM (Service σ) α} (hm : Alike m m') (hn : Alike n n') :
    Alike (if p then m else n) (if p then m' else n') := by
  split
  · exact hm
  · exact hn

/-- What is made of the answer to a call alone needs no record. -/
theorem ofCall (srv : Server σ) (c : Call)
    {f : c.Result → StateM (Service (σ × List Conversation)) α}
    {f' : c.Result → StateM (Service σ) α}
    (ok : ∀ value, Alike (f (.ok value)) (f' (.ok value)))
    (error : ∀ failure, Alike (f (.error failure)) (f' (.error failure))) :
    Alike (srv.recorded.call c >>= f) (srv.call c >>= f') := by
  refine .bind (.call srv c) fun result => ?_
  cases result with
  | ok value => exact ok value
  | error failure => exact error failure

end Alike

/-- Stored times are looked up alike. -/
theorem resolveTimes_alike (srv : Server σ) (path : String) (atime mtime : TimeUpdate) :
    Alike (Job.resolveTimes srv.recorded path atime mtime)
      (Job.resolveTimes srv path atime mtime) := by
  refine .bind (.time srv) fun now =>
    .ite (.ofCall srv _ (fun stat => .pure _) fun f => ?_) (.pure _)
  cases f with
  | returned e => exact .pure _
  | raised e => exact .pure _
  | panicked text => exact .pure _

/-- Every job is done alike. -/
theorem run_alike (srv : Server σ) (job : Job) : Alike (job.run srv.recorded) (job.run srv) := by
  cases job with
  -- Every branch of every job is made of calls, of looks at the clock and of reports, and each
  -- of these is `Alike` on both sides.
  | effect e lenient => exact .ofCall srv _ (fun done => .pure _) fun f => .ite (.pure _) (.pure _)
  | statfs path record =>
    exact .ofCall srv _ (fun s => .pure _) fun f => .ite (.pure _) (.pure _)
  | readlink path buffer => exact .ofCall srv _ (fun target => .pure _) fun f => .pure _
  | getattr path handle record => exact .ofCall srv _ (fun s => .pure _) fun f => .pure _
  | utimens path times =>
    cases times with
    | none => exact .bind (.time srv) fun now => .bind (.call srv _) fun result => .pure _
    | some times =>
      refine .bind (resolveTimes_alike srv path times.1 times.2) fun resolved => ?_
      cases resolved with
      | ok times => exact .bind (.call srv _) fun result => .pure _
      | error f => exact .pure _
  | getpath path handle buffer => exact .ofCall srv _ (fun stored => .pure _) fun f => .pure _
  | openFile path info => exact .bind (.call srv _) fun result => .pure _
  | create path mode info =>
    refine .ofCall srv _ (fun fh => .pure _) fun f => .ite ?_ (.pure _)
    exact .ofCall srv _ (fun done => .bind (.call srv _) fun result => .pure _) fun f => .pure _
  | read path buffer offset handle =>
    refine .bind (.callWith srv _ _ _) fun (result, buffer) => ?_
    cases result with
    | ok n => exact .pure _
    | error f => exact .pure _
  | write path data offset handle => exact .ofCall srv _ (fun n => .pure _) fun f => .pure _
  | opendir path info => exact .ofCall srv _ (fun fh => .pure _) fun f => .ite (.pure _) (.pure _)
  | readdir path sink offset handle =>
    exact .bind (.callWith srv _ _ _) fun listed => .bind (.report _) fun _ => .pure _
  | getxattr path name buffer =>
    exact .ofCall srv _ (fun data => .ite (.pure _) (.ite (.pure _) (.pure _))) fun f => .pure _
  | listxattr path buffer =>
    refine .bind (.callWith srv _ _ _) fun (result, packing) => ?_
    cases result with
    | ok done => exact .ite (.pure _) (.pure _)
    | error f => exact .pure _

/-- To keep a record changes nothing else, and it is a record of the calls. -/
theorem serve_recorded (srv : Server σ) (r : Request) (state : σ) :
    (r.serve srv.recorded (state, [])).status = (r.serve srv state).status ∧
      (r.serve srv.recorded (state, [])).memory = (r.serve srv state).memory ∧
      (r.serve srv.recorded (state, [])).events = (r.serve srv state).events ∧
      (r.serve srv.recorded (state, [])).state.1 = (r.serve srv state).state ∧
      (r.log srv state).map Conversation.call = (r.serve srv state).calls := by
  unfold Request.log Request.serve
  cases hjob : r.decode with
  | error e => exact ⟨rfl, rfl, rfl, rfl, rfl⟩
  | ok job =>
    have hsame := run_alike srv job { state := (state, []) } { state } ⟨rfl, rfl, rfl, rfl, rfl⟩
    dsimp only
    -- What is left is to put the same status, memory and events together.
    generalize job.run srv.recorded { state := (state, []) } = kept at hsame
    generalize job.run srv { state } = plain at hsame
    obtain ⟨⟨result, memory⟩, service⟩ := kept
    obtain ⟨⟨result', memory'⟩, service'⟩ := plain
    obtain ⟨hvalue, hservice⟩ := hsame
    obtain ⟨rfl, rfl⟩ := Prod.mk.inj hvalue
    cases result with
    | ok status => exact ⟨rfl, rfl, hservice.events, hservice.state, hservice.log⟩
    | error f =>
      refine ⟨rfl, rfl, ?_, hservice.state, hservice.log⟩
      show service.events ++ _ = service'.events ++ _
      rw [hservice.events]

end HostedFs
