import HostedFs.Proofs.Attempts
import HostedFs.Proofs.Request.Contract

/-! # What becomes of the answers to a call

    A job is done step by step: it calls, and goes on with the answer. That its status
    answers for the calls is shown in the same steps.

    * `Answers.ofOk`, `ofShort`, `ofError`, `ofForgiven`: the answer to one call.
    * `Ensures`: to go on from here ends with a property; one rule for each step.
    * `Honours`: the same of the property `Answers`.
    * `job_of_read`, `job_of_reads`, `job_of_required`: the job by the arguments that are read.
    * `serve_ensures`: what is so shown of a job holds of its request.
-/

namespace HostedFs

variable {σ τ : Type}

/-! ## Plain operations -/

/-- The status of a result. -/
def statusOf : Except Failure Int32 → Int
  | .ok status => status.toInt
  | .error f => f.expected

namespace Request

/-- The operations that do more than to pass on the answer to one call. -/
def special : List String :=
  ["statfs", "fsync", "fsyncdir", "opendir", "create", "utimens", "read", "write", "getxattr",
    "listxattr"]

/-- The operation passes over no failure, fills nothing that can be too small, and
    counts nothing. -/
structure Plain (r : Request) : Prop where
  needed : r.operation ∉ optional
  timeless : r.operation ≠ "utimens"
  roomy : r.operation ∉ filling
  uncounted : r.operation ∉ counting

variable {r : Request}

theorem plain_of_notMem (h : r.operation ∉ special) : r.Plain where
  needed hmem := h ((by decide : optional ⊆ special) hmem)
  timeless heq := h (heq ▸ (by decide : "utimens" ∈ special))
  roomy hmem := h ((by decide : filling ⊆ special) hmem)
  uncounted hmem := h ((by decide : counting ⊆ special) hmem)

/-- The only other failures that are passed over are those of looking up times. -/
theorem not_forgives (needed : r.operation ∉ optional) (timeless : r.operation ≠ "utimens")
    (v : Conversation) : ¬ r.Forgives v := by
  intro h
  cases h with
  | unimplemented own need_not => exact needed need_not
  | stored => exact timeless rfl

/-- An operation that counts passes over nothing. -/
theorem not_forgives_of_counting (h : r.operation ∈ counting) (v : Conversation) :
    ¬ r.Forgives v := by
  have hneeded : r.operation ∉ optional := (by decide : ∀ name ∈ counting, name ∉ optional) _ h
  have htimeless : r.operation ≠ "utimens" :=
    (by decide : ∀ name ∈ counting, name ≠ "utimens") _ h
  exact not_forgives hneeded htimeless v

theorem not_lacksRoom (roomy : r.operation ∉ filling) (log : List Conversation) (e : Errno) :
    ¬ r.LacksRoom log e :=
  fun h => roomy h.operation_mem

end Request

/-- Of the failures of an operation that need not be implemented one is passed
    over. -/
theorem forgives_iff {r : Request} (c : Call) (asked : List c.Prompt) (f : Failure)
    (own : c.line.1 = r.operation) (need_not : r.operation ∈ Request.optional) :
    r.Forgives ⟨c, asked, .error f⟩ ↔ f.IsUnimplemented := by
  constructor
  · intro h
    generalize hv : (⟨c, asked, .error f⟩ : Conversation) = v at h
    cases h with
    | unimplemented own' need_not' =>
      cases hv
      rfl
    | stored => simp [Request.operation, Request.optional] at need_not
  · rintro rfl
    exact .unimplemented own need_not

/-! ## One call -/

namespace Answers

variable {r : Request} {c : Call} {asked : List c.Prompt} {memory : Memory}

/-- The answer to one call that succeeds. -/
theorem ofOk {value : c.Value} {n : Nat} {status : Int}
    (room : ∀ e, ¬ r.LacksRoom [⟨c, asked, .ok value⟩] e)
    (counts : r.Counts [⟨c, asked, .ok value⟩] n)
    (hstatus : status = min (n : Int) greatestStatus) :
    Answers r [⟨c, asked, .ok value⟩] status memory := by
  refine .ofSuccess ?_ ?_ room counts hstatus
  · intro w hw f hf
    obtain rfl := List.mem_singleton.mp hw
    cases hf
  · intro w hw hforgiven
    obtain rfl := List.mem_singleton.mp hw
    cases hforgiven

/-- The answer to one call that succeeds where there is no room for the answer. -/
theorem ofShort {value : c.Value} {e : Errno}
    (cramped : r.LacksRoom [⟨c, asked, .ok value⟩] e) :
    Answers r [⟨c, asked, .ok value⟩] e.expected memory := by
  refine .ofCramped ?_ ?_ cramped
  · intro w hw f hf
    obtain rfl := List.mem_singleton.mp hw
    cases hf
  · intro w hw hforgiven
    obtain rfl := List.mem_singleton.mp hw
    cases hforgiven

/-- The answer to one call that fails. -/
theorem ofError {f : Failure} (strict : ¬ r.Forgives ⟨c, asked, .error f⟩)
    (room : ∀ e, ¬ r.LacksRoom [⟨c, asked, .error f⟩] e) :
    Answers r [⟨c, asked, .error f⟩] f.expected memory :=
  .ofFailure [] rfl rfl strict (by simp) (by simp) room

/-- The answer to one call whose failure is passed over. -/
theorem ofForgiven {f : Failure} (forgiven : r.Forgives ⟨c, asked, .error f⟩)
    (fallsBack : r.FallsBack [⟨c, asked, .error f⟩] memory)
    (room : ∀ e, ¬ r.LacksRoom [⟨c, asked, .error f⟩] e)
    (counts : r.Counts [⟨c, asked, .error f⟩] 0) :
    Answers r [⟨c, asked, .error f⟩] 0 memory := by
  refine .ofSuccess ?_ (fun _ _ _ => fallsBack) room counts rfl
  intro w hw _ _
  rw [List.mem_singleton.mp hw]
  exact forgiven

/-- The answer to an operation that passes on the answer to one call. -/
theorem ofOnce (h : r.Plain) (c : Call) (asked : List c.Prompt) (result : c.Result)
    (memory : Memory) : Answers r [⟨c, asked, result⟩] (statusOf (Job.done result)) memory := by
  have hroom := Request.not_lacksRoom h.roomy
  cases result with
  | ok value => exact .ofOk (hroom _) (.none h.uncounted) rfl
  | error f => exact .ofError (Request.not_forgives h.needed h.timeless _) (hroom _)

end Answers

/-! ## Steps -/

/-- To go on from here ends with a property of what the implementation was asked and
    of the outcome and the memory after it. -/
def Ensures (P : List Conversation → Except Failure Int32 × Memory → Prop)
    (m : StateM (Service (σ × List Conversation)) (Except Failure Int32 × Memory))
    (service : Service (σ × List Conversation)) : Prop :=
  P (m service).2.state.2 (m service).1

namespace Ensures

variable {P : List Conversation → Except Failure Int32 × Memory → Prop}
  {service : Service (σ × List Conversation)}
  {m n : StateM (Service (σ × List Conversation)) (Except Failure Int32 × Memory)}

theorem pure {out : Except Failure Int32 × Memory} (h : P service.state.2 out) :
    Ensures P (Pure.pure out) service :=
  h

theorem ite {p : Prop} [Decidable p] (hpos : p → Ensures P m service)
    (hneg : ¬ p → Ensures P n service) : Ensures P (if p then m else n) service := by
  split
  next hp => exact hpos hp
  next hp => exact hneg hp

theorem report {events : List Event}
    (h : Ensures P m { service with events := service.events ++ events }) :
    Ensures P (do Service.report events; m) service :=
  h

/-- A look at the clock asks nothing. -/
theorem time {srv : Server σ} {rest : Timespec → StateM (Service (σ × List Conversation))
      (Except Failure Int32 × Memory)}
    (h : ∀ now looks, Ensures P (rest now) { service with looks }) :
    Ensures P (srv.recorded.time >>= rest) service :=
  h _ _

/-- Whatever the answer to a call is, it is in the record. -/
theorem callWith {srv : Server σ} {c : Call} {answer : c.Prompt → τ → Bool × τ} {t : τ}
    {rest : c.Result × τ → StateM (Service (σ × List Conversation)) (Except Failure Int32 × Memory)}
    (h : ∀ asked result next, Ensures P
      (rest (result, asked.foldl (fun t question => (answer question t).2) t))
      { service with
        state := (next, service.state.2 ++ [⟨c, asked, result⟩])
        calls := service.calls ++ [c] }) :
    Ensures P (srv.recorded.callWith c answer t >>= rest) service := by
  obtain ⟨asked, result, next, hcall⟩ := srv.callWith_noted c answer t service
  have hrun : (srv.recorded.callWith c answer t >>= rest) service =
      rest (srv.recorded.callWith c answer t service).1
        (srv.recorded.callWith c answer t service).2 := rfl
  rw [Ensures, hrun, hcall]
  exact h asked result next

theorem call {srv : Server σ} {c : Call}
    {rest : c.Result → StateM (Service (σ × List Conversation)) (Except Failure Int32 × Memory)}
    (h : ∀ asked result next, Ensures P (rest result)
      { service with
        state := (next, service.state.2 ++ [⟨c, asked, result⟩])
        calls := service.calls ++ [c] }) :
    Ensures P (srv.recorded.call c >>= rest) service := by
  show Ensures P (srv.recorded.callWith c _ () >>= fun out => rest out.1) service
  exact callWith h

end Ensures

/-- To go on from here ends with a status that answers for the calls. -/
def Honours (r : Request)
    (m : StateM (Service (σ × List Conversation)) (Except Failure Int32 × Memory))
    (service : Service (σ × List Conversation)) : Prop :=
  Answers r (m service).2.state.2 (statusOf (m service).1.1) (m service).1.2

namespace Honours

variable {r : Request} {service : Service (σ × List Conversation)}
  {m n : StateM (Service (σ × List Conversation)) (Except Failure Int32 × Memory)}

theorem iff_ensures :
    Honours r m service ↔
      Ensures (fun log out => Answers r log (statusOf out.1) out.2) m service :=
  Iff.rfl

theorem pure {out : Except Failure Int32 × Memory}
    (h : Answers r service.state.2 (statusOf out.1) out.2) : Honours r (Pure.pure out) service :=
  h

theorem ite {p : Prop} [Decidable p] (hpos : p → Honours r m service)
    (hneg : ¬ p → Honours r n service) : Honours r (if p then m else n) service :=
  iff_ensures.mpr (.ite hpos hneg)

theorem report {events : List Event}
    (h : Honours r m { service with events := service.events ++ events }) :
    Honours r (do Service.report events; m) service :=
  h

theorem time {srv : Server σ} {rest : Timespec → StateM (Service (σ × List Conversation))
      (Except Failure Int32 × Memory)}
    (h : ∀ now looks, Honours r (rest now) { service with looks }) :
    Honours r (srv.recorded.time >>= rest) service :=
  h _ _

theorem callWith {srv : Server σ} {c : Call} {answer : c.Prompt → τ → Bool × τ} {t : τ}
    {rest : c.Result × τ → StateM (Service (σ × List Conversation)) (Except Failure Int32 × Memory)}
    (h : ∀ asked result next, Honours r
      (rest (result, asked.foldl (fun t question => (answer question t).2) t))
      { service with
        state := (next, service.state.2 ++ [⟨c, asked, result⟩])
        calls := service.calls ++ [c] }) :
    Honours r (srv.recorded.callWith c answer t >>= rest) service :=
  iff_ensures.mpr (.callWith h)

theorem call {srv : Server σ} {c : Call}
    {rest : c.Result → StateM (Service (σ × List Conversation)) (Except Failure Int32 × Memory)}
    (h : ∀ asked result next, Honours r (rest result)
      { service with
        state := (next, service.state.2 ++ [⟨c, asked, result⟩])
        calls := service.calls ++ [c] }) :
    Honours r (srv.recorded.call c >>= rest) service :=
  iff_ensures.mpr (.call h)

end Honours

/-! ## Requests -/

theorem eq_some_of_required {α : Type} {e : Errno} {value? : Option α} {value : α}
    (h : Request.required e value? = .ok value) : value? = some value := by
  cases value? with
  | none => cases h
  | some other =>
    cases h
    rfl

section decoding

variable {job : Job} {text name : NativeText}

/-- A request that reads one text has a job with it. -/
theorem job_of_read {toJob : String → Job} (h : (do return toJob (← text.read)) = .ok job) :
    ∃ p, text.read = .ok p ∧ job = toJob p := by
  obtain ⟨p, hp, h⟩ := bind_eq_ok_iff.mp h
  cases h
  exact ⟨p, hp, rfl⟩

/-- One that reads two texts has a job with both. -/
theorem job_of_reads {toJob : String → String → Job}
    (h : (do
      let p ← text.read
      return toJob p (← name.read)) = .ok job) :
    ∃ p n, text.read = .ok p ∧ name.read = .ok n ∧ job = toJob p n := by
  obtain ⟨p, hp, h⟩ := bind_eq_ok_iff.mp h
  obtain ⟨n, hn, rfl⟩ := job_of_read h
  exact ⟨p, n, hp, hn, rfl⟩

/-- One that looks at an address before it reads a text has a job with both. -/
theorem job_of_required {α : Type} {e : Errno} {address : Option α} {toJob : α → String → Job}
    (h : (do
      let a ← Request.required e address
      return toJob a (← text.read)) = .ok job) :
    ∃ a p, address = some a ∧ text.read = .ok p ∧ job = toJob a p := by
  obtain ⟨a, ha, h⟩ := bind_eq_ok_iff.mp h
  obtain ⟨p, hp, rfl⟩ := job_of_read h
  exact ⟨a, p, eq_some_of_required ha, hp, rfl⟩

end decoding

/-- A request whose arguments are bad comes to their error alone. -/
theorem serve_of_undecoded (srv : Server σ) {r : Request} {e : Errno} (h : r.decode = .error e)
    (state : σ) : r.serve srv state = ⟨e.status, r.memory, [], [], state⟩ := by
  simp only [Request.serve, h]

/-- What a job ends with holds of the request that it was made of. -/
theorem serve_ensures (srv : Server σ) {r : Request} {job : Job} (h : r.decode = .ok job)
    (state : σ) {P : List Conversation → Except Failure Int32 × Memory → Prop}
    (hjob : Ensures P (job.run srv.recorded) { state := (state, []) }) :
    ∃ result, P (r.log srv state) (result, (r.serve srv state).memory) ∧
      (r.serve srv state).status.toInt = statusOf result := by
  obtain ⟨hstatus, hmemory, -⟩ := serve_recorded srv r state
  rw [← hstatus, ← hmemory]
  unfold Ensures at hjob
  unfold Request.log Request.serve
  rw [h]
  dsimp only
  generalize job.run srv.recorded { state := (state, []) } = ran at hjob
  obtain ⟨⟨result, memory⟩, service⟩ := ran
  cases result with
  | ok status => exact ⟨.ok status, hjob, rfl⟩
  | error f => exact ⟨.error f, hjob, f.toInt_status⟩

end HostedFs
