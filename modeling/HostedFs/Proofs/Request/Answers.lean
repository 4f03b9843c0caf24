import HostedFs.Proofs.Request.Outcomes

/-! # Requests by the answers to their calls

    The implementation answers a call from its state and leaves another one, from which
    it answers the next. What a request comes to can be said by these answers alone where
    nothing is asked back.

    * `Server.answer`: the answer to a call, and the state after it.
    * `Ends`: to go on from here ends with a property; one rule for each step.
    * `serve_ends`: what is so shown of a job holds of its request.
-/

namespace HostedFs

variable {σ : Type}

/-- What the implementation answers to a call, and its state then. What it asks back is
    refused. -/
def Server.answer (srv : Server σ) (c : Call) (state : σ) : c.Result × σ :=
  let played := (srv.fileSystem.respond srv.caller c state).run (fun _ t => (false, t)) ()
  (played.1, played.2.1)

/-- To go on from here ends with a property of the calls that were made, of the state of
    the implementation, and of the outcome and the memory. -/
def Ends (P : List Call → σ → Except Failure Int32 × Memory → Prop)
    (m : StateM (Service σ) (Except Failure Int32 × Memory)) (service : Service σ) : Prop :=
  P (m service).2.calls (m service).2.state (m service).1

namespace Ends

variable {P : List Call → σ → Except Failure Int32 × Memory → Prop} {service : Service σ}
  {m n : StateM (Service σ) (Except Failure Int32 × Memory)}

theorem pure {out : Except Failure Int32 × Memory} (h : P service.calls service.state out) :
    Ends P (Pure.pure out) service :=
  h

theorem ite {p : Prop} [Decidable p] (hpos : p → Ends P m service)
    (hneg : ¬ p → Ends P n service) : Ends P (if p then m else n) service := by
  split
  next hp => exact hpos hp
  next hp => exact hneg hp

/-- A look at the clock goes on with what it shows then. -/
theorem time {srv : Server σ}
    {rest : Timespec → StateM (Service σ) (Except Failure Int32 × Memory)}
    (h : Ends P (rest (srv.clock service.looks)) { service with looks := service.looks + 1 }) :
    Ends P (srv.time >>= rest) service :=
  h

/-- A call goes on with its answer. -/
theorem call {srv : Server σ} {c : Call}
    {rest : c.Result → StateM (Service σ) (Except Failure Int32 × Memory)}
    (h : ∀ result next, srv.answer c service.state = (result, next) →
      Ends P (rest result) { service with state := next, calls := service.calls ++ [c] }) :
    Ends P (srv.call c >>= rest) service :=
  h _ _ rfl

end Ends

/-- What a job ends with holds of the request that it was made of. -/
theorem serve_ends (srv : Server σ) {r : Request} {job : Job} (h : r.decode = .ok job) (state : σ)
    {P : List Call → σ → Except Failure Int32 × Memory → Prop}
    (hjob : Ends P (job.run srv) { state }) :
    ∃ result, P (r.serve srv state).calls (r.serve srv state).state
        (result, (r.serve srv state).memory) ∧
      (r.serve srv state).status.toInt = statusOf result := by
  unfold Ends at hjob
  unfold Request.serve
  rw [h]
  dsimp only
  generalize job.run srv { state } = ran at hjob
  obtain ⟨⟨result, memory⟩, service⟩ := ran
  cases result with
  | ok status => exact ⟨.ok status, hjob, rfl⟩
  | error f => exact ⟨.error f, hjob, f.toInt_status⟩

end HostedFs
