import HostedFs.Proofs.Host.Simulation

/-! # The gate

    An attempt to unmount holds the gate from the time it has passed it until it
    is over, and a call to mount holds it for one step after its event loop has
    returned. So at most one of them is past the gate at a time.

    * `Guarded`: the gate is held by whoever is past it, and by nobody else.
    * `guarded_run`: this is so after every run.
    * `eq_of_past_gate`: two attempts past the gate are by the same thread.
-/

namespace HostedFs.Host

variable {setup : Setup}

/-- A thread is past the gate. -/
def PastGate (o : Outline) (r : Role) : Prop :=
  (∃ phase, o.attempt r = some phase ∧ phase ≠ .atGate) ∨
    ∃ n c status, r = .mount n ∧ o.mounts n = some c ∧ c.phase = .gating status true

/-- Whoever is past the gate holds it, and whoever holds it is past it. -/
structure Guarded (o : Outline) : Prop where
  attempt : ∀ r phase, o.attempt r = some phase → phase ≠ .atGate → o.gate = some r
  shut : ∀ n c status, o.mounts n = some c → c.phase = .gating status true →
    o.gate = some (.mount n)
  held : ∀ r, o.gate = some r → PastGate o r

theorem guarded_start (registry : Registry Nat) : Guarded (.start registry) where
  attempt _ _ h := by cases h
  shut _ _ _ h := by cases h
  held _ h := by cases h

/-! ## Moves -/

/-- The gate is taken and given back by steps of their own. -/
theorem Progress.not_shut {c : MountCall} {phase phase' : MountPhase} {input : Input}
    (h : Progress setup c phase input phase') (status : Int32) :
    phase ≠ .gating status true ∧ phase' ≠ .gating status true := by
  cases h <;> simp

theorem guarded_attempt {r : Role} {phase : UnmountPhase} {input : Input} {o o' : Outline}
    (within : o.Within) (ho : Guarded o) (h : o.attempt r = some phase)
    (turn : AttemptTurn r phase input o o') : Guarded o' := by
  cases turn with
  | pass free =>
    -- Nobody else is past a gate that is free.
    constructor
    · intro s phase hs hne
      by_cases hsr : s = r
      · rw [hsr]
        rfl
      · rw [Outline.setAttempt_attempt, if_neg hsr] at hs
        exact absurd (free.symm.trans (ho.attempt s phase hs hne)) (by simp)
    · intro n c status hc hphase
      exact absurd (free.symm.trans (ho.shut n c status hc hphase)) (by simp)
    · intro s hnone
      cases hnone
      exact .inl ⟨_, Function.update_self .., by simp⟩
  | leave =>
    have hheld : o.gate = some r := ho.attempt r _ h (by simp)
    constructor
    · intro s phase hs hne
      by_cases hsr : s = r
      · rw [Outline.setAttempt_attempt, if_pos hsr] at hs
        cases hs
      · rw [Outline.setAttempt_attempt, if_neg hsr] at hs
        cases hheld.symm.trans (ho.attempt s phase hs hne)
        exact absurd rfl hsr
    · intro n c status hc hphase
      -- A call that holds the gate makes no attempt.
      cases hheld.symm.trans (ho.shut n c status hc hphase)
      obtain ⟨d, hd, hcalled⟩ := within n _ h
      cases hc.symm.trans hd
      rcases hcalled with hcalled | hcalled <;> cases hphase.symm.trans hcalled
    · intro s hs
      cases hs
  | _ =>
    have hheld : o.gate = some r := ho.attempt r _ h (by simp)
    constructor
    · intro s phase hs hne
      by_cases hsr : s = r
      · rw [hsr]
        exact hheld
      · rw [Outline.setAttempt_attempt, if_neg hsr] at hs
        exact ho.attempt s phase hs hne
    · exact ho.shut
    · intro s hs
      cases hheld.symm.trans hs
      exact .inl ⟨_, Function.update_self .., by simp⟩

theorem guarded_mount {n : Nat} {c : MountCall} {input : Input} {o o' : Outline}
    (ho : Guarded o) (h : o.mounts n = some c) (idle : o.attempt (.mount n) = none)
    (turn : MountTurn setup n c input o o') : Guarded o' := by
  cases turn with
  | shut hphase free =>
    constructor
    · intro r phase hr hne
      -- The gate was free, so no attempt was past it.
      exact absurd (free.symm.trans (ho.attempt r phase hr hne)) (by simp)
    · intro m d status hd hshut
      by_cases hmn : m = n
      · rw [hmn]
        rfl
      · rw [Outline.setMount_mounts, if_neg hmn] at hd
        exact absurd (free.symm.trans (ho.shut m d status hd hshut)) (by simp)
    · intro r hnone
      cases hnone
      exact .inr ⟨n, _, _, rfl, Outline.setMount_self .., rfl⟩
  | reopen hphase =>
    -- The call itself holds the gate that it opens.
    have hheld : o.gate = some (.mount n) := ho.shut n c _ h hphase
    constructor
    · intro r phase hr hne
      cases hheld.symm.trans (ho.attempt r phase hr hne)
      exact absurd (idle.symm.trans hr) (by simp)
    · intro m d status hd hshut
      by_cases hmn : m = n
      · rw [Outline.setMount_mounts, if_pos hmn] at hd
        cases hd
        cases hshut
      · rw [Outline.setMount_mounts, if_neg hmn] at hd
        cases hheld.symm.trans (ho.shut m d status hd hshut)
        exact absurd rfl hmn
    · intro r hr
      cases hr
  | _ =>
    -- No other turn touches the gate, or leads into or out of the phase that holds it.
    refine ⟨ho.attempt, ?_, ?_⟩
    · intro m d status hd hshut
      have hother := ho.shut m d status
      grind [Progress.not_shut]
    · intro r hr
      rcases ho.held r hr with hattempt | ⟨m, d, status, rfl, hd, hshut⟩
      · exact .inl hattempt
      · have hmn : m ≠ n := by grind [Progress.not_shut]
        exact .inr ⟨m, d, status, rfl, (Outline.setMount_ne _ _ _ hmn).trans hd, hshut⟩

theorem guarded_move {label : Label} {o o' : Outline} (within : o.Within) (ho : Guarded o)
    (h : Move setup label o o') : Guarded o' := by
  cases h with
  | @begin _ n _ _ new =>
    refine ⟨ho.attempt, ?_, ?_⟩
    · intro m d status hd hshut
      have hother := ho.shut m d status
      grind
    · intro r hr
      rcases ho.held r hr with hattempt | ⟨m, d, status, rfl, hd, hshut⟩
      · exact .inl hattempt
      · -- The call is new, so it is not the one that holds the gate.
        have hmn : m ≠ n := by
          intro heq
          subst heq
          exact absurd (new.symm.trans hd) (by simp)
        exact .inr ⟨m, d, status, rfl, (Outline.setMount_ne _ _ _ hmn).trans hd, hshut⟩
  | ask idle own =>
    refine ⟨?_, ho.shut, ?_⟩
    · intro s phase hs hne
      -- An attempt that begins stands before the gate.
      have hother := ho.attempt s phase
      grind
    · intro s hs
      rcases ho.held s hs with ⟨phase, hphase, hne⟩ | hshut
      · refine .inl ⟨phase, ?_, hne⟩
        rw [Outline.setAttempt_attempt, if_neg]
        · exact hphase
        · intro heq
          subst heq
          exact absurd (idle.symm.trans hphase) (by simp)
      · exact .inr hshut
  | attempt h turn => exact guarded_attempt within ho h turn
  | mount h idle turn => exact guarded_mount ho h idle turn
  | still own => exact ho

/-! ## Runs -/

theorem guarded_run {p : Process} {labels : List Label} {w : World} {events : List Event}
    (h : run setup labels ⟨p, {}⟩ = some (w, events)) : Guarded w.outline :=
  outline_induction (P := fun _ o => Guarded o) (guarded_start p.registry)
    (fun _ v _ _ _ _ _ hv _ hmove => guarded_move (outline_within v) hv hmove) h

/-- Two attempts past the gate are by the same thread. -/
theorem eq_of_past_gate {o : Outline} (ho : Guarded o) {r s : Role} {phase phase' : UnmountPhase}
    (hr : o.attempt r = some phase) (hs : o.attempt s = some phase') (hphase : phase ≠ .atGate)
    (hphase' : phase' ≠ .atGate) : r = s :=
  Option.some.inj ((ho.attempt r phase hr hphase).symm.trans (ho.attempt s phase' hs hphase'))

end HostedFs.Host
