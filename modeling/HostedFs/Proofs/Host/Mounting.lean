import HostedFs.Proofs.Host.Returning

/-! # Calls to mount

    A call to mount that finds the host in use leaves everything as it is. Any
    other claims the host, and whatever it comes to, it gives back what it has
    taken before it returns.

    * `returned_cases`: the step by which a call returns.
    * `mount_outcome`: what follows for all calls to mount of a run.
-/

namespace HostedFs.Host

variable {setup : Setup}

/-! ## What calls to mount come to -/

/-- The event loop of a call was entered, and its token is not taken back yet. -/
def MountPhase.entered : MountPhase → Bool
  | .claiming _ | .preparing | .naming .. | .registering | .resetting .. | .returned _ => false
  | _ => true

theorem entered_of_course {registry : Registry Nat} {given : List Input} {c : MountCall}
    (h : Course setup registry given c) (hphase : c.phase.entered) :
    Entered setup registry given c := by
  obtain ⟨mountpoint, options, phase, token⟩ := c
  cases phase with
  | claiming | preparing | naming | registering | resetting | returned => cases hphase
  | taking | joining | gating | releasing => exact h.2
  | _ => exact h

theorem mount_step_of_claiming {w : World} {n : Nat} {c : MountCall}
    (hc : w.host.mounts n = some c) (hphase : c.phase = .claiming true) :
    ∃ w', step setup (.act (.mount n) .go) w = some (w', []) ∧
      w'.process.registry = w.process.registry ∧
      if w.host.record.state = .unmounted then
        w'.host.mounts n = some { c with phase := .preparing } ∧
          w'.host.record = { w.host.record with state := .mounting }
      else
        w'.host.mounts n = some { c with phase := .returned (some .alreadyMounted) } ∧
          w'.host.record = w.host.record := by
  by_cases hstate : w.host.record.state = .unmounted
  · have hstep : step setup (.act (.mount n) .go) w =
        some ((w.setRecord { w.host.record with state := .mounting }).unlockRecord.putMount n
          { c with phase := .preparing }, []) := by
      simp [step, hc, mountStep, hphase, hstate]
    refine ⟨_, hstep, rfl, ?_⟩
    rw [if_pos hstate]
    exact ⟨if_pos rfl, rfl⟩
  · have hstep : step setup (.act (.mount n) .go) w =
        some (w.unlockRecord.putMount n { c with phase := .returned (some .alreadyMounted) },
          []) := by
      simp [step, hc, mountStep, hphase, hstate]
    refine ⟨_, hstep, rfl, ?_⟩
    rw [if_neg hstate]
    exact ⟨if_pos rfl, rfl⟩

/-- A call that has returned takes no steps. -/
theorem step_returned {w : World} {n : Nat} {c : MountCall} {error : Option HostError}
    (hc : w.host.mounts n = some c) (hphase : c.phase = .returned error) (input : Input) :
    step setup (.act (.mount n) input) w = none := by
  simp [step, hc, mountStep, hphase]

/-- A call returns by a step of its own. -/
theorem Progress.not_returned {c : MountCall} {phase phase' : MountPhase} {input : Input}
    (h : Progress setup c phase input phase') (error : Option HostError) :
    phase' ≠ .returned error := by
  cases h <;> simp

/-- The step by which a call returns refuses it, or makes the record idle after
    its token was taken back. -/
theorem returned_cases {p : Process} {labels : List Label} {v w : World}
    {early late : List Event} {n : Nat} {input : Input} {c : MountCall} {error : Option HostError}
    (hrun : run setup labels ⟨p, {}⟩ = some (v, early))
    (hstep : step setup (.act (.mount n) input) v = some (w, late))
    (hc : w.host.mounts n = some c) (hphase : c.phase = .returned error) :
    (error = some .alreadyMounted ∧ v.host.record.state ≠ .unmounted ∧
        inputs (.mount n) labels = [.go]) ∨
      (w.host.record = .idle ∧
        (∀ token, c.token = some token → w.process.registry.lookup token = none) ∧
        Ended (c.arguments setup) (inputs (.mount n) labels) error) := by
  have hmove := step_move (numbered_run hrun) hstep
  have hwc : w.outline.mounts n = some c := by
    rw [outline_mounts hc, outer_of_attempt?_none (by rw [hphase]; rfl)]
  cases hv : v.outline.mounts n with
  | none =>
    -- A call begins by a label of its own, not by a step.
    obtain ⟨_, _, heq, -⟩ := hmove.new_call hv hwc
    cases heq
  | some d =>
    have hcourse := (course_run hrun n).2 d hv
    rcases hmove.call_cases hv with ⟨hsame, -⟩ | ⟨_, heq, -, turn⟩
    · -- The call had returned before.
      cases hsame.symm.trans hwc
      have hcall := mounts_of_outline hv (by rw [hphase]; rfl)
      rw [step_returned hcall hphase] at hstep
      cases hstep
    · cases heq
      show (error = some .alreadyMounted ∧ v.outline.record.state ≠ .unmounted ∧ _) ∨
        (w.outline.record = .idle ∧
          (∀ token, c.token = some token → w.outline.registry.lookup token = none) ∧ _)
      generalize w.outline = o' at hwc turn
      cases turn with
      | progress hprogress =>
        rw [Outline.setMount_self] at hwc
        cases hwc
        exact absurd hphase (hprogress.not_returned error)
      | refuse hclaiming busy =>
        rw [Outline.setMount_self] at hwc
        cases hwc
        cases hphase
        rw [Course, hclaiming] at hcourse
        exact .inl ⟨rfl, busy, hcourse.1⟩
      | reset hresetting =>
        rw [Outline.setMount_self] at hwc
        cases hwc
        cases hphase
        rw [Course, hresetting] at hcourse
        exact .inr ⟨rfl, hcourse.2, hcourse.1⟩
      | start _ hnext =>
        rw [Outline.setMount_self] at hwc
        cases hwc
        rcases hnext with rfl | rfl <;> cases hphase
      | _ =>
        rw [Outline.setMount_self] at hwc
        cases hwc
        cases hphase

/-- What holds of all calls to mount in a run.

    At most one of them `owns` the host. A call that looks at the record (`claiming true`) claims
    the host if nothing is mounted; else it comes to `returned (some .alreadyMounted)` at once,
    with nothing changed and nothing asked of the native side. Any other call returns with the
    record `idle` and its token taken back, whatever it comes to (`Ended`). A call is `entered`
    only after the native side has prepared for it and its arguments were found clean, and its
    token is registered until the loop has returned (`Entered`). A record that says `unmounted`
    names no session and no mountpoint. And no call is stuck: as long as nobody else keeps the
    lock of the bridge, some further steps lead to its return. -/
theorem mount_outcome {p : Process} {labels : List Label} {w : World} {events : List Event}
    (h : run setup labels ⟨p, {}⟩ = some (w, events)) :
    (∀ n m c d, w.host.mounts n = some c → w.host.mounts m = some d → c.phase.owns →
      d.phase.owns → n = m) ∧
    (∀ n c, w.host.mounts n = some c → c.phase = .claiming true →
      inputs (.mount n) labels = [.go] ∧
      ∃ w', step setup (.act (.mount n) .go) w = some (w', []) ∧
        w'.process.registry = w.process.registry ∧
        if w.host.record.state = .unmounted then
          w'.host.mounts n = some { c with phase := .preparing } ∧
            w'.host.record = { w.host.record with state := .mounting }
        else
          w'.host.mounts n = some { c with phase := .returned (some .alreadyMounted) } ∧
            w'.host.record = w.host.record ∧
            ∀ input, step setup (.act (.mount n) input) w' = none) ∧
    (∀ n input w' told c error, step setup (.act (.mount n) input) w = some (w', told) →
      w'.host.mounts n = some c → c.phase = .returned error →
      (error = some .alreadyMounted ∧ w.host.record.state ≠ .unmounted ∧
          inputs (.mount n) labels = [.go]) ∨
        (w'.host.record = .idle ∧
          (∀ token, c.token = some token → w'.process.registry.lookup token = none) ∧
          Ended (c.arguments setup) (inputs (.mount n) labels) error)) ∧
    (∀ n c, w.host.mounts n = some c → c.phase.entered →
      Entered setup w.process.registry (inputs (.mount n) labels) c) ∧
    (w.host.record.state = .unmounted →
      w.host.record.session = .none ∧ w.host.record.mountpoint = none) ∧
    (p.bridgeLock = none → ∀ n c, w.host.mounts n = some c →
      ∃ more v late d error, run setup more w = some (v, late) ∧
        v.host.mounts n = some d ∧ d.phase = .returned error) := by
  have howned := owned_run h
  refine ⟨?_, ?_, ?_, ?_, ?_, ?_⟩
  · intro n m c d hc hd hcowns hdowns
    -- `Owned` speaks of outer calls, and being an owner does not depend on what is within.
    exact howned.unique n m _ _ (outline_mounts hc) (outline_mounts hd)
      (by rwa [MountCall.outer_owns]) (by rwa [MountCall.outer_owns])
  · intro n c hc hphase
    -- Until it looks at the record, a call has been given nothing but leave to go on.
    have hcourse := (course_run h n).2 _ (outline_mounts hc)
    rw [outer_of_attempt?_none (by rw [hphase]; rfl), Course, hphase] at hcourse
    refine ⟨hcourse.1, ?_⟩
    obtain ⟨w', hstep, hregistry, hw'⟩ := mount_step_of_claiming hc hphase
    refine ⟨w', hstep, hregistry, ?_⟩
    by_cases hstate : w.host.record.state = .unmounted
    · rw [if_pos hstate] at hw' ⊢
      exact hw'
    · rw [if_neg hstate] at hw' ⊢
      exact ⟨hw'.1, hw'.2, step_returned hw'.1 rfl⟩
  · intro n input w' told c error hstep hc hphase
    exact returned_cases h hstep hc hphase
  · intro n c hc hphase
    have hcourse := (course_run h n).2 _ (outline_mounts hc)
    have houter : c.outer.phase.entered := by
      obtain ⟨mountpoint, options, phase, token⟩ := c
      cases phase <;> first | rfl | cases hphase
    obtain ⟨hgiven, hclean, hregistered⟩ := entered_of_course hcourse houter
    exact ⟨hgiven, hclean, hregistered⟩
  · intro hunmounted
    have hidle : w.host.record = .idle := howned.idle hunmounted
    rw [hidle]
    exact ⟨rfl, rfl⟩
  · intro hp n c hc
    obtain ⟨more, v, late, hmore, d, error, hd, hphase⟩ := can_return ⟨p, labels, events, hp, h⟩ hc
    exact ⟨more, v, late, d, error, hmore, hd, hphase⟩

/-- A second call to mount looks at the record while the first one runs. -/
def untilRefusal : List Label :=
  mounting 0 ++ .mount 1 "/m" [] :: steps (.mount 1) [.go]

theorem mount_outcome_while_mounted :
    ∃ w events c w', run plain untilRefusal ⟨{}, {}⟩ = some (w, events) ∧
      w.host.record.state = .mounted ∧ w.host.mounts 0 = some c ∧
      Entered plain w.process.registry (inputs (.mount 0) untilRefusal) c ∧
      step plain (.act (.mount 1) .go) w = some (w', []) ∧
      w'.host.mounts 1 = some ⟨"/m", [], .returned (some .alreadyMounted), none⟩ ∧
      w'.host.record = w.host.record ∧
      ∃ more v late d error, run plain more w = some (v, late) ∧
        v.host.mounts 0 = some d ∧ d.phase = .returned error := by
  -- The first call runs its loop, and the second is about to look at the record.
  obtain ⟨w, events, hrun, hstate, hfirst, hsecond⟩ := exists_of_run plain untilRefusal ⟨{}, {}⟩
    (fun moved => moved.1.host.record.state = .mounted ∧
      (moved.1.host.mounts 0).map MountCall.phase = some .running ∧
      moved.1.host.mounts 1 = some ⟨"/m", [], .claiming true, none⟩) (by decide +kernel)
  obtain ⟨c, hc, hphase⟩ := Option.map_eq_some_iff.mp hfirst
  obtain ⟨-, hclaims, -, hentered, -, hreturns⟩ := mount_outcome hrun
  obtain ⟨-, w', hstep, -, hw'⟩ := hclaims 1 _ hsecond rfl
  have hbusy : ¬ w.host.record.state = .unmounted := by
    rw [hstate]
    nofun
  rw [if_neg hbusy] at hw'
  exact ⟨w, events, c, w', hrun, hstate, hc, hentered 0 c hc (by rw [hphase]; rfl), hstep,
    hw'.1, hw'.2.1, hreturns rfl 0 c hc⟩

end HostedFs.Host
