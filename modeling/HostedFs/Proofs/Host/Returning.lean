import HostedFs.Proofs.Host.Course
import HostedFs.Proofs.Host.Obstacles

/-! # Calls to mount can return

    No call to mount is ever stuck: from every world that a run reaches, some
    further steps lead to its return. The steps are those of the call and of
    the threads that it waits for, one after another: whoever holds a lock gives
    it back at once, an attempt to unmount is over once the native side has
    answered, and a listener that was told to stop ends.

    * `Leads`: some steps lead to a world with a property.
    * `leads_to_free`, `leads_to_open`: a lock is given back, the gate is opened.
    * `leads_to_end_of_attempt`, `leads_to_exit`: an attempt to unmount ends, a
      listener ends.
    * `step_of_clear`: a call to mount that nothing blocks goes on at once.
    * `leads_to_cleared`: what blocks a thread is got out of its way.
    * `can_return`: a call to mount returns.
-/

namespace HostedFs.Host

variable {setup : Setup}

/-! ## Leading to a world -/

/-- A run of a host in a process where nobody holds the lock of the bridge leads
    to the world. -/
def Reached (setup : Setup) (w : World) : Prop :=
  ∃ p labels events, p.bridgeLock = none ∧ run setup labels ⟨p, {}⟩ = some (w, events)

/-- Some steps lead from the world to one with the property. -/
def Leads (setup : Setup) (w : World) (P : World → Prop) : Prop :=
  ∃ labels v events, run setup labels w = some (v, events) ∧ P v

section reached

variable {w v : World} (hw : Reached setup w)

include hw

theorem Reached.run {labels : List Label} {events : List Event}
    (h : Host.run setup labels w = some (v, events)) : Reached setup v := by
  obtain ⟨p, before, early, hp, hbefore⟩ := hw
  exact ⟨p, before ++ labels, early ++ events, hp,
    run_append.mpr ⟨w, early, events, hbefore, h, rfl⟩⟩

theorem Reached.numbered : Numbered w := by
  obtain ⟨p, labels, events, -, h⟩ := hw
  exact numbered_run h

theorem Reached.locked : Locked setup w := by
  obtain ⟨p, labels, events, hp, h⟩ := hw
  exact locked_run hp h

theorem Reached.attended : Attended w := by
  obtain ⟨p, labels, events, -, h⟩ := hw
  exact attended_run h

theorem Reached.guarded : Guarded w.outline := by
  obtain ⟨p, labels, events, -, h⟩ := hw
  exact guarded_run h

end reached

theorem Leads.here {w : World} {P : World → Prop} (h : P w) : Leads setup w P :=
  ⟨[], w, [], rfl, h⟩

theorem Leads.of_step {w v : World} {P : World → Prop} {label : Label} {events : List Event}
    (h : step setup label w = some (v, events)) (hv : P v) : Leads setup w P :=
  ⟨[label], v, events, run_singleton.mpr h, hv⟩

theorem Leads.mono {w : World} {P Q : World → Prop} (h : Leads setup w P)
    (hpq : ∀ v, P v → Q v) : Leads setup w Q := by
  obtain ⟨labels, v, events, hrun, hv⟩ := h
  exact ⟨labels, v, events, hrun, hpq v hv⟩

theorem Leads.trans {w : World} {P Q : World → Prop} (h : Leads setup w P)
    (hw : Reached setup w) (next : ∀ v, Reached setup v → P v → Leads setup v Q) :
    Leads setup w Q := by
  obtain ⟨labels, v, events, hrun, hv⟩ := h
  obtain ⟨more, u, late, hmore, hu⟩ := next v (hw.run hrun) hv
  exact ⟨labels ++ more, u, events ++ late, run_append.mpr ⟨v, events, late, hrun, hmore, rfl⟩, hu⟩

theorem Leads.after_step {w v : World} {P : World → Prop} {label : Label} {events : List Event}
    (hw : Reached setup w) (h : step setup label w = some (v, events))
    (next : Reached setup v → Leads setup v P) : Leads setup w P := by
  have hone : Leads setup w fun u => u = v := .of_step h rfl
  refine hone.trans hw ?_
  intro _ hv heq
  subst heq
  exact next hv

/-! ## Threads that stay meanwhile -/

theorem Stays.refl (w : World) (s : Role) : Stays w w s := by
  cases s with
  | mount n => exact fun _ => id
  | unmount n => exact fun _ => id
  | listener n => exact fun l hl => ⟨l, hl, .inl rfl⟩

/-- A thread that holds no lock and stays where it is holds none afterwards. -/
theorem Stays.chain {w v u : World} {s : Role} (h : Stays w v s)
    (hs : holds? w.host s = none) (h' : holds? v.host s = none → Stays v u s) :
    Stays w u s := by
  cases s with
  | mount n =>
    intro c hc
    have hv := h c hc
    refine h' ?_ c hv
    simpa [holds?, hc, hv] using hs
  | unmount n =>
    intro call hcall
    have hv := h call hcall
    refine h' ?_ call hv
    simpa [holds?, hcall, hv] using hs
  | listener n =>
    intro l hl
    obtain ⟨l', hl', hsame⟩ := h l hl
    have hnone : holds? v.host (.listener n) = none := by
      rcases hsame with rfl | rfl <;> simpa [holds?, hl, hl'] using hs
    exact (h.trans (h' hnone)) l hl

theorem attempt?_of_stays {w v : World} {s : Role} {phase : UnmountPhase} (h : Stays w v s)
    (hs : attempt? w.host s = some phase) : attempt? v.host s = some phase := by
  cases s with
  | mount n =>
    rw [attempt?_mount] at hs ⊢
    obtain ⟨c, hc, hphase⟩ := Option.bind_eq_some_iff.mp hs
    exact Option.bind_eq_some_iff.mpr ⟨c, h c hc, hphase⟩
  | unmount n =>
    rw [attempt?_unmount] at hs ⊢
    obtain ⟨call, hcall, hphase⟩ := Option.bind_eq_some_iff.mp hs
    exact Option.bind_eq_some_iff.mpr ⟨call, h call hcall, hphase⟩
  | listener n =>
    rw [attempt?_listener] at hs ⊢
    obtain ⟨l, hl, hphase⟩ := Option.bind_eq_some_iff.mp hs
    obtain ⟨l', hl', rfl | rfl⟩ := h l hl
    · exact Option.bind_eq_some_iff.mpr ⟨_, hl', hphase⟩
    · exact Option.bind_eq_some_iff.mpr ⟨_, hl', hphase⟩

/-- A thread that makes an attempt holds the lock that the attempt holds. -/
theorem holds?_of_attempt {host : Host} {r : Role} {phase : UnmountPhase}
    (h : attempt? host r = some phase) : holds? host r = phase.holds? := by
  cases attempts_of_attempt? h with
  | mount hc called hp => cases called <;> simp [holds?, hc, hp, MountPhase.holds?]
  | unmount hcall => simp [holds?, hcall, UnmountCall.holds?]
  | listener hl hp => simp [holds?, hl, hp, ListenerPhase.holds?]

/-! ## Locks are given back -/

/-- Whoever holds a lock gives it back, and nobody else moves. -/
theorem leads_to_free {w : World} (hw : Reached setup w) (lock : Lock) :
    Leads setup w fun v => v.holder setup lock = none ∧
      ∀ s, holds? w.host s = none → Stays w v s := by
  cases h : w.holder setup lock with
  | none => exact .here ⟨h, fun s _ => Stays.refl w s⟩
  | some holder =>
    obtain ⟨r, rfl, hr⟩ := hw.locked lock holder h
    obtain ⟨v, events, hstep⟩ : ∃ v events, step setup (.act r .go) w = some (v, events) :=
      step_of_holds hr
    have hturns := step_turns hw.numbered hstep
    refine .of_step hstep ⟨hturns.released lock hr, fun s hs => hturns.others s ?_⟩
    intro heq
    subst heq
    exact absurd (hs.symm.trans hr) (by simp)

/-! ## Attempts to unmount end -/

/-- While a thread goes on with an attempt to unmount, the outlines of the calls to
    mount stay, and so do the threads that nobody waits for. -/
structure Onward (r : Role) (w v : World) : Prop where
  own : ∀ n, r = .mount n → v.outline.mounts n = w.outline.mounts n
  others : ∀ s, s ≠ r → holds? w.host s = none → w.host.gate ≠ some s → Stays w v s

theorem Onward.trans {r : Role} {w v u : World} (h : Onward r w v) (h' : Onward r v u)
    (hgate : v.host.gate = none ∨ v.host.gate = some r) : Onward r w u where
  own n hr := (h'.own n hr).trans (h.own n hr)
  others s hsr hs hgated := by
    refine (h.others s hsr hs hgated).chain hs fun hv => h'.others s hsr hv ?_
    rcases hgate with hopen | hheld
    · rw [hopen]
      simp
    · rw [hheld]
      exact fun heq => hsr (Option.some.inj heq).symm

/-- A thread that makes an attempt and holds no lock stays while a lock is freed. -/
theorem onward_of_stays {r : Role} {w v : World} {phase : UnmountPhase}
    (hr : attempt? w.host r = some phase)
    (h : ∀ s, holds? w.host s = none → w.host.gate ≠ some s → Stays w v s)
    (hstays : Stays w v r) : Onward r w v := by
  refine ⟨?_, fun s _ => h s⟩
  intro n heq
  subst heq
  rw [attempt?_mount] at hr
  obtain ⟨c, hc, -⟩ := Option.bind_eq_some_iff.mp hr
  rw [outline_mounts hc, outline_mounts (hstays c hc)]

/-- What an attempt can do next, its thread does. -/
theorem leads_to_next {w u : World} {r : Role} {phase : UnmountPhase} {input : Input}
    {call : UnmountCall} {told : List Event} (hw : Reached setup w)
    (hr : attempt? w.host r = some phase)
    (hnext : unmountStep r phase input w = some (call, u, told)) :
    Leads setup w fun v => attempt? v.host r = call.attempt? ∧ Onward r w v ∧
      AttemptTurn r phase input w.outline v.outline := by
  obtain ⟨v, events, hstep, hattempt, -⟩ :
      ∃ v events, step setup (.act r input) w = some (v, events) ∧
        attempt? v.host r = call.attempt? ∧ v.host.record = u.host.record :=
    step_of_unmountStep hr hnext
  have turn : AttemptTurn r phase input w.outline v.outline :=
    (step_move hw.numbered hstep).turn hr
  refine .of_step hstep ⟨hattempt, ⟨fun n _ => congrFun turn.mounts_eq n, ?_⟩, turn⟩
  intro s hsr _ _
  exact (step_turns hw.numbered hstep).others s hsr

/-- The number of steps that an attempt past the gate may still take. -/
def UnmountPhase.rest : UnmountPhase → Nat
  | .atGate => 6
  | .checking held => if held then 4 else 5
  | .calling .. => 3
  | .restoring _ held => if held then 1 else 2
  | .leaving _ => 0

/-- An attempt past the gate is over and the gate is open, or it has come further. -/
def Later (r : Role) (phase : UnmountPhase) (v : World) : Prop :=
  (attempt? v.host r = none ∧ v.host.gate = none) ∨
    ∃ next, attempt? v.host r = some next ∧ next ≠ .atGate ∧ next.rest < phase.rest

theorem leads_to_later {w : World} {r : Role} {phase : UnmountPhase} (hw : Reached setup w)
    (hr : attempt? w.host r = some phase) (hpast : phase ≠ .atGate) :
    Leads setup w fun v => Onward r w v ∧ Later r phase v := by
  have hgoes (next : UnmountPhase) (hne : next ≠ .atGate) (hless : next.rest < phase.rest)
      {input : Input} {u : World} {told : List Event}
      (hnext : unmountStep r phase input w = some (.running next, u, told)) :
      Leads setup w fun v => Onward r w v ∧ Later r phase v := by
    refine (leads_to_next hw hr hnext).mono ?_
    intro v hcome
    obtain ⟨hv, hwv, -⟩ := hcome
    exact ⟨hwv, .inr ⟨next, hv, hne, hless⟩⟩
  -- Before it looks at the record it waits until that is free.
  have hwaits (next : UnmountPhase) (hnone : phase.holds? = none) (hne : next ≠ .atGate)
      (hless : next.rest < phase.rest) (hnext : ∀ v : World, v.host.recordLock = none →
        ∃ u, unmountStep r phase .go v = some (.running next, u, [])) :
      Leads setup w fun v => Onward r w v ∧ Later r phase v := by
    refine (leads_to_free hw .record).trans hw ?_
    intro v hv hcome
    obtain ⟨hfree, hstays⟩ := hcome
    have hrnone : holds? w.host r = none := (holds?_of_attempt hr).trans hnone
    have hvr := attempt?_of_stays (hstays r hrnone) hr
    have honward : Onward r w v := onward_of_stays hr (fun s hs _ => hstays s hs) (hstays r hrnone)
    have hlock : v.host.recordLock = none := by simpa [World.holder] using hfree
    obtain ⟨u, hu⟩ := hnext v hlock
    refine (leads_to_next hv hvr hu).mono ?_
    intro x hcome
    obtain ⟨hx, hvx, -⟩ := hcome
    refine ⟨?_, .inr ⟨next, hx, hne, hless⟩⟩
    exact honward.trans hvx (.inr (hv.guarded.attempt r phase hvr hpast))
  cases phase with
  | atGate => exact absurd rfl hpast
  | checking held =>
    cases held with
    | false =>
      apply hwaits (.checking true) rfl (by simp) (by decide)
      intro v hfree
      simp [unmountStep, World.lockRecord, hfree]
    | true =>
      by_cases hstate : w.host.record.state = .mounted
      · exact hgoes _ (by simp) (by simp [UnmountPhase.rest]) (unmountStep_claim r hstate)
      · exact hgoes _ (by simp) (by decide) (unmountStep_refuse r hstate)
  | calling session mountpoint =>
    have hnext : unmountStep r (.calling session mountpoint) (.answered true) w =
        some (.running (.leaving true), w, []) := rfl
    exact hgoes _ (by simp) (by simp [UnmountPhase.rest]) hnext
  | restoring mountpoint held =>
    cases held with
    | false =>
      apply hwaits (.restoring mountpoint true) rfl (by simp) (by simp [UnmountPhase.rest])
      intro v hfree
      simp [unmountStep, World.lockRecord, hfree]
    | true =>
      obtain ⟨u, told, hnext⟩ : ∃ u told, unmountStep r (.restoring mountpoint true) .go w =
          some (.running (.leaving false), u, told) := ⟨_, _, rfl⟩
      exact hgoes _ (by simp) (by simp [UnmountPhase.rest]) hnext
  | leaving result =>
    have hnext : unmountStep r (.leaving result) .go w =
        some (.finished result, w.unlockGate, []) := rfl
    refine (leads_to_next hw hr hnext).mono ?_
    intro v hcome
    obtain ⟨hv, hwv, turn⟩ := hcome
    refine ⟨hwv, .inl ⟨hv, ?_⟩⟩
    show v.outline.gate = none
    generalize v.outline = o' at turn
    cases turn with
    | leave => rfl

/-- An attempt past the gate ends and opens the gate. -/
theorem leads_to_end_past_gate {w : World} {r : Role} {phase : UnmountPhase}
    (hw : Reached setup w) (hr : attempt? w.host r = some phase) (hpast : phase ≠ .atGate) :
    Leads setup w fun v =>
      attempt? v.host r = none ∧ v.host.gate = none ∧ Onward r w v := by
  induction hrest : phase.rest using Nat.strongRecOn generalizing w phase with
  | ind rest ih =>
    subst hrest
    refine (leads_to_later hw hr hpast).trans hw ?_
    intro v hv hcome
    obtain ⟨hwv, hend⟩ := hcome
    -- The induction is on the steps that the attempt may still take.
    rcases hend with ⟨hnone, hopen⟩ | ⟨next, hnext, hne, hless⟩
    · exact .here ⟨hnone, hopen, hwv⟩
    · refine (ih next.rest hless hv hnext hne rfl).mono ?_
      intro u hcome
      obtain ⟨hnone, hopen, hvu⟩ := hcome
      exact ⟨hnone, hopen, hwv.trans hvu (.inr (hv.guarded.attempt r next hnext hne))⟩

/-- A thread that makes no attempt past the gate and is not about to give the gate
    back does not hold it. -/
theorem Reached.gate_ne {w : World} (hw : Reached setup w) {r : Role}
    (hattempt : ∀ phase, attempt? w.host r = some phase → phase = .atGate)
    (hcall : ∀ n c status, r = .mount n → w.host.mounts n = some c →
      c.phase ≠ .gating status true) : w.host.gate ≠ some r := by
  intro hheld
  rcases hw.guarded.held r hheld with ⟨phase, hphase, hne⟩ | ⟨n, c, status, rfl, hc, hphase⟩
  · exact hne (hattempt phase hphase)
  · exact hcall n c status rfl (mounts_of_outline hc (by rw [hphase]; rfl)) hphase

/-- The gate opens, and threads that hold nothing stay where they are. -/
theorem leads_to_open {w : World} (hw : Reached setup w) :
    Leads setup w fun v => v.host.gate = none ∧
      ∀ s, holds? w.host s = none → w.host.gate ≠ some s → Stays w v s := by
  cases hgate : w.host.gate with
  | none => exact .here ⟨hgate, fun s _ _ => Stays.refl w s⟩
  | some r =>
    have hother {s : Role} (hs : some r ≠ some s) : s ≠ r := fun heq => hs (congrArg some heq.symm)
    rcases hw.guarded.held r hgate with ⟨phase, hr, hpast⟩ | ⟨n, c, status, rfl, hc, hphase⟩
    · -- An attempt to unmount is past the gate.
      refine (leads_to_end_past_gate hw hr hpast).mono ?_
      intro v hcome
      obtain ⟨-, hopen, hwv⟩ := hcome
      refine ⟨hopen, ?_⟩
      intro s hs hgated
      exact hwv.others s (hother hgated) hs (by rwa [hgate])
    · -- A call to mount is about to open the gate again.
      have hcall : w.host.mounts n = some c := mounts_of_outline hc (by rw [hphase]; rfl)
      obtain ⟨v, events, hstep, hopen⟩ : ∃ v events,
          step setup (.act (.mount n) .go) w = some (v, events) ∧ v.host.gate = none := by
        simp [step, hcall, mountStep, hphase, World.unlockGate, World.putMount]
      refine .of_step hstep ⟨hopen, fun s _ hgated => ?_⟩
      exact (step_turns hw.numbered hstep).others s (hother hgated)

/-- An attempt to unmount ends. -/
theorem leads_to_end_of_attempt {w : World} {r : Role} {phase : UnmountPhase}
    (hw : Reached setup w) (hr : attempt? w.host r = some phase) :
    Leads setup w fun v => attempt? v.host r = none ∧ Onward r w v := by
  by_cases hpast : phase = .atGate
  · subst hpast
    have hnone : holds? w.host r = none := holds?_of_attempt hr
    have hgated : w.host.gate ≠ some r := by
      refine hw.gate_ne (fun phase hphase => ?_) ?_
      · cases hr.symm.trans hphase
        rfl
      · intro n c status heq hc hphase
        subst heq
        rw [attempt?_mount, hc, Option.bind_some, hphase] at hr
        cases hr
    -- Whoever is past the gate goes first.
    refine (leads_to_open hw).trans hw ?_
    intro v hv hcome
    obtain ⟨hopen, hstays⟩ := hcome
    -- Meanwhile the thread was kept at the gate.
    have hrv : Stays w v r := hstays r hnone hgated
    have hwv : Onward r w v := onward_of_stays hr hstays hrv
    have hvr : attempt? v.host r = some .atGate := attempt?_of_stays hrv hr
    obtain ⟨u, told, hpass⟩ : ∃ u told,
        unmountStep r .atGate .go v = some (.running (.checking false), u, told) := by
      simp [unmountStep, World.lockGate, hopen]
    refine (leads_to_next hv hvr hpass).trans hv ?_
    intro x hx hcome
    obtain ⟨hxr, hvx, -⟩ := hcome
    have hheld : x.host.gate = some r := hx.guarded.attempt r _ hxr (by simp)
    refine (leads_to_end_past_gate hx hxr (by simp)).mono ?_
    intro y hcome
    obtain ⟨hend, -, hxy⟩ := hcome
    refine ⟨hend, ?_⟩
    exact (hwv.trans hvx (.inl hopen)).trans hxy (.inr hheld)
  · refine (leads_to_end_past_gate hw hr hpast).mono ?_
    intro v hcome
    obtain ⟨hend, -, hwv⟩ := hcome
    exact ⟨hend, hwv⟩

/-! ## Calls that wait -/

/-- A call to mount in the phase holds no lock, makes no attempt and does not hold
    the gate. -/
structure MountPhase.Rests (phase : MountPhase) : Prop where
  free : phase.holds? = none
  idle : phase.attempt? = none
  ungated : ∀ status, phase ≠ .gating status true

/-- Calls to mount that rest stay where they are. -/
def Resting (w v : World) : Prop :=
  ∀ n c, w.host.mounts n = some c → c.phase.Rests → v.host.mounts n = some c

theorem Resting.trans {w v u : World} (h : Resting w v) (h' : Resting v u) : Resting w u :=
  fun n c hc hrests => h' n c (h n c hc hrests) hrests

theorem resting_of_stays {w v : World} (hw : Reached setup w)
    (h : ∀ n, holds? w.host (.mount n) = none → w.host.gate ≠ some (.mount n) →
      Stays w v (.mount n)) : Resting w v := by
  intro n c hc hrests
  refine h n ?_ (hw.gate_ne ?_ ?_) c hc
  · simp [holds?, hc, hrests.free]
  · intro phase hphase
    rw [attempt?_mount, hc, Option.bind_some, hrests.idle] at hphase
    cases hphase
  · intro _ d status hnone hd
    cases hnone
    cases hc.symm.trans hd
    exact hrests.ungated status

/-! ## Listeners end -/

theorem Listener.Follows.trans {l l' l'' : Listener} (h : l.Follows l') (h' : l'.Follows l'') :
    l.Follows l'' where
  stopping hstop := h'.stopping (h.stopping hstop)
  ready hfits said hsaid := h'.ready (h.fits hfits) said (h.ready hfits said hsaid)
  fits hfits := h'.fits (h.fits hfits)

/-- What a listener was told and has said stays in the course of a run. -/
theorem Leads.listener {w : World} {P : World → Prop} (h : Leads setup w P)
    (hw : Reached setup w) {k : Nat} {l : Listener} (hl : w.host.listeners k = some l) :
    Leads setup w fun v => P v ∧ ∃ l', v.host.listeners k = some l' ∧ l.Follows l' := by
  obtain ⟨labels, v, events, hrun, hv⟩ := h
  refine ⟨labels, v, events, hrun, hv, ?_⟩
  obtain ⟨p, before, early, -, hbefore⟩ := hw
  refine induction_from hbefore
    (P := fun _ v _ => ∃ l', v.host.listeners k = some l' ∧ l.Follows l') ?_ ?_ hrun
  · exact ⟨l, hl, id, fun _ _ => id, id⟩
  · intro labels x mid label y told hx ih hstep _
    obtain ⟨l', hl', hfollows⟩ := ih
    obtain ⟨l'', hl'', hfollows'⟩ := step_listener (numbered_run hx) hstep hl'
    exact ⟨l'', hl'', hfollows.trans hfollows'⟩

section exit

variable {w : World} {k : Nat} {l : Listener} (hw : Reached setup w)
  (hl : w.host.listeners k = some l)

include hw

theorem resting_of_listener {v : World} {input : Input} {events : List Event}
    (h : step setup (.act (.listener k) input) w = some (v, events)) : Resting w v :=
  resting_of_stays hw fun n _ _ => (step_turns hw.numbered h).others (.mount n) (by simp)

include hl

theorem leads_to_exit_of_closing {held : Bool} (hp : l.phase = .closing held) :
    Leads setup w fun v =>
      (∃ l', v.host.listeners k = some l' ∧ l'.phase = .exited) ∧ Resting w v := by
  -- With the bridge in its hands, the listener exits by its next step.
  have hlast {v : World} {l' : Listener} (hv : Reached setup v)
      (hl' : v.host.listeners k = some l') (hp' : l'.phase = .closing true) :
      Leads setup v fun u =>
        (∃ l', u.host.listeners k = some l' ∧ l'.phase = .exited) ∧ Resting v u := by
    obtain ⟨u, events, hstep, hexit⟩ : ∃ u events,
        step setup (.act (.listener k) .go) v = some (u, events) ∧
          ∃ l', u.host.listeners k = some l' ∧ l'.phase = .exited := by
      simp [step, hl', listenerStep, hp', World.putListener]
    exact .of_step hstep ⟨hexit, resting_of_listener hv hstep⟩
  cases held with
  | true => exact hlast hw hl hp
  | false =>
    -- The bridge is freed first, which moves nobody who holds nothing.
    refine (leads_to_free hw .bridge).trans hw ?_
    intro v hv hcome
    obtain ⟨hfree, hstays⟩ := hcome
    have hwv : Resting w v := resting_of_stays hw fun n hn _ => hstays (.mount n) hn
    obtain ⟨l', hl', hp'⟩ : ∃ l', v.host.listeners k = some l' ∧ l'.phase = .closing false := by
      have hnone : holds? w.host (.listener k) = none := by
        simp [holds?, hl, hp, ListenerPhase.holds?]
      obtain ⟨l', hl', rfl | rfl⟩ := hstays (.listener k) hnone l hl
      · exact ⟨_, hl', hp⟩
      · exact ⟨_, hl', hp⟩
    have hlock : v.process.bridgeLock = none := hfree
    obtain ⟨u, events, hstep, l'', hl'', hp''⟩ : ∃ u events,
        step setup (.act (.listener k) .go) v = some (u, events) ∧
          ∃ l', u.host.listeners k = some l' ∧ l'.phase = .closing true := by
      simp [step, hl', listenerStep, hp', World.lockBridge, hlock, World.putListener]
    have hvu : Resting v u := resting_of_listener hv hstep
    refine .after_step hv hstep fun hu => ?_
    refine (hlast hu hl'' hp'').mono ?_
    intro x hcome
    obtain ⟨hexit, hux⟩ := hcome
    refine ⟨hexit, ?_⟩
    exact (hwv.trans hvu).trans hux

/-- A listener that makes no attempt ends once it was told to stop. -/
theorem leads_to_exit_of_stopping (hstopping : l.stopping)
    (hidle : ∀ phase, l.phase ≠ .calling phase) :
    Leads setup w fun v =>
      (∃ l', v.host.listeners k = some l' ∧ l'.phase = .exited) ∧ Resting w v := by
  -- A listener that waits learns that it has to stop, and closes.
  have hwaiting {v : World} {l' : Listener} (hv : Reached setup v)
      (hl' : v.host.listeners k = some l') (hp' : l'.phase = .waiting)
      (hstopping' : l'.stopping) : Leads setup v fun u =>
        (∃ l', u.host.listeners k = some l' ∧ l'.phase = .exited) ∧ Resting v u := by
    obtain ⟨u, events, hstep, l'', hl'', hp''⟩ : ∃ u events,
        step setup (.act (.listener k) .stop) v = some (u, events) ∧
          ∃ l', u.host.listeners k = some l' ∧ l'.phase = .closing false := by
      simp [step, hl', listenerStep, hp', hstopping', World.putListener]
    refine .after_step hv hstep fun hu => ?_
    refine (leads_to_exit_of_closing hu hl'' hp'').mono ?_
    intro x hcome
    obtain ⟨hexit, hux⟩ := hcome
    refine ⟨hexit, ?_⟩
    exact (resting_of_listener hv hstep).trans hux
  cases hp : l.phase with
  -- One that starts says so, and waits.
  | starting =>
    obtain ⟨v, events, hstep, l', hl', hp', hstopping'⟩ : ∃ v events,
        step setup (.act (.listener k) .go) w = some (v, events) ∧
          ∃ l', v.host.listeners k = some l' ∧ l'.phase = .waiting ∧ l'.stopping := by
      simp [step, hl, listenerStep, hp, hstopping, World.putListener]
    refine .after_step hw hstep fun hv => ?_
    refine (hwaiting hv hl' hp' hstopping').mono ?_
    intro x hcome
    obtain ⟨hexit, hvx⟩ := hcome
    refine ⟨hexit, ?_⟩
    exact (resting_of_listener hw hstep).trans hvx
  | waiting => exact hwaiting hw hl hp hstopping
  | calling phase => exact absurd hp (hidle phase)
  | closing held => exact leads_to_exit_of_closing hw hl hp
  | exited => exact .here ⟨⟨l, hl, hp⟩, fun _ _ hc _ => hc⟩

/-- A listener ends once it was told to stop, or has said that it is not ready. -/
theorem leads_to_exit (hends : l.stopping ∨ ∃ error, l.ready = some (.error error)) :
    Leads setup w fun v =>
      (∃ l', v.host.listeners k = some l' ∧ l'.phase = .exited) ∧ Resting w v := by
  rcases hends with hstopping | ⟨error, hfailed⟩
  · cases hp : l.phase with
    | calling phase =>
      -- The attempt that it makes for a signal ends first.
      have hattempt : attempt? w.host (.listener k) = some phase := by
        rw [attempt?_listener, hl, Option.bind_some, hp]
        rfl
      refine ((leads_to_end_of_attempt hw hattempt).listener hw hl).trans hw ?_
      intro v hv hcome
      obtain ⟨⟨hnone, honward⟩, l', hl', hfollows⟩ := hcome
      have hwv : Resting w v :=
        resting_of_stays hw fun n hn hgated => honward.others (.mount n) (by simp) hn hgated
      have hidle : ∀ phase, l'.phase ≠ .calling phase := by
        intro phase' hp'
        rw [attempt?_listener, hl', Option.bind_some, hp'] at hnone
        cases hnone
      refine (leads_to_exit_of_stopping hv hl' (hfollows.stopping hstopping) hidle).mono ?_
      exact fun u ⟨hexit, hvu⟩ => ⟨hexit, hwv.trans hvu⟩
    | _ => exact leads_to_exit_of_stopping hw hl hstopping (by simp [hp])
  · rcases (hw.attended.fits k l hl).failed error hfailed with ⟨held, hp⟩ | hp
    · exact leads_to_exit_of_closing hw hl hp
    · exact .here ⟨⟨l, hl, hp⟩, fun _ _ hc _ => hc⟩

end exit

/-! ## A call to mount goes on -/

/-- The number of steps that the arming of a listener may still take. -/
def ArmPhase.rest : ArmPhase → Nat
  | .registering held => if held then 8 else 9
  | .spawning _ => 7
  | .abandoning _ _ held => if held then 5 else 6
  | .awaiting _ => 4
  | .joining .. => 3
  | .storing _ held => if held then 1 else 2

/-- The number of steps that a call to mount may still take if the native loop
    calls for nothing more. -/
def MountPhase.rest : MountPhase → Nat
  | .claiming held => if held then 38 else 39
  | .preparing => 37
  | .naming _ held => if held then 35 else 36
  | .registering => 34
  | .starting _ held => if held then 32 else 33
  | .arming phase => 20 + phase.rest
  | .initializing call => if call.isSome then 20 else 19
  | .destroying call => if call.isSome then 18 else 17
  | .disarming held => if held then 15 else 16
  | .closing held => if held then 13 else 14
  | .running => 12
  | .taking _ held => if held then 10 else 11
  | .joining .. => 9
  | .gating _ held => if held then 7 else 8
  | .releasing _ => 6
  | .resetting _ held => if held then 4 else 5
  | .returned _ => 0

/-- A call to mount has come further. -/
def Further (n : Nat) (phase : MountPhase) (v : World) : Prop :=
  ∃ c, v.host.mounts n = some c ∧ c.phase.rest < phase.rest

section calls

variable {w : World} {n : Nat} {c : MountCall} (hc : w.host.mounts n = some c)

include hc

theorem step_of_waits {lock : Lock} (hwaits : c.phase.waits? = some lock)
    (hfree : w.holder setup lock = none) :
    ∃ v events, step setup (.act (.mount n) .go) w = some (v, events) ∧ Further n c.phase v := by
  cases hp : c.phase with
  -- One case for each phase that begins with a lock; the lock is free, so it is taken.
  | claiming held | naming _ held | starting _ held | closing held | resetting _ held =>
    rw [hp] at hwaits
    cases held <;> cases hwaits
    have hlock : w.host.recordLock = none := by simpa [World.holder] using hfree
    simp [step, hc, mountStep, hp, World.lockRecord, hlock, World.putMount, Further,
      MountPhase.rest]
  | disarming held | taking _ held =>
    rw [hp] at hwaits
    cases held <;> cases hwaits
    have hlock : w.host.listenerLock = none := by simpa [World.holder] using hfree
    simp [step, hc, mountStep, hp, World.lockListener, hlock, World.putMount, Further,
      MountPhase.rest]
  | arming phase =>
    rw [hp] at hwaits
    cases phase with
    | registering held | abandoning _ _ held =>
      cases held <;> cases hwaits
      have hlock : w.process.bridgeLock = none := hfree
      simp [step, hc, mountStep, hp, armStep, World.lockBridge, hlock, World.putMount, Further,
        MountPhase.rest, ArmPhase.rest]
    | storing _ held =>
      cases held <;> cases hwaits
      have hlock : w.host.listenerLock = none := by simpa [World.holder] using hfree
      simp [step, hc, mountStep, hp, armStep, World.lockListener, hlock, World.putMount, Further,
        MountPhase.rest, ArmPhase.rest]
    | _ => cases hwaits
  | _ =>
    rw [hp] at hwaits
    cases hwaits

/-- A call to mount that holds a lock goes on at once. -/
theorem step_of_ready {lock : Lock} (hholds : c.phase.holds? = some lock)
    (hidle : c.phase.attempt? = none) :
    ∃ v events, step setup (.act (.mount n) .go) w = some (v, events) ∧ Further n c.phase v := by
  cases hp : c.phase with
  -- One case for each phase that ends with a lock; the lock says that the phase is past it.
  | claiming held =>
    rw [hp] at hholds
    cases held <;> cases hholds
    by_cases hstate : w.host.record.state = .unmounted <;>
      simp [step, hc, mountStep, hp, hstate, World.putMount, Further, MountPhase.rest]
  | naming _ held | closing held | resetting _ held | disarming held =>
    rw [hp] at hholds
    cases held <;> cases hholds
    simp [step, hc, mountStep, hp, World.putMount, World.unlockListener, Further, MountPhase.rest]
  | starting _ held =>
    rw [hp] at hholds
    cases held <;> cases hholds
    cases hlistens : setup.listens <;>
      simp [step, hc, mountStep, hp, hlistens, World.putMount, Further, MountPhase.rest,
        ArmPhase.rest]
  | taking _ held =>
    rw [hp] at hholds
    cases held <;> cases hholds
    cases hl : w.host.listener <;>
      simp [step, hc, mountStep, hp, hl, World.putMount, Further, MountPhase.rest]
  | arming phase =>
    rw [hp] at hholds
    cases phase with
    | registering held =>
      cases held <;> cases hholds
      rcases hregister : w.process.bridge.register (setup.number, w.host.nextListener)
        fun _ => none with ⟨bridge, _ | slot⟩ <;>
        simp [step, hc, mountStep, hp, armStep, hregister, World.putMount, Further,
          MountPhase.rest, ArmPhase.rest]
    | abandoning _ _ held | storing _ held =>
      cases held <;> cases hholds
      simp [step, hc, mountStep, hp, armStep, World.putMount, Further, MountPhase.rest,
        ArmPhase.rest]
    | _ => cases hholds
  | initializing call | destroying call =>
    rw [hp] at hholds hidle
    cases call with
    | none => cases hholds
    | some phase => cases hidle
  | _ =>
    rw [hp] at hholds
    cases hholds

end calls

/-- A call to mount that makes no attempt and has nothing in its way goes on at
    once, with the right input. -/
theorem step_of_clear {w : World} {n : Nat} {c : MountCall} (hw : Reached setup w)
    (hc : w.host.mounts n = some c) (hphase : ∀ error, c.phase ≠ .returned error)
    (hidle : c.phase.attempt? = none)
    (hclear : ∀ o, c.phase.obstacle? = some o → o.Cleared setup w) :
    ∃ input v events, step setup (.act (.mount n) input) w = some (v, events) ∧
      Further n c.phase v := by
  obtain ⟨phase, hp⟩ : ∃ phase, c.phase = phase := ⟨_, rfl⟩
  rw [hp] at hclear
  cases phase with
  | returned error => exact absurd hp (hphase error)
  | claiming held | naming _ held | starting _ held | closing held | resetting _ held
  | disarming held | taking _ held =>
    cases held with
    | false => exact ⟨.go, step_of_waits hc (by rw [hp]; rfl) (hclear _ rfl)⟩
    | true => exact ⟨.go, step_of_ready hc (by rw [hp]; rfl) hidle⟩
  | preparing =>
    refine ⟨.prepared none, ?_⟩
    cases hnul : firstWithNul? (setup.settings.arguments c.mountpoint c.options) with
    | some arg => simp [step, hc, mountStep, hp, hnul, World.putMount, Further, MountPhase.rest]
    | none =>
      cases hname : mountpointOf setup.canonical
          (setup.settings.argumentsAfterName c.mountpoint c.options) <;>
        simp [step, hc, mountStep, hp, hnul, hname, World.putMount, Further, MountPhase.rest]
  | registering =>
    -- However many tokens are taken, one is free.
    obtain ⟨token, hfresh⟩ := w.process.registry.exists_lookup_eq_none
    refine ⟨.allocated token, ?_⟩
    simp [step, hc, mountStep, hp, hfresh, World.putMount, Further, MountPhase.rest]
  | running =>
    refine ⟨.loopReturned 0, ?_⟩
    simp [step, hc, mountStep, hp, World.putMount, Further, MountPhase.rest]
  | initializing call | destroying call =>
    obtain rfl : call = none := by simpa [hp, MountPhase.attempt?] using hidle
    refine ⟨.left, ?_⟩
    simp [step, hc, mountStep, hp, World.putMount, Further, MountPhase.rest]
  | gating status held =>
    refine ⟨.go, ?_⟩
    cases held with
    | false =>
      have hopen : w.host.gate = none := hclear _ rfl
      simp [step, hc, mountStep, hp, World.lockGate, hopen, World.putMount, Further,
        MountPhase.rest]
    | true =>
      simp [step, hc, mountStep, hp, World.putMount, World.unlockGate, Further, MountPhase.rest]
  | releasing status =>
    -- A call that comes here has a token.
    obtain ⟨token, htoken⟩ : ∃ token, c.token = some token := by
      obtain ⟨p, labels, events, -, h⟩ := hw
      have hcourse := (course_run h n).2 _ (outline_mounts hc)
      rw [outer_of_attempt?_none hidle, Course, hp] at hcourse
      obtain ⟨token, htoken, -⟩ := hcourse.2.registered
      exact ⟨token, htoken⟩
    refine ⟨.go, ?_⟩
    by_cases hstatus : status = 0 <;>
      simp [step, hc, mountStep, hp, htoken, hstatus, World.putMount, Further, MountPhase.rest]
  | joining status k =>
    obtain ⟨l, hl, hexited⟩ := hclear _ rfl
    refine ⟨.go, ?_⟩
    simp [step, hc, mountStep, hp, hl, hexited, World.putMount, Further, MountPhase.rest]
  | arming phase =>
    cases phase with
    | registering held | abandoning _ _ held | storing _ held =>
      cases held with
      | false => exact ⟨.go, step_of_waits hc (by rw [hp]; rfl) (hclear _ rfl)⟩
      | true => exact ⟨.go, step_of_ready hc (by rw [hp]; rfl) hidle⟩
    | spawning slot =>
      refine ⟨.go, ?_⟩
      simp [step, hc, mountStep, hp, armStep, World.putMount, World.putListener, Further,
        MountPhase.rest, ArmPhase.rest]
    | awaiting k =>
      obtain ⟨l, said, hl, hready⟩ := hclear _ rfl
      refine ⟨.go, ?_⟩
      cases said <;> simp [step, hc, mountStep, hp, armStep, hl, hready, World.putMount, Further,
        MountPhase.rest, ArmPhase.rest]
    | joining k error =>
      obtain ⟨l, hl, hexited⟩ := hclear _ rfl
      refine ⟨.go, ?_⟩
      simp [step, hc, mountStep, hp, armStep, hl, hexited, World.putMount, Further,
        MountPhase.rest, ArmPhase.rest]

theorem MountPhase.rests_of_obstacle {phase : MountPhase} {o : Obstacle}
    (h : phase.obstacle? = some o) (hidle : phase.attempt? = none) : phase.Rests where
  free := by
    cases hheld : phase.holds? with
    | none => rfl
    | some lock => exact absurd (h.symm.trans (obstacle?_of_holds hheld)) (by simp)
  idle := hidle
  ungated status := by
    rintro rfl
    cases h

/-- What is in the way of a thread is got out of it, and calls to mount that rest
    stay. -/
theorem leads_to_cleared {w : World} (hw : Reached setup w) {r : Role} {o : Obstacle}
    (h : obstacle? w.host r = some o) :
    Leads setup w fun v => o.Cleared setup v ∧ Resting w v := by
  cases o with
  | lock lock =>
    refine (leads_to_free hw lock).mono ?_
    intro v hcome
    obtain ⟨hfree, hstays⟩ := hcome
    exact ⟨hfree, resting_of_stays hw fun m hm _ => hstays (.mount m) hm⟩
  | gate =>
    refine (leads_to_open hw).mono ?_
    intro v hcome
    obtain ⟨hopen, hstays⟩ := hcome
    exact ⟨hopen, resting_of_stays hw fun m => hstays (.mount m)⟩
  | start k =>
    obtain ⟨l, hl⟩ := listener_of_start hw.attended h
    cases hready : l.ready with
    | some said => exact .here ⟨⟨l, said, hl, hready⟩, fun _ _ hc _ => hc⟩
    | none =>
      -- A listener that has not said whether it is ready is starting, and says so next.
      have hstarting := (hw.attended.fits k l hl).silent.mp hready
      obtain ⟨v, events, hstep, l', hl', hready'⟩ : ∃ v events,
          step setup (.act (.listener k) .go) w = some (v, events) ∧
            ∃ l', v.host.listeners k = some l' ∧ l'.ready = some (.ok ()) := by
        simp [step, hl, listenerStep, hstarting, World.putListener]
      exact .of_step hstep ⟨⟨l', _, hl', hready'⟩, resting_of_listener hw hstep⟩
  | exit k =>
    obtain ⟨l, hl, hends⟩ := listener_of_exit hw.attended h
    exact leads_to_exit hw hl hends

section forward

variable {w : World} {n : Nat} {c : MountCall} (hw : Reached setup w)
  (hc : w.host.mounts n = some c)

include hw hc

/-- A call whose implementation unmounts goes on once the attempt is over. -/
theorem leads_further_of_attempt {phase : UnmountPhase}
    (hattempt : c.phase.attempt? = some phase) : Leads setup w (Further n c.phase) := by
  have hr : attempt? w.host (.mount n) = some phase := by
    rw [attempt?_mount, hc, Option.bind_some, hattempt]
  refine (leads_to_end_of_attempt hw hr).mono ?_
  intro v hcome
  obtain ⟨hnone, honward⟩ := hcome
  -- Meanwhile no other step has moved the call: its outer phase is what it was.
  have hsame : v.outline.mounts n = some c.outer := by
    rw [honward.own n rfl, outline_mounts hc]
  obtain ⟨d, hd, houter⟩ := Option.map_eq_some_iff.mp hsame
  refine ⟨d, hd, ?_⟩
  rw [attempt?_mount, hd, Option.bind_some] at hnone
  have hphase : d.phase = c.phase.outer := by
    rw [outer_of_attempt?_none hnone] at houter
    rw [houter]
    rfl
  rw [hphase]
  cases hp : c.phase with
  | initializing call | destroying call =>
    obtain rfl : call = some phase := by simpa [hp, MountPhase.attempt?] using hattempt
    simp [MountPhase.outer, MountPhase.rest]
  | _ => simp [hp, MountPhase.attempt?] at hattempt

/-- A call to mount that has not returned goes on, now or after the threads that it
    waits for. -/
theorem leads_further (hphase : ∀ error, c.phase ≠ .returned error) :
    Leads setup w (Further n c.phase) := by
  cases hattempt : c.phase.attempt? with
  | some phase => exact leads_further_of_attempt hw hc hattempt
  | none =>
    cases hobstacle : c.phase.obstacle? with
    | none =>
      obtain ⟨input, v, events, hstep, hfurther⟩ :=
        step_of_clear hw hc hphase hattempt (by simp [hobstacle])
      exact .of_step hstep hfurther
    | some o =>
      have hr : obstacle? w.host (.mount n) = some o := by
        rw [obstacle?, hc, Option.bind_some, hobstacle]
      refine (leads_to_cleared hw hr).trans hw ?_
      intro v hv hcome
      obtain ⟨hcleared, hwv⟩ := hcome
      have hcv := hwv n c hc (MountPhase.rests_of_obstacle hobstacle hattempt)
      obtain ⟨input, u, events, hstep, hfurther⟩ :=
        step_of_clear hv hcv hphase hattempt (by simpa [hobstacle] using hcleared)
      exact .of_step hstep hfurther

end forward

/-- From every world that is reached, some steps lead to the return of a call to
    mount. -/
theorem can_return {w : World} {n : Nat} {c : MountCall} (hw : Reached setup w)
    (hc : w.host.mounts n = some c) :
    Leads setup w fun v => ∃ d error, v.host.mounts n = some d ∧ d.phase = .returned error := by
  induction hrest : c.phase.rest using Nat.strongRecOn generalizing w c with
  | ind rest ih =>
    subst hrest
    by_cases hreturned : ∃ error, c.phase = .returned error
    · obtain ⟨error, hphase⟩ := hreturned
      exact .here ⟨c, error, hc, hphase⟩
    · have hphase : ∀ error, c.phase ≠ .returned error := fun error heq => hreturned ⟨error, heq⟩
      refine (leads_further hw hc hphase).trans hw ?_
      intro v hv hcome
      obtain ⟨d, hd, hless⟩ := hcome
      exact ih d.phase.rest hless hv hd rfl

end HostedFs.Host
