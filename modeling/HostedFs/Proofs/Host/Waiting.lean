import HostedFs.Proofs.Host.Minding
import HostedFs.Proofs.Host.Returning

/-! # Somebody can always go on

    A thread that is not done goes on unless something is in its way, or it is a
    listener that nobody wants anything of. Whoever is in the way of another is
    neither done nor such a listener. And no threads wait for each other in a
    circle. So, as long as one of them is not done, there is one that can go on.

    * `Unfinished`, `CanGo`: a thread is not done, and can take a step.
    * `Idle`: a listener to which nothing happens.
    * `not_canGo_of_blocked`, `canGo_of_not_blocked`: what it is to be blocked.
    * `waiting_acyclic`: how the threads of a host wait for each other.
-/

namespace HostedFs.Host

variable {setup : Setup}

/-! ## Threads that go on -/

/-- A thread is not done. -/
def Unfinished (host : Host) : Role → Prop
  | .mount n => ∃ c, host.mounts n = some c ∧ ∀ error, c.phase ≠ .returned error
  | .unmount n => ∃ phase, host.unmounts n = some (.running phase)
  | .listener n => ∃ l, host.listeners n = some l ∧ l.phase ≠ .exited

/-- A thread can take a step. -/
def CanGo (setup : Setup) (w : World) (r : Role) : Prop :=
  ∃ input v events, step setup (.act r input) w = some (v, events)

/-- A listener is ready, and was not told to stop. -/
def Idle (host : Host) (r : Role) : Prop :=
  ∃ n l, r = .listener n ∧ host.listeners n = some l ∧ l.phase = .waiting ∧ ¬ l.stopping

theorem not_idle_mount (host : Host) (n : Nat) : ¬ Idle host (.mount n) := by
  rintro ⟨m, l, hm, -⟩
  cases hm

theorem not_idle_unmount (host : Host) (n : Nat) : ¬ Idle host (.unmount n) := by
  rintro ⟨m, l, hm, -⟩
  cases hm

/-- Only a listener that waits is idle. -/
theorem not_idle_listener {host : Host} {n : Nat} {l : Listener} (hl : host.listeners n = some l)
    (h : l.phase = .waiting → l.stopping) : ¬ Idle host (.listener n) := by
  rintro ⟨m, k, hm, hk, hwaiting, hlasting⟩
  cases hm
  cases hl.symm.trans hk
  exact hlasting (h hwaiting)

theorem Listener.Fits.not_waiting_of_failed {l : Listener} (h : l.Fits) {error : String}
    (hfailed : l.ready = some (.error error)) : l.phase ≠ .waiting := by
  intro hwaiting
  rcases h.failed error hfailed with ⟨held, hclosing⟩ | hexited
  · cases hwaiting.symm.trans hclosing
  · cases hwaiting.symm.trans hexited

/-- A thread is not done, and does not wait for what need not happen. -/
structure Busy (host : Host) (r : Role) : Prop where
  unfinished : Unfinished host r
  restless : ¬ Idle host r

/-! ## Blocked threads -/

theorem unmountStep_of_blocked {r : Role} {phase : UnmountPhase} {w : World} {o : Obstacle}
    (h : phase.obstacle? = some o) (hstands : ¬ o.Cleared setup w) (input : Input) :
    unmountStep r phase input w = none := by
  cases phase with
  | atGate =>
    cases h
    have hshut : w.host.gate ≠ none := hstands
    cases input <;> simp [unmountStep, World.lockGate, hshut]
  | checking held | restoring _ held =>
    cases held <;> cases h
    have hlock : w.host.recordLock ≠ none := by simpa [Obstacle.Cleared, World.holder] using hstands
    cases input <;> simp [unmountStep, World.lockRecord, hlock]
  | _ => cases h

theorem armStep_of_blocked {r : Role} {phase : ArmPhase} {w : World} {o : Obstacle}
    (h : phase.obstacle? = some o) (hstands : ¬ o.Cleared setup w) (input : Input) :
    armStep setup r phase input w = none := by
  cases phase with
  | registering held | abandoning _ _ held =>
    cases held <;> cases h
    have hlock : w.process.bridgeLock ≠ none := hstands
    cases input <;> simp [armStep, World.lockBridge, hlock]
  | storing _ held =>
    cases held <;> cases h
    have hlock : w.host.listenerLock ≠ none := by
      simpa [Obstacle.Cleared, World.holder] using hstands
    cases input <;> simp [armStep, World.lockListener, hlock]
  | awaiting n =>
    cases h
    cases input with
    | go =>
      cases hl : w.host.listeners n with
      | none => simp [armStep, hl]
      | some l =>
        cases hready : l.ready with
        | none => simp [armStep, hl, hready]
        -- Once the listener has said how it starts, nothing is in the way.
        | some said => exact absurd ⟨l, said, hl, hready⟩ hstands
    | _ => rfl
  | joining n error =>
    cases h
    cases input with
    | go =>
      cases hl : w.host.listeners n with
      | none => simp [armStep, hl]
      | some l =>
        have hgoing : l.phase ≠ .exited := fun hexited => hstands ⟨l, hl, hexited⟩
        simp [armStep, hl, hgoing]
    | _ => rfl
  | _ => cases h

theorem mountStep_of_blocked {n : Nat} {c : MountCall} {w : World} {o : Obstacle}
    (h : c.phase.obstacle? = some o) (hstands : ¬ o.Cleared setup w) (input : Input) :
    mountStep setup n c input w = none := by
  cases hp : c.phase with
  -- Each phase that waits does so before its first step, whatever it is given.
  | arming phase =>
    rw [hp] at h
    simp [mountStep, hp, armStep_of_blocked h hstands]
  | initializing call | destroying call =>
    rw [hp] at h
    obtain ⟨phase, rfl, hphase⟩ := Option.bind_eq_some_iff.mp h
    simp [mountStep, hp, unmountStep_of_blocked hphase hstands]
  | claiming held | naming _ held | starting _ held | closing held | resetting _ held =>
    rw [hp] at h
    cases held <;> cases h
    have hlock : w.host.recordLock ≠ none := by simpa [Obstacle.Cleared, World.holder] using hstands
    cases input <;> simp [mountStep, hp, World.lockRecord, hlock]
  | disarming held | taking _ held =>
    rw [hp] at h
    cases held <;> cases h
    have hlock : w.host.listenerLock ≠ none := by
      simpa [Obstacle.Cleared, World.holder] using hstands
    cases input <;> simp [mountStep, hp, World.lockListener, hlock]
  | gating _ held =>
    rw [hp] at h
    cases held <;> cases h
    have hshut : w.host.gate ≠ none := hstands
    cases input <;> simp [mountStep, hp, World.lockGate, hshut]
  | joining status k =>
    rw [hp] at h
    cases h
    cases hl : w.host.listeners k with
    | none => cases input <;> simp [mountStep, hp, hl]
    | some l =>
      have hgoing : l.phase ≠ .exited := fun hexited => hstands ⟨l, hl, hexited⟩
      cases input <;> simp [mountStep, hp, hl, hgoing]
  | _ =>
    rw [hp] at h
    cases h

theorem listenerStep_of_blocked {n : Nat} {l : Listener} {w : World} {o : Obstacle}
    (h : l.phase.obstacle? = some o) (hstands : ¬ o.Cleared setup w) (input : Input) :
    listenerStep setup n l input w = none := by
  cases hp : l.phase with
  | calling phase =>
    rw [hp] at h
    simp [listenerStep, hp, unmountStep_of_blocked h hstands]
  | closing held =>
    rw [hp] at h
    cases held <;> cases h
    have hlock : w.process.bridgeLock ≠ none := hstands
    cases input <;> simp [listenerStep, hp, World.lockBridge, hlock]
  | _ =>
    rw [hp] at h
    cases h

/-- A blocked thread cannot take a step, whatever it is given. -/
theorem not_canGo_of_blocked {w : World} {r : Role} (h : Blocked setup w r) :
    ¬ CanGo setup w r := by
  obtain ⟨o, ho, hstands⟩ := h
  rintro ⟨input, v, events, hstep⟩
  cases r with
  | mount n =>
    obtain ⟨c, hc, ho⟩ := Option.bind_eq_some_iff.mp ho
    simp [step, hc, mountStep_of_blocked ho hstands] at hstep
  | unmount n =>
    obtain ⟨call, hcall, ho⟩ := Option.bind_eq_some_iff.mp ho
    cases call with
    | finished result => cases ho
    | running phase =>
      have hphase : phase.obstacle? = some o := ho
      simp [step, hcall, unmountStep_of_blocked hphase hstands] at hstep
  | listener n =>
    obtain ⟨l, hl, ho⟩ := Option.bind_eq_some_iff.mp ho
    simp [step, hl, listenerStep_of_blocked ho hstands] at hstep

/-! ## Threads that are not blocked -/

theorem unmountStep_of_clear {r : Role} {phase : UnmountPhase} {w : World}
    (hclear : ∀ o, phase.obstacle? = some o → o.Cleared setup w) :
    ∃ input call v events, unmountStep r phase input w = some (call, v, events) := by
  cases phase with
  | atGate =>
    have hopen : w.host.gate = none := hclear _ rfl
    exact ⟨.go, by simp [unmountStep, World.lockGate, hopen]⟩
  | calling session mountpoint => exact ⟨.answered true, _, _, _, rfl⟩
  | leaving result => exact ⟨.go, _, _, _, rfl⟩
  | checking held | restoring _ held =>
    cases held with
    | true => exact ⟨.go, step_of_unmount_holds w rfl⟩
    | false =>
      have hfree : w.holder setup .record = none := hclear _ rfl
      have hlock : w.host.recordLock = none := by simpa [World.holder] using hfree
      exact ⟨.go, by simp [unmountStep, World.lockRecord, hlock]⟩

theorem cleared_of_not_blocked {w : World} {r : Role} {o : Obstacle} (hfree : ¬ Blocked setup w r)
    (ho : obstacle? w.host r = some o) : o.Cleared setup w := by
  by_contra hstands
  exact hfree ⟨o, ho, hstands⟩

/-- A thread that makes an attempt goes on with it if it is not blocked. -/
theorem canGo_of_attempt {w : World} {r : Role} {phase : UnmountPhase}
    (h : attempt? w.host r = some phase) (hfree : ¬ Blocked setup w r) : CanGo setup w r := by
  have hclear : ∀ o, phase.obstacle? = some o → o.Cleared setup w := fun o ho =>
    cleared_of_not_blocked hfree ((obstacle?_of_attempt h).trans ho)
  obtain ⟨input, call, v, events, hnext⟩ := unmountStep_of_clear (r := r) hclear
  obtain ⟨u, told, hstep, -⟩ : ∃ u told, step setup (.act r input) w = some (u, told) ∧ _ :=
    step_of_unmountStep h hnext
  exact ⟨input, u, told, hstep⟩

/-- A busy thread that is not blocked takes a step once it is given what it needs. -/
theorem canGo_of_not_blocked {w : World} (hw : Reached setup w) {r : Role}
    (hbusy : Busy w.host r) (hfree : ¬ Blocked setup w r) : CanGo setup w r := by
  obtain ⟨hr, hrestless⟩ := hbusy
  cases hattempt : attempt? w.host r with
  | some phase => exact canGo_of_attempt hattempt hfree
  | none =>
    cases r with
    | mount n =>
      obtain ⟨c, hc, hphase⟩ := hr
      rw [attempt?_mount, hc, Option.bind_some] at hattempt
      have hclear : ∀ o, c.phase.obstacle? = some o → o.Cleared setup w := by
        intro o ho
        apply cleared_of_not_blocked hfree
        rw [obstacle?, hc, Option.bind_some, ho]
      obtain ⟨input, v, events, hstep, -⟩ := step_of_clear hw hc hphase hattempt hclear
      exact ⟨input, v, events, hstep⟩
    | unmount n =>
      obtain ⟨phase, hphase⟩ := hr
      simp [attempt?_unmount, hphase, UnmountCall.attempt?] at hattempt
    | listener n =>
      obtain ⟨l, hl, hgoing⟩ := hr
      cases hp : l.phase with
      | starting => exact ⟨.go, by simp [step, hl, listenerStep, hp]⟩
      | waiting =>
        -- Were it not told to stop, it would be at rest and not busy.
        have hstopping : l.stopping := by
          by_contra hlasting
          exact hrestless ⟨n, l, rfl, hl, hp, hlasting⟩
        exact ⟨.stop, by simp [step, hl, listenerStep, hp, hstopping]⟩
      | calling phase => simp [attempt?_listener, hl, hp, ListenerPhase.attempt?] at hattempt
      | exited => exact absurd hp hgoing
      | closing held =>
        cases held with
        | true => exact ⟨.go, by simp [step, hl, listenerStep, hp]⟩
        | false =>
          have hbridge : obstacle? w.host (.listener n) = some (.lock .bridge) := by
            simp [obstacle?, hl, hp, ListenerPhase.obstacle?]
          have hlock : w.process.bridgeLock = none := cleared_of_not_blocked hfree hbridge
          exact ⟨.go, by simp [step, hl, listenerStep, hp, World.lockBridge, hlock]⟩

/-! ## Threads in the way of others -/

theorem busy_of_attempt {host : Host} {r : Role} {phase : UnmountPhase}
    (h : attempt? host r = some phase) : Busy host r := by
  cases attempts_of_attempt? h with
  | @mount n c _ hc called hp =>
    refine ⟨⟨c, hc, fun error heq => ?_⟩, not_idle_mount host n⟩
    cases called <;> cases hp.symm.trans heq
  | @unmount n hcall => exact ⟨⟨phase, hcall⟩, not_idle_unmount host n⟩
  | @listener n l hl hp =>
    refine ⟨⟨l, hl, fun heq => ?_⟩, not_idle_listener hl fun hwaiting => ?_⟩
    · cases hp.symm.trans heq
    · cases hp.symm.trans hwaiting

theorem busy_of_holds {host : Host} {r : Role} {lock : Lock} (h : holds? host r = some lock) :
    Busy host r := by
  cases r with
  | mount n =>
    obtain ⟨c, hc, hheld⟩ := Option.bind_eq_some_iff.mp h
    refine ⟨⟨c, hc, fun error heq => ?_⟩, not_idle_mount host n⟩
    rw [heq] at hheld
    cases hheld
  | unmount n =>
    obtain ⟨call, hcall, hheld⟩ := Option.bind_eq_some_iff.mp h
    cases call with
    | finished result => cases hheld
    | running phase => exact ⟨⟨phase, hcall⟩, not_idle_unmount host n⟩
  | listener n =>
    obtain ⟨l, hl, hheld⟩ := Option.bind_eq_some_iff.mp h
    refine ⟨⟨l, hl, fun heq => ?_⟩, not_idle_listener hl fun hwaiting => ?_⟩
    · rw [heq] at hheld
      cases hheld
    · rw [hwaiting] at hheld
      cases hheld

/-- Whoever is in the way of another is busy. -/
theorem busy_of_waitsFor {w : World} (hw : Reached setup w) {r s : Role}
    (h : WaitsFor setup w r s) : Busy w.host s := by
  obtain ⟨o, ho, hkept⟩ := h
  cases o with
  | lock lock =>
    obtain ⟨t, heq, hholds⟩ : ∃ t, (setup.number, s) = (setup.number, t) ∧
        holds? w.host t = some lock := hw.locked lock _ hkept
    cases heq
    exact busy_of_holds hholds
  | gate =>
    rcases hw.guarded.held s hkept with ⟨phase, hattempt, -⟩ | ⟨n, c, status, rfl, hc, hphase⟩
    · exact busy_of_attempt hattempt
    · have hcall := mounts_of_outline hc (by rw [hphase]; rfl)
      exact ⟨⟨c, hcall, by simp [hphase]⟩, not_idle_mount w.host n⟩
  | start n =>
    obtain ⟨rfl, l, hl, hnone⟩ := hkept
    have hstarting := (hw.attended.fits n l hl).silent.mp hnone
    refine ⟨⟨l, hl, by simp [hstarting]⟩, not_idle_listener hl fun hwaiting => ?_⟩
    cases hstarting.symm.trans hwaiting
  | exit n =>
    obtain ⟨rfl, l, hl, hgoing⟩ := hkept
    refine ⟨⟨l, hl, hgoing⟩, not_idle_listener hl fun hwaiting => ?_⟩
    -- Its end is waited for, so it was told to stop, or has failed.
    obtain ⟨k, hk, hends⟩ := listener_of_exit hw.attended ho
    cases hl.symm.trans hk
    rcases hends with hstopping | ⟨error, hfailed⟩
    · exact hstopping
    · exact absurd hwaiting ((hw.attended.fits n l hl).not_waiting_of_failed hfailed)

/-! ## The whole host -/

/-- Whoever a busy thread waits for in the end can go on. -/
theorem exists_canGo {w : World} (hw : Reached setup w) {r : Role} (hr : Busy w.host r) :
    ∃ s, Relation.ReflTransGen (WaitsFor setup w) r s ∧ Busy w.host s ∧ CanGo setup w s := by
  induction hrank : rank w.host r using Nat.strongRecOn generalizing r with
  | ind k ih =>
    subst hrank
    by_cases hblocked : Blocked setup w r
    · obtain ⟨t, hrt⟩ := (blocked_iff_waitsFor hw.attended hw.locked).mp hblocked
      have hless := rank_lt_of_waitsFor hw.locked hw.guarded hrt
      obtain ⟨s, hts, hs, hgoes⟩ := ih _ hless (busy_of_waitsFor hw hrt) rfl
      exact ⟨s, .head hrt hts, hs, hgoes⟩
    · exact ⟨r, .refl, hr, canGo_of_not_blocked hw hr hblocked⟩

/-- While a thread is not done, a busy one is not. -/
theorem exists_busy {w : World} (hw : Reached setup w) {r : Role} (hr : Unfinished w.host r) :
    ∃ s, Busy w.host s := by
  by_cases hidle : Idle w.host r
  · -- Whoever minds an idle listener has not returned.
    obtain ⟨k, l, rfl, hl, hwaiting, hlasting⟩ := hidle
    obtain ⟨p, labels, events, -, hrun⟩ := id hw
    have hminded := minded_run hrun
    rcases hminded.listeners k l hl with hstopping | ⟨error, hfailed⟩ | hplaced | ⟨n, c, hc, harms⟩
    · exact absurd hstopping hlasting
    · exact absurd hwaiting ((hw.attended.fits k l hl).not_waiting_of_failed hfailed)
    · obtain ⟨n, c, hc, hminds⟩ := hminded.place k hplaced
      refine ⟨.mount n, ⟨c, hc, fun error heq => ?_⟩, not_idle_mount w.host n⟩
      simp [heq, MountPhase.minds] at hminds
    · refine ⟨.mount n, ⟨c, hc, fun error heq => ?_⟩, not_idle_mount w.host n⟩
      simp [heq, MountPhase.arms?] at harms
  · exact ⟨r, hr, hidle⟩

/-- However the threads of a host take turns, none `WaitsFor` itself, by however many others. Just
    those are `Blocked` that wait for another; whoever is blocked waits in the end for one that is
    not, and that one `CanGo` on. While a thread is `Unfinished`, there is one like that. -/
theorem waiting_acyclic {p : Process} {labels : List Label} {w : World} {events : List Event}
    (hp : p.bridgeLock = none) (h : run setup labels ⟨p, {}⟩ = some (w, events)) :
    (∀ r, ¬ Relation.TransGen (WaitsFor setup w) r r) ∧
      (∀ r, Blocked setup w r ↔ ∃ s, WaitsFor setup w r s) ∧
      (∀ r, Blocked setup w r → ∃ s, Relation.TransGen (WaitsFor setup w) r s ∧
        Unfinished w.host s ∧ ¬ Blocked setup w s ∧ CanGo setup w s) ∧
      ((∃ r, Unfinished w.host r) →
        ∃ s, Unfinished w.host s ∧ ¬ Blocked setup w s ∧ CanGo setup w s) := by
  have hw : Reached setup w := ⟨p, labels, events, hp, h⟩
  have hfree {s : Role} (hs : CanGo setup w s) : ¬ Blocked setup w s :=
    fun hblocked => not_canGo_of_blocked hblocked hs
  have hwaits := fun r => blocked_iff_waitsFor (r := r) hw.attended hw.locked
  refine ⟨waitsFor_acyclic hw.locked hw.guarded, hwaits, fun r hr => ?_, fun hsome => ?_⟩
  · obtain ⟨t, hrt⟩ := (hwaits r).mp hr
    obtain ⟨s, hts, hs, hgoes⟩ := exists_canGo hw (busy_of_waitsFor hw hrt)
    exact ⟨s, .head' hrt hts, hs.unfinished, hfree hgoes, hgoes⟩
  · obtain ⟨r, hr⟩ := hsome
    obtain ⟨t, ht⟩ := exists_busy hw hr
    obtain ⟨s, -, hs, hgoes⟩ := exists_canGo hw ht
    exact ⟨s, hs.unfinished, hfree hgoes, hgoes⟩

/-- A host that unmounts on signals. -/
def listening : Setup :=
  { plain with nativeNeedsSignals := true }

/-- The steps to a world where a call to mount waits for its listener, that for a
    call to unmount, and that for another call to mount. -/
def untilChain : List Label :=
  entering 0 ++ steps (.mount 0) [.callInit ⟨4096⟩ none, .go, .go, .go, .go, .go] ++
    steps (.listener 0) [.go] ++ steps (.mount 0) [.go, .go, .go, .left] ++
    [.raise .interrupt, .unmount 0] ++ steps (.unmount 0) [.go] ++ steps (.listener 0) [.wake] ++
    steps (.mount 0) [.loopReturned 0, .go, .go] ++ [.mount 1 "/m" []] ++ steps (.mount 1) [.go]

/-- Four threads are in a row there. The first does not stand before the last, and one
    of them can go on. -/
theorem waiting_acyclic_chain :
    ∃ w events, run listening untilChain ⟨{}, {}⟩ = some (w, events) ∧
      Relation.TransGen (WaitsFor listening w) (.mount 0) (.mount 1) ∧
      ¬ Relation.TransGen (WaitsFor listening w) (.mount 1) (.mount 0) ∧
      ∃ s, Unfinished w.host s ∧ ¬ Blocked listening w s ∧ CanGo listening w s := by
  obtain ⟨w, events, hrun, hmount, hlistener, hwoken, hgate, hunmount, hrecord⟩ :=
    exists_of_run listening untilChain ⟨{}, {}⟩
      (fun moved => obstacle? moved.1.host (.mount 0) = some (.exit 0) ∧
        (moved.1.host.listeners 0).map Listener.phase = some (.calling .atGate) ∧
        obstacle? moved.1.host (.listener 0) = some .gate ∧
        moved.1.host.gate = some (.unmount 0) ∧
        obstacle? moved.1.host (.unmount 0) = some (.lock .record) ∧
        moved.1.host.recordLock = some (.mount 1)) (by decide +kernel)
  obtain ⟨hacyclic, -, hblocked, -⟩ := waiting_acyclic rfl hrun
  obtain ⟨l, hl, hphase⟩ := Option.map_eq_some_iff.mp hlistener
  have hfirst : WaitsFor listening w (.mount 0) (.listener 0) :=
    ⟨_, hmount, rfl, l, hl, by simp [hphase]⟩
  have hsecond : WaitsFor listening w (.listener 0) (.unmount 0) := ⟨_, hwoken, hgate⟩
  have hthird : WaitsFor listening w (.unmount 0) (.mount 1) :=
    ⟨_, hunmount, by simpa [Obstacle.KeptBy, World.holder] using hrecord⟩
  -- The first call waits for its listener, that one for the gate, which a call to unmount has
  -- passed, and this for the record, which the second call to mount holds.
  have hchain : Relation.TransGen (WaitsFor listening w) (.mount 0) (.mount 1) :=
    .head hfirst (.head hsecond (.single hthird))
  have hwaits : Blocked listening w (.mount 0) := by
    refine ⟨_, hmount, ?_⟩
    rintro ⟨k, hk, hexited⟩
    cases hl.symm.trans hk
    cases hphase.symm.trans hexited
  obtain ⟨s, -, hs⟩ := hblocked _ hwaits
  exact ⟨w, events, hrun, hchain, fun hback => hacyclic _ (hchain.trans hback), s, hs⟩

end HostedFs.Host
