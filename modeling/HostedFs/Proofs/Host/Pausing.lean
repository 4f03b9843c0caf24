import HostedFs.Proofs.Host.Calm

/-! # Calls that go on until they pause

    A call to mount that is alone goes on until the native loop or the implementation has
    its turn. It waits for one thing only, the start of a listener, and then the listeners
    go on meanwhile.

    * `MountPhase.goal`: where a start or an end comes to.
    * `Goes`, `goes`: a call to mount that is alone takes a step towards it.
    * `Hosts.Underway.goes`, `Hosts.Underway.waits`: what is a round of `Hosts.advanceWithin`.
    * `Hosts.Underway.pauses`: enough rounds come to the goal.
-/

namespace HostedFs.Host

variable {setup : Setup} {n : Nat}

/-! ## The way to the next pause -/

/-- The native loop or the implementation has its turn. -/
def MountPhase.Paused : MountPhase → Prop
  | .running | .initializing none | .destroying none => True
  | _ => False

/-- The phase is one in which nothing has failed. -/
def ArmPhase.OnCourse (host : Host) : ArmPhase → Prop
  | .registering _ | .spawning _ | .storing .. => True
  | .awaiting k => Awaits host k
  | _ => False

/-- The phase is one of a start or of an end in which nothing has failed. -/
def MountPhase.OnCourse (host : Host) : MountPhase → Prop
  | .starting .. | .initializing _ | .destroying _ | .disarming _ | .closing _ | .running => True
  | .arming phase => phase.OnCourse host
  | _ => False

theorem MountPhase.OnCourse.putMount {phase : MountPhase} {w : World}
    (h : phase.OnCourse w.host) (n : Nat) (c : MountCall) :
    phase.OnCourse (w.putMount n c).host := by
  cases phase with
  | arming phase => cases phase <;> exact h
  | _ => exact h

/-- Where a start or an end comes to before the native loop or the implementation speaks. -/
def MountPhase.goal : MountPhase → MountPhase
  | .starting .. | .arming _ | .initializing _ => .initializing none
  | .destroying _ => .destroying none
  | .disarming _ | .closing _ => .running
  | phase => phase

theorem MountPhase.Paused.goal_eq {phase : MountPhase} (h : phase.Paused) : phase.goal = phase := by
  cases phase with
  | initializing call | destroying call => cases call <;> first | rfl | exact h.elim
  | running => rfl
  | _ => exact h.elim

/-- The number of steps that a call to mount may still take before it pauses. -/
def MountPhase.remaining (phase : MountPhase) : Nat :=
  phase.rest + phase.attempt?.elim 0 UnmountPhase.rest

theorem MountPhase.two_mul_remaining_lt (phase : MountPhase) :
    2 * phase.remaining < Hosts.patience := by
  -- `remaining` counts what is left of the phase and, within it, of arming or of an attempt.
  have harm (phase : ArmPhase) : phase.rest ≤ 9 := by
    cases phase with
    | registering held | abandoning _ _ held | storing _ held => cases held <;> simp [ArmPhase.rest]
    | _ => simp [ArmPhase.rest]
  have hrest : phase.rest ≤ 39 := by
    cases phase with
    | arming phase =>
      have hless := harm phase
      simp only [rest]
      omega
    | initializing call | destroying call => cases call <;> simp [rest]
    | claiming held | naming _ held | starting _ held | disarming held | closing held
    | taking _ held | gating _ held | resetting _ held => cases held <;> simp [rest]
    | _ => simp [rest]
  have hattempt : phase.attempt?.elim 0 UnmountPhase.rest ≤ 6 := by
    cases phase.attempt? with
    | none => exact Nat.zero_le 6
    | some attempt =>
      cases attempt with
      | checking held | restoring _ held => cases held <;> simp [UnmountPhase.rest]
      | _ => simp [UnmountPhase.rest]
  unfold remaining Hosts.patience
  omega

/-- What is given to an attempt to unmount that goes on. -/
def UnmountPhase.Takes (phase : UnmountPhase) (input : Input) : Prop :=
  match phase with
  | .calling .. => ∃ done, input = .answered done
  | _ => input = .go

/-- What is given to a call to mount that goes on. -/
def MountPhase.Takes (phase : MountPhase) (input : Input) : Prop :=
  phase.attempt?.elim (input = .go) fun attempt => attempt.Takes input

theorem unmountStep_goes (role : Role) {phase : UnmountPhase} {input : Input} {w : World}
    (hgate : phase = .atGate → w.host.gate = none)
    (hlock : phase.holds? = none → w.host.recordLock = none) (htakes : phase.Takes input) :
    ∃ call v told, unmountStep role phase input w = some (call, v, told) ∧
      ∀ next, call = .running next → next.rest < phase.rest := by
  cases phase with
  -- One case for each phase, with the input that the phase takes. A lock is taken where none is
  -- held, and whether the record says `mounted` does not matter: the attempt goes on.
  | atGate =>
    obtain rfl : input = .go := htakes
    simp [unmountStep, World.lockGate, hgate rfl, UnmountPhase.rest]
  | checking held =>
    obtain rfl : input = .go := htakes
    cases held with
    | false => simp [unmountStep, World.lockRecord, hlock rfl, UnmountPhase.rest]
    | true =>
      by_cases hstate : w.host.record.state = .mounted <;>
        simp [unmountStep, hstate, UnmountPhase.rest]
  | calling session mountpoint =>
    obtain ⟨done, rfl⟩ := htakes
    cases done <;> simp [unmountStep, UnmountPhase.rest]
  | restoring mountpoint held =>
    obtain rfl : input = .go := htakes
    cases held with
    | false => simp [unmountStep, World.lockRecord, hlock rfl, UnmountPhase.rest]
    | true => simp [unmountStep, UnmountPhase.rest]
  | leaving result =>
    obtain rfl : input = .go := htakes
    simp [unmountStep]

theorem armStep_goes (role : Role) {phase : ArmPhase} {w : World} (hcourse : phase.OnCourse w.host)
    (hlocks : phase.holds? = none → ∀ lock, w.holder setup lock = none)
    (hready : ∀ k, phase = .awaiting k → Heard w.host k) :
    ∃ arming v told, armStep setup role phase .go w = some (arming, v, told) ∧
      ∀ next, arming = .running next → next.OnCourse v.host ∧ next.rest < phase.rest := by
  cases phase with
  | registering held =>
    cases held with
    | false =>
      have hlock : w.process.bridgeLock = none := hlocks rfl .bridge
      simp [armStep, World.lockBridge, hlock, ArmPhase.OnCourse, ArmPhase.rest]
    | true =>
      -- With a slot or without one, the arming comes nearer to its end.
      rcases hregister : w.process.bridge.register (setup.number, w.host.nextListener)
        fun _ => none with ⟨bridge, _ | slot⟩ <;>
        simp [armStep, hregister, ArmPhase.OnCourse, ArmPhase.rest]
  | spawning slot =>
    simp [armStep, World.putListener, ArmPhase.OnCourse, Awaits, ArmPhase.rest]
  | awaiting k =>
    obtain ⟨l, hl, hsaid⟩ := hready k rfl
    simp [armStep, hl, hsaid, ArmPhase.OnCourse, ArmPhase.rest]
  | storing k held =>
    cases held with
    | false =>
      have hlock : w.host.listenerLock = none := by
        simpa [World.holder] using hlocks rfl .place
      simp [armStep, World.lockListener, hlock, ArmPhase.OnCourse, ArmPhase.rest]
    | true => simp [armStep]
  | _ => exact hcourse.elim

/-- A call to mount goes on with an input, and comes nearer to its next pause. -/
def Goes (setup : Setup) (n : Nat) (phase : MountPhase) (input : Input) (w : World) : Prop :=
  ∃ v told c, step setup (.act (.mount n) input) w = some (v, told) ∧
    v.host.mounts n = some c ∧ c.phase.OnCourse v.host ∧ c.phase.goal = phase.goal ∧
    c.phase.remaining < phase.remaining

section goes

variable {c : MountCall} {w : World} (hc : w.host.mounts n = some c)

include hc

theorem Goes.of_mountStep {phase : MountPhase} (next : MountPhase) {input : Input}
    {v : World} {told : List Event}
    (hnext : mountStep setup n c input w = some (v.putMount n { c with phase := next }, told))
    (hcourse : next.OnCourse v.host) (hgoal : next.goal = phase.goal)
    (hless : next.remaining < phase.remaining) : Goes setup n phase input w := by
  have hself : (v.putMount n { c with phase := next }).host.mounts n =
      some { c with phase := next } := if_pos rfl
  refine ⟨_, told, _, ?_, hself, hcourse.putMount n _, hgoal, hless⟩
  rw [step, hc]
  exact hnext

/-- The implementation unmounts. -/
theorem goes_of_attempt {phase : UnmountPhase} {input : Input}
    (hp : c.phase = .initializing (some phase) ∨ c.phase = .destroying (some phase))
    (hgate : phase = .atGate → w.host.gate = none)
    (hlock : phase.holds? = none → w.host.recordLock = none) (htakes : phase.Takes input) :
    Goes setup n c.phase input w := by
  obtain ⟨call, v, told, hattempt, hless⟩ := unmountStep_goes (.mount n) hgate hlock htakes
  -- An attempt that is over leaves only the phase to be counted.
  have hfinished (next : MountPhase) : next.rest < next.rest + 1 + phase.rest :=
    Nat.lt_add_right _ (Nat.lt_succ_self _)
  rcases hp with hp | hp <;> rw [hp]
  · -- The implementation is told of the start.
    cases call with
    | running next =>
      exact .of_mountStep hc (.initializing (some next))
        (by simp only [mountStep, hp, hattempt]; rfl) trivial rfl
        (Nat.add_lt_add_left (hless next rfl) _)
    | finished result =>
      exact .of_mountStep hc (.initializing none)
        (by simp only [mountStep, hp, hattempt]; rfl) trivial rfl (hfinished (.initializing none))
  · -- It is told of the end.
    cases call with
    | running next =>
      exact .of_mountStep hc (.destroying (some next))
        (by simp only [mountStep, hp, hattempt]; rfl) trivial rfl
        (Nat.add_lt_add_left (hless next rfl) _)
    | finished result =>
      exact .of_mountStep hc (.destroying none)
        (by simp only [mountStep, hp, hattempt]; rfl) trivial rfl (hfinished (.destroying none))

/-- A listener is armed. -/
theorem goes_of_arming {phase : ArmPhase} (hp : c.phase = .arming phase)
    (hcourse : phase.OnCourse w.host)
    (hlocks : phase.holds? = none → ∀ lock, w.holder setup lock = none)
    (hready : ∀ k, phase = .awaiting k → Heard w.host k) : Goes setup n c.phase .go w := by
  obtain ⟨arming, v, told, harm, hnext⟩ := armStep_goes (.mount n) hcourse hlocks hready
  rw [hp]
  rcases arming with next | _
  · obtain ⟨hcourse, hless⟩ := hnext next rfl
    exact .of_mountStep hc (.arming next) (by simp only [mountStep, hp, harm]; rfl) hcourse
      rfl (Nat.add_lt_add_left hless _)
  · have hless : (MountPhase.initializing none).remaining < (MountPhase.arming phase).remaining :=
      Nat.lt_add_right _ (Nat.lt_add_right _ (Nat.lt_succ_self _))
    exact .of_mountStep hc (.initializing none) (by simp only [mountStep, hp, harm]; rfl)
      trivial rfl hless

/-- The record is told, or the listener is. -/
theorem goes_of_told (hcourse : c.phase.OnCourse w.host) (hbusy : ¬ c.phase.Paused)
    (hidle : c.phase.attempt? = none) (harms : ∀ phase, c.phase ≠ .arming phase)
    (hlocks : c.phase.holds? = none → ∀ lock, w.holder setup lock = none) :
    Goes setup n c.phase .go w := by
  -- Nobody else holds a lock, so the record's and the place's are free if the call waits.
  have hrecord (hnone : c.phase.holds? = none) : w.host.recordLock = none := by
    simpa [World.holder] using hlocks hnone .record
  have hplace (hnone : c.phase.holds? = none) : w.host.listenerLock = none := by
    simpa [World.holder] using hlocks hnone .place
  cases hp : c.phase with
  | starting session held =>
    cases held with
    | false =>
      have hlock := hrecord (by rw [hp]; rfl)
      exact .of_mountStep hc (.starting session true)
        (by simp only [mountStep, hp, World.lockRecord, if_pos hlock]; rfl) trivial rfl
        (Nat.lt_succ_self _)
    | true =>
      cases hlistens : setup.listens with
      | false =>
        exact .of_mountStep hc (.initializing none)
          (by simp only [mountStep, hp, hlistens]; rfl) trivial rfl
          (by simp [MountPhase.remaining, MountPhase.rest, MountPhase.attempt?])
      | true =>
        exact .of_mountStep hc (.arming (.registering false))
          (by simp only [mountStep, hp, hlistens]; rfl) trivial rfl
          (by simp [MountPhase.remaining, MountPhase.rest, MountPhase.attempt?, ArmPhase.rest])
  | disarming held =>
    cases held with
    | false =>
      have hlock := hplace (by rw [hp]; rfl)
      exact .of_mountStep hc (.disarming true)
        (by simp only [mountStep, hp, World.lockListener, if_pos hlock]; rfl) trivial rfl
        (Nat.lt_succ_self _)
    | true =>
      exact .of_mountStep hc (.closing false) (by simp only [mountStep, hp]; rfl) trivial rfl
        (Nat.lt_succ_self _)
  | closing held =>
    cases held with
    | false =>
      have hlock := hrecord (by rw [hp]; rfl)
      exact .of_mountStep hc (.closing true)
        (by simp only [mountStep, hp, World.lockRecord, if_pos hlock]; rfl) trivial rfl
        (Nat.lt_succ_self _)
    | true =>
      exact .of_mountStep hc .running (by simp only [mountStep, hp]; rfl) trivial rfl
        (Nat.lt_succ_self _)
  -- The phases that are left pause the call, or are not on its course.
  | arming phase => exact absurd hp (harms phase)
  | initializing call | destroying call =>
    obtain rfl : call = none := by simpa [hp, MountPhase.attempt?] using hidle
    rw [hp] at hbusy
    exact absurd trivial hbusy
  | running =>
    rw [hp] at hbusy
    exact absurd trivial hbusy
  | _ =>
    rw [hp] at hcourse
    exact hcourse.elim

/-- A call to mount that is alone goes on, unless it waits for a listener. -/
theorem goes {input : Input} (hw : Alone setup n w) (hcourse : c.phase.OnCourse w.host)
    (hbusy : ¬ c.phase.Paused)
    (hready : ∀ k, c.phase = .arming (.awaiting k) → Heard w.host k)
    (htakes : c.phase.Takes input) : Goes setup n c.phase input w := by
  -- The call is alone: a lock is held by the call or by nobody.
  have hlocks (hnone : c.phase.holds? = none) (lock : Lock) : w.holder setup lock = none :=
    (hw.locks lock).resolve_right (by simp [holds?, hc, hnone])
  have hr : attempt? w.host (.mount n) = c.phase.attempt? := by
    rw [attempt?_mount, hc, Option.bind_some]
  cases hattempt : c.phase.attempt? with
  | some phase =>
    rw [MountPhase.Takes, hattempt, Option.elim_some] at htakes
    have hp : c.phase = .initializing (some phase) ∨ c.phase = .destroying (some phase) := by
      cases hp : c.phase with
      | initializing call | destroying call => simpa [hp, MountPhase.attempt?] using hattempt
      | _ => simp [hp, MountPhase.attempt?] at hattempt
    have hheld : c.phase.holds? = phase.holds? := by
      rcases hp with hp | hp <;> rw [hp] <;> rfl
    refine goes_of_attempt hc hp ?_ ?_ htakes
    · intro hwaits
      -- If the gate is shut, then by an attempt of the call that is past it.
      refine hw.gate.resolve_right fun hpast => ?_
      obtain ⟨next, hnext, hne⟩ := hpast
      rw [hr, hattempt, hwaits] at hnext
      exact hne (Option.some.inj hnext).symm
    · intro hnone
      simpa [World.holder] using hlocks (hheld.trans hnone) .record
  | none =>
    rw [MountPhase.Takes, hattempt, Option.elim_none] at htakes
    subst htakes
    -- Arming a listener is the one thing that may wait, for word from the listener.
    by_cases harms : ∃ phase, c.phase = .arming phase
    · obtain ⟨phase, hp⟩ := harms
      rw [hp] at hcourse hlocks hready
      exact goes_of_arming hc hp hcourse hlocks fun k hk => hready k (by rw [hk])
    · exact goes_of_told hc hcourse hbusy hattempt (fun phase hp => harms ⟨phase, hp⟩) hlocks

end goes

/-- The native side answers a host's calls to unmount at once. -/
def Surroundings.Answers {σ : Type} (env : Surroundings σ) (h : Nat) : Prop :=
  ∀ session mountpoint state, ∃ done, (env.unmount h session mountpoint state).1 = some done

namespace Hosts

variable {σ : Type} {env : Surroundings σ} {h : Nat} {s : Hosts σ} {c : MountCall}

/-! ## Until the next pause -/

/-- While the native loop or the implementation has its turn, a call to mount takes no step. -/
theorem feed_of_paused (hc : (s.host h).mounts n = some c) (hpaused : c.phase.Paused) :
    s.feed env h (.mount n) = (none, s) := by
  have hphase : s.mountPhase? h n = some c.phase := by rw [mountPhase?, hc, Option.map_some]
  have hattempt : attempt? (s.host h) (.mount n) = c.phase.attempt? := by
    rw [attempt?_mount, hc, Option.bind_some]
  unfold feed
  cases hp : c.phase with
  | running => simp only [hattempt, hphase, hp, MountPhase.attempt?]
  | initializing call | destroying call =>
    cases call with
    | none => simp only [hattempt, hphase, hp, MountPhase.attempt?]
    | some phase =>
      rw [hp] at hpaused
      exact hpaused.elim
  | _ =>
    rw [hp] at hpaused
    exact hpaused.elim

theorem feed_of_busy (henv : env.Answers h) (hc : (s.host h).mounts n = some c)
    (hcourse : c.phase.OnCourse (s.host h)) (hbusy : ¬ c.phase.Paused) :
    ∃ input fed, s.feed env h (.mount n) = (some input, fed) ∧ c.phase.Takes input := by
  have hphase : s.mountPhase? h n = some c.phase := by rw [mountPhase?, hc, Option.map_some]
  have hr : attempt? (s.host h) (.mount n) = c.phase.attempt? := by
    rw [attempt?_mount, hc, Option.bind_some]
  unfold feed MountPhase.Takes
  cases hattempt : c.phase.attempt? with
  | some phase =>
    rw [hr, hattempt]
    cases phase with
    | calling session mountpoint =>
      -- The one input that is not given by the host itself: the answer of the native side.
      obtain ⟨done, hdone⟩ := henv session mountpoint s.state
      exact ⟨.answered done, _, by simp only [hdone]; rfl, done, rfl⟩
    | _ => exact ⟨.go, _, rfl, rfl⟩
  | none =>
    rw [hr, hattempt]
    cases hp : c.phase with
    | initializing call | destroying call =>
      obtain rfl : call = none := by simpa [hp, MountPhase.attempt?] using hattempt
      rw [hp] at hbusy
      exact absurd trivial hbusy
    | running =>
      rw [hp] at hbusy
      exact absurd trivial hbusy
    | starting _ _ | arming _ | disarming _ | closing _ =>
      exact ⟨.go, s, by simp only [hphase, hp], rfl⟩
    | _ =>
      rw [hp] at hcourse
      exact hcourse.elim

/-- A call to mount that is alone and on its course. -/
structure Underway (setup : Setup) (h n : Nat) (s : Hosts σ) (c : MountCall) : Prop where
  has : s.Has h setup
  alone : Alone setup n (s.world h)
  call : (s.host h).mounts n = some c
  course : c.phase.OnCourse (s.host h)

theorem Underway.not_gating (hs : Underway setup h n s c) (status : Int32) (held : Bool) :
    c.phase ≠ .gating status held := by
  intro hp
  have hcourse := hs.course
  rw [hp] at hcourse
  exact hcourse

/-- It comes nearer to its next pause. -/
theorem Underway.goes (hs : Underway setup h n s c) (henv : env.Answers h)
    (hbusy : ¬ c.phase.Paused)
    (hready : ∀ k, c.phase = .arming (.awaiting k) → Heard (s.host h) k) :
    ∃ s' c', (∀ m, s.advanceWithin env h (.mount n) (m + 1) = s'.advanceWithin env h (.mount n) m) ∧
      Underway setup h n s' c' ∧ c'.phase.goal = c.phase.goal ∧
      c'.phase.remaining < c.phase.remaining := by
  obtain ⟨input, fed, hfeed, htakes⟩ := feed_of_busy henv hs.call hs.course hbusy
  have hfed : Plays setup h n s (s.feed env h (.mount n)).2 := plays_feed env hs.has _
  have hworld := world_feed env h (.mount n) s
  rw [hfeed] at hfed hworld
  -- Once the input is there, `Host.goes` gives the step and its measure.
  have hgoes : Goes setup n c.phase input (s.world h) :=
    Host.goes hs.call hs.alone hs.course hbusy hready htakes
  obtain ⟨v, told, c', hstep, hc', hcourse, hnear⟩ := hgoes
  have halone : Alone setup n v := alone_step hs.alone hs.call hs.not_gating hstep
  rw [← hworld] at hstep
  -- The step of the host is one of the hosts as they were fed.
  have hnext : fed.step? h (.act (.mount n) input) = some (fed.moved h setup v told) :=
    (step?_eq_some_iff hfed.has).mpr ⟨v, told, hstep, rfl⟩
  refine ⟨fed.moved h setup v told, c', fun m => advanceWithin_of_step hfeed hnext,
    ⟨has_moved hfed.has v told, ?_, ?_, ?_⟩, hnear⟩
  · rw [world_moved hfed.has]
    exact halone
  · rw [host_moved hfed.has, hc']
  · rw [host_moved hfed.has]
    exact hcourse

/-- While the listener that it waits for has said nothing, the listeners go on, and then it
    is ready. -/
theorem Underway.waits (hs : Underway setup h n s c) (henv : env.Answers h) {k : Nat}
    (hp : c.phase = .arming (.awaiting k)) (hsilent : ¬ Heard (s.host h) k) :
    ∃ s', (∀ m, s.advanceWithin env h (.mount n) (m + 1) = s'.advanceWithin env h (.mount n) m) ∧
      Underway setup h n s' c ∧ Heard (s'.host h) k := by
  have hawaits : Awaits (s.host h) k := by
    have hcourse := hs.course
    rw [hp] at hcourse
    exact hcourse
  -- The call is fed, but its step has to wait: that is what lets the listeners go on.
  have hblocked : Host.step setup (.act (.mount n) .go) (s.world h) = none := by
    obtain ⟨l, hl, hsaid⟩ := hawaits
    have hnone : l.ready = none := by
      rcases hsaid with ⟨-, hnone⟩ | hready
      · exact hnone
      · exact absurd ⟨l, hl, hready⟩ hsilent
    have hl' : (s.world h).host.listeners k = some l := hl
    have hcall : (s.world h).host.mounts n = some c := hs.call
    simp [Host.step, hcall, mountStep, hp, armStep, hl', hnone]
  have hfed := feed_of_busy henv hs.call hs.course (by rw [hp]; exact id)
  obtain ⟨input, fed, hfeed, htakes⟩ := hfed
  obtain rfl : input = .go := by
    rw [hp] at htakes
    exact htakes
  have hplays : Plays setup h n s (s.feed env h (.mount n)).2 := plays_feed env hs.has _
  have hworld := world_feed env h (.mount n) s
  rw [hfeed] at hplays hworld
  have hnone : fed.step? h (.act (.mount n) .go) = none := by
    rw [step?_eq_none_iff hplays.has, hworld]
    exact hblocked
  have hcall : (s.world h).host.mounts n = some c := hs.call
  have hcalm : Calm setup (s.world h) := by
    refine hs.alone.calm ?_ ?_
    · simp [holds?, hcall, hp, MountPhase.holds?, ArmPhase.holds?]
    · simp [attempt?_mount, hcall, hp, MountPhase.attempt?]
  obtain ⟨hquiets, hheard⟩ := quiets_advanceListeners env hs.has hcalm
  refine ⟨s.advanceListeners env h, fun m => advanceWithin_of_blocked hfeed hnone,
    ⟨hquiets.has, hquiets.settles.calm.alone n, ?_, ?_⟩, hheard k hawaits⟩
  · exact (congrFun hquiets.settles.mounts n).trans hcall
  · rw [hp]
    exact hquiets.settles.awaits k hawaits

/-- It goes on until the native loop or the implementation has its turn. -/
theorem Underway.pauses (hs : Underway setup h n s c) (henv : env.Answers h) {m : Nat}
    (hm : 2 * c.phase.remaining < m) :
    ∃ c', Underway setup h n (s.advanceWithin env h (.mount n) m) c' ∧
      c'.phase = c.phase.goal := by
  -- The induction is on the steps that remain, and the goal stays where it is.
  induction hrest : c.phase.remaining using Nat.strongRecOn generalizing s c m with
  | ind rest ih =>
    subst hrest
    by_cases hpaused : c.phase.Paused
    · obtain ⟨m, rfl⟩ : ∃ m', m = m' + 1 := ⟨m - 1, by omega⟩
      rw [advanceWithin_of_done (feed_of_paused hs.call hpaused)]
      exact ⟨c, hs, hpaused.goal_eq.symm⟩
    · -- One round is enough, or two if it waits for a listener.
      have hround {s : Hosts σ} (hs : Underway setup h n s c) {m : Nat}
          (hready : ∀ k, c.phase = .arming (.awaiting k) → Heard (s.host h) k)
          (hm : 2 * c.phase.remaining ≤ m + 1) :
          ∃ c', Underway setup h n (s.advanceWithin env h (.mount n) (m + 1)) c' ∧
            c'.phase = c.phase.goal := by
        obtain ⟨s', c', hone, hs', hgoal, hless⟩ := hs.goes henv hpaused hready
        rw [hone, ← hgoal]
        exact ih _ hless hs' (by omega) rfl
      by_cases hwaits : ∃ k, c.phase = .arming (.awaiting k) ∧ ¬ Heard (s.host h) k
      · obtain ⟨k, hp, hsilent⟩ := hwaits
        obtain ⟨s', hone, hs', hheard⟩ := hs.waits henv hp hsilent
        have hmore : 0 < c.phase.remaining := by
          rw [hp]
          exact Nat.succ_pos 23
        obtain ⟨m, rfl⟩ : ∃ m', m = m' + 1 + 1 := ⟨m - 2, by omega⟩
        rw [hone]
        refine hround hs' (fun j hj => ?_) (by omega)
        rw [hp] at hj
        cases hj
        exact hheard
      · obtain ⟨m, rfl⟩ : ∃ m', m = m' + 1 := ⟨m - 1, by omega⟩
        refine hround hs (fun k hp => ?_) (by omega)
        by_contra hsilent
        exact hwaits ⟨k, hp, hsilent⟩

/-! ## Inputs -/

/-- A call that pauses holds nothing, and so its host is calm. -/
theorem Underway.calm (hs : Underway setup h n s c) (hpaused : c.phase.Paused) :
    Calm setup (s.world h) := by
  have hcall : (s.world h).host.mounts n = some c := hs.call
  have hnone : c.phase.holds? = none ∧ c.phase.attempt? = none := by
    cases hp : c.phase with
    | initializing call | destroying call =>
      cases call with
      | none => exact ⟨rfl, rfl⟩
      | some phase =>
        rw [hp] at hpaused
        exact hpaused.elim
    | running => exact ⟨rfl, rfl⟩
    | _ =>
      rw [hp] at hpaused
      exact hpaused.elim
  refine hs.alone.calm ?_ ?_
  · simp [holds?, hcall, hnone.1]
  · simp [attempt?_mount, hcall, hnone.2]

/-- A call that was given an input goes on until it pauses. -/
theorem Underway.act (hs : Underway setup h n s c) (henv : env.Answers h) (next : MountPhase)
    {input : Input} {v : World} {told : List Event}
    (hnext : mountStep setup n c input (s.world h) =
      some (v.putMount n { c with phase := next }, told))
    (hcourse : next.OnCourse v.host) :
    ∃ c', Underway setup h n (s.act env h (.mount n) input) c' ∧ c'.phase = next.goal := by
  obtain ⟨u, hu⟩ : ∃ u, u = v.putMount n { c with phase := next } := ⟨_, rfl⟩
  have hself : u.host.mounts n = some { c with phase := next } := by
    rw [hu]
    exact if_pos rfl
  have hstep : Host.step setup (.act (.mount n) input) (s.world h) = some (u, told) := by
    have hcall : (s.world h).host.mounts n = some c := hs.call
    rw [Host.step, hcall, hu]
    exact hnext
  -- The first step is the given one; what comes after it ends in a pause.
  have halone : Alone setup n u := alone_step hs.alone hs.call hs.not_gating hstep
  have hone : Underway setup h n (s.moved h setup u told) { c with phase := next } := by
    refine ⟨has_moved hs.has u told, ?_, ?_, ?_⟩
    · rw [world_moved hs.has]
      exact halone
    · rw [host_moved hs.has, hself]
    · rw [host_moved hs.has, hu]
      exact hcourse.putMount n _
  rw [act_of_step env hs.has hstep]
  exact hone.pauses henv next.two_mul_remaining_lt

/-- The same call while only the surroundings change. -/
theorem Underway.of_same (hs : Underway setup h n s c) {s' : Hosts σ}
    (hmembers : s'.members = s.members) (hprocess : s'.process = s.process) :
    Underway setup h n s' c := by
  have hworld : s'.world h = s.world h := by
    simp only [world, Hosts.host, hmembers, hprocess]
  have hhost : s'.host h = s.host h := congrArg World.host hworld
  obtain ⟨hhas, halone, hcall, hcourse⟩ := hs
  obtain ⟨host, hmember⟩ := hhas
  exact ⟨⟨host, hmembers ▸ hmember⟩, hworld ▸ halone, hhost ▸ hcall, hhost ▸ hcourse⟩

/-- An implementation that is told of the mount comes to an end, whatever it asks. -/
theorem Underway.attend {R : Type} (hs : Underway setup h n s c) (henv : env.Answers h)
    (hphase : c.phase = .initializing none ∨ c.phase = .destroying none)
    (course : Exchange σ UnmountRequest R) :
    ∃ c', Underway setup h n (Hosts.attend env h n course s).2 c' ∧ c'.phase = c.phase := by
  induction course generalizing s c with
  | done result state => exact ⟨c, hs.of_same rfl rfl, rfl⟩
  | ask question state resume ih =>
    have hput : Underway setup h n { s with state } c := hs.of_same rfl rfl
    obtain ⟨c', hs', hphase'⟩ : ∃ c',
        Underway setup h n (Hosts.act env h (.mount n) .callUnmount { s with state }) c' ∧
          c'.phase = c.phase := by
      rcases hphase with hp | hp
      · rw [hp]
        exact hput.act henv (.initializing (some .atGate)) (by simp only [mountStep, hp]; rfl)
          trivial
      · rw [hp]
        exact hput.act henv (.destroying (some .atGate)) (by simp only [mountStep, hp]; rfl) trivial
    obtain ⟨c'', hs'', hphase''⟩ := ih _ _ hs' (hphase' ▸ hphase)
    exact ⟨c'', hs'', hphase''.trans hphase'⟩

/-- The implementation has been told, and the native loop has its turn again. -/
theorem Underway.finishTelling {told : Except Failure Unit × Hosts σ}
    (hs : Underway setup h n told.2 c) (henv : env.Answers h) (operation : String)
    (hphase : c.phase = .initializing none ∨ c.phase = .destroying none) :
    ∃ c', Underway setup h n (Hosts.finishTelling env h n operation told) c' ∧
      c'.phase = .running := by
  have hreport (since : List Event) :
      Underway setup h n { told.2 with events := told.2.events ++ since } c := hs.of_same rfl rfl
  have hleft (since : List Event) : ∃ c', Underway setup h n
      (Hosts.act env h (.mount n) .left { told.2 with events := told.2.events ++ since }) c' ∧
        c'.phase = .running := by
    rcases hphase with hp | hp
    · exact (hreport since).act henv .running (by simp only [mountStep, hp]; rfl) trivial
    · exact (hreport since).act henv (.disarming false) (by simp only [mountStep, hp]; rfl) trivial
  exact hleft _

end Hosts

end HostedFs.Host
