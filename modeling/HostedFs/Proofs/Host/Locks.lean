import HostedFs.Proofs.Host.Threads

/-! # Locks and what threads wait for

    A lock is held by a thread that gives it back by its next step, and a call
    to mount waits for listeners that there are.

    * `Locked`, `locked_run`: whoever holds a lock is where it holds it.
    * `step_of_holds`: a thread that holds a lock can take its next step.
    * `Attended`, `attended_run`: the listener that a call waits for is there,
      and was told to stop if the call waits for its end.
-/

namespace HostedFs.Host

variable {setup : Setup}

/-! ## Who holds a lock -/

/-- Whoever holds a lock is a thread of the host that is where it holds it. -/
def Locked (setup : Setup) (w : World) : Prop :=
  ∀ lock holder, w.holder setup lock = some holder →
    ∃ r, holder = (setup.number, r) ∧ holds? w.host r = some lock

theorem locked_start {p : Process} (hp : p.bridgeLock = none) : Locked setup ⟨p, {}⟩ := by
  intro lock holder h
  cases lock with
  | bridge => cases hp.symm.trans h
  | _ => cases h

theorem locked_step {label : Label} {w w' : World} {events : List Event} (hn : Numbered w)
    (hw : Locked setup w) (h : step setup label w = some (w', events)) : Locked setup w' := by
  intro lock holder hholder
  by_cases hlabel : ∃ r input, label = .act r input
  · obtain ⟨r, input, rfl⟩ := hlabel
    have hturns := step_turns hn h
    by_cases hheld : holds? w.host r = some lock
    · exact absurd ((hturns.released lock hheld).symm.trans hholder) (by simp)
    · -- `r` does not hold the lock before the step: its holder keeps it, or `r` takes it.
      rcases hturns.taken lock hheld with hsame | ⟨hnew, hholds⟩
      · obtain ⟨s, rfl, hs⟩ := hw lock holder (hsame.symm.trans hholder)
        have hsr : s ≠ r := by
          intro heq
          subst heq
          exact hheld hs
        exact ⟨s, rfl, holds?_of_stays (hturns.others s hsr) hs⟩
      · cases hnew.symm.trans hholder
        exact ⟨r, rfl, hholds⟩
  · have hcall : ∀ r input, label ≠ .act r input := fun r input heq => hlabel ⟨r, input, heq⟩
    rw [holder_of_call h hcall] at hholder
    obtain ⟨s, rfl, hs⟩ := hw lock holder hholder
    exact ⟨s, rfl, holds?_of_stays (step_stays hn h (hcall s)) hs⟩

theorem locked_run {p : Process} {labels : List Label} {w : World} {events : List Event}
    (hp : p.bridgeLock = none) (h : run setup labels ⟨p, {}⟩ = some (w, events)) :
    Locked setup w :=
  induction_from (run_nil _) (P := fun _ w _ => Locked setup w) (locked_start hp)
    (fun _ _ _ _ _ _ hrun hv hstep _ => locked_step (numbered_run hrun) hv hstep) h

theorem step_of_unmount_holds {r : Role} {phase : UnmountPhase} {lock : Lock} (w : World)
    (h : phase.holds? = some lock) :
    ∃ call v events, unmountStep r phase .go w = some (call, v, events) := by
  cases phase with
  | checking held =>
    cases held with
    | false => cases h
    | true =>
      by_cases hstate : w.host.record.state = .mounted
      · exact ⟨_, _, _, if_pos hstate⟩
      · exact ⟨_, _, _, if_neg hstate⟩
  | restoring mountpoint held =>
    cases held with
    | false => cases h
    | true => exact ⟨_, _, _, rfl⟩
  | _ => cases h

theorem step_of_attempt_holds {r : Role} {w : World} {phase : UnmountPhase} {lock : Lock}
    (h : attempt? w.host r = some phase) (hlock : phase.holds? = some lock) :
    ∃ v events, step setup (.act r .go) w = some (v, events) := by
  obtain ⟨call, u, told, hattempt⟩ := step_of_unmount_holds (r := r) w hlock
  have hnext : ∃ v events, step setup (.act r .go) w = some (v, events) ∧ _ :=
    step_of_unmountStep h hattempt
  obtain ⟨v, events, hstep, -⟩ := hnext
  exact ⟨v, events, hstep⟩

theorem step_of_arm_holds {r : Role} {phase : ArmPhase} {lock : Lock} (w : World)
    (h : phase.holds? = some lock) :
    ∃ arming v events, armStep setup r phase .go w = some (arming, v, events) := by
  cases phase with
  | registering held | abandoning _ _ held | storing _ held =>
    cases held with
    | false => cases h
    | true => exact ⟨_, _, _, rfl⟩
  | _ => cases h

/-- A thread that holds a lock can take its next step. -/
theorem step_of_holds {r : Role} {w : World} {lock : Lock} (h : holds? w.host r = some lock) :
    ∃ v events, step setup (.act r .go) w = some (v, events) := by
  cases r with
  | mount n =>
    obtain ⟨c, hc, hheld⟩ := Option.bind_eq_some_iff.mp h
    cases hp : c.phase with
    | initializing call | destroying call =>
      rw [hp] at hheld
      obtain ⟨phase, rfl, hphase⟩ := Option.bind_eq_some_iff.mp hheld
      refine step_of_attempt_holds ?_ hphase
      simp [attempt?_mount, hc, hp, MountPhase.attempt?]
    | arming phase =>
      rw [hp] at hheld
      -- With the bridge or the place in its hands, the arming has its next step.
      have hnext : ∃ arming v told, armStep setup (.mount n) phase .go w = some (arming, v, told) :=
        step_of_arm_holds w hheld
      obtain ⟨arming, v, told, harm⟩ := hnext
      cases arming <;> simp [step, hc, mountStep, hp, harm]
    | claiming held =>
      cases held with
      | false => simp [hp, MountPhase.holds?] at hheld
      | true =>
        -- The call claims the host or is refused, and steps either way.
        by_cases hstate : w.host.record.state = .unmounted <;>
          simp [step, hc, mountStep, hp, hstate]
    | naming _ held | starting _ held | closing held | resetting _ held | disarming held =>
      cases held with
      | false => simp [hp, MountPhase.holds?] at hheld
      | true => simp [step, hc, mountStep, hp]
    | taking _ held =>
      cases held with
      | false => simp [hp, MountPhase.holds?] at hheld
      | true => cases hl : w.host.listener <;> simp [step, hc, mountStep, hp, hl]
    | _ => simp [hp, MountPhase.holds?] at hheld
  | unmount n =>
    obtain ⟨call, hcall, hheld⟩ := Option.bind_eq_some_iff.mp h
    cases call with
    | finished result => cases hheld
    | running phase =>
      refine step_of_attempt_holds ?_ hheld
      simp [attempt?_unmount, hcall, UnmountCall.attempt?]
  | listener n =>
    obtain ⟨l, hl, hheld⟩ := Option.bind_eq_some_iff.mp h
    cases hp : l.phase with
    | calling phase =>
      rw [hp] at hheld
      refine step_of_attempt_holds ?_ hheld
      simp [attempt?_listener, hl, hp, ListenerPhase.attempt?]
    | closing held =>
      cases held with
      | false => simp [hp, ListenerPhase.holds?] at hheld
      | true => simp [step, hl, listenerStep, hp]
    | _ => simp [hp, ListenerPhase.holds?] at hheld

/-! ## Listeners that are waited for -/

/-- Listeners stay, and say once whether they are ready. -/
theorem step_listener {label : Label} {w w' : World} {events : List Event} (hw : Numbered w)
    (h : step setup label w = some (w', events)) {n : Nat} {l : Listener}
    (hl : w.host.listeners n = some l) :
    ∃ l', w'.host.listeners n = some l' ∧ l.Follows l' := by
  by_cases hown : ∃ input, label = .act (.listener n) input
  · obtain ⟨input, rfl⟩ := hown
    cases step_deed h with
    | listening known goes =>
      cases hl.symm.trans known
      obtain ⟨v, l', rfl, hfollows, -⟩ := listenerStep_shared goes
      exact ⟨l', if_pos rfl, hfollows⟩
  · have hstays : Stays w w' (.listener n) := step_stays hw h fun input heq => hown ⟨input, heq⟩
    obtain ⟨l', hl', rfl | rfl⟩ := hstays l hl
    · exact ⟨_, hl', id, fun _ _ => id, id⟩
    · exact ⟨_, hl', l.follows_stop⟩

/-- A listener that is new has done nothing yet. -/
theorem step_born {label : Label} {w w' : World} {events : List Event} (hw : Numbered w)
    (h : step setup label w = some (w', events)) {n : Nat} {l : Listener}
    (hnone : w.host.listeners n = none) (hl : w'.host.listeners n = some l) :
    ∃ slot, l = { slot } := by
  cases step_deed h with
  | mount | unmount | deliver | ignore => exact absurd (hnone.symm.trans hl) (by simp)
  | mounting known goes =>
    -- Only a call to mount starts listeners.
    obtain ⟨v, c', rfl, hshared, -⟩ := mountStep_shared hw goes
    exact hshared.born n l hnone hl
  | @unmounting m _ _ _ v _ known goes =>
    have hshared : Shared setup _ _ _ w v := unmountStep_shared goes
    exact hshared.born n l hnone hl
  | @listening m _ _ _ _ known goes =>
    obtain ⟨v, l', rfl, -, hshared⟩ := listenerStep_shared goes
    -- A listener that moves was there before.
    have hnm : n ≠ m := by
      intro heq
      subst heq
      exact absurd (hnone.symm.trans known) (by simp)
    exact hshared.born n l hnone ((if_neg hnm).symm.trans hl)

/-- The listeners of a host are what those who wait for them rely on. -/
structure Attended (w : World) : Prop where
  fits : ∀ n l, w.host.listeners n = some l → l.Fits
  placed : Placed w.host
  calls : ∀ n c, w.host.mounts n = some c → c.phase.Attended w.host

theorem MountPhase.Attended.mono {w w' : World} {phase : MountPhase}
    (h : phase.Attended w.host) (hfits : ∀ n l, w.host.listeners n = some l → l.Fits)
    (hlisteners : ∀ n l, w.host.listeners n = some l →
      ∃ l', w'.host.listeners n = some l' ∧ l.Follows l') : phase.Attended w'.host := by
  have hthere {n : Nat} (hn : ∃ l, w.host.listeners n = some l) :
      ∃ l, w'.host.listeners n = some l := by
    obtain ⟨l, hl⟩ := hn
    obtain ⟨l', hl', -⟩ := hlisteners n l hl
    exact ⟨l', hl'⟩
  cases phase with
  | arming phase =>
    cases phase with
    | awaiting n | storing n _ => exact hthere h
    -- A listener that has failed to start does not take it back.
    | joining n error =>
      obtain ⟨l, said, hl, hsaid⟩ := h
      obtain ⟨l', hl', hfollows⟩ := hlisteners n l hl
      exact ⟨l', said, hl', hfollows.ready (hfits n l hl) _ hsaid⟩
    | _ => trivial
  -- Nor is one that has to stop told to go on.
  | joining status n =>
    obtain ⟨l, hl, hstopping⟩ := h
    obtain ⟨l', hl', hfollows⟩ := hlisteners n l hl
    exact ⟨l', hl', hfollows.stopping hstopping⟩
  | _ => trivial

theorem stopListener_listener (w : World) (n : Nat) :
    (w.stopListener n).host.listener = w.host.listener := by
  unfold World.stopListener
  cases w.host.listeners n <;> rfl

theorem stopPlaced_listener (w : World) : w.stopPlaced.host.listener = w.host.listener := by
  unfold World.stopPlaced
  split
  · exact stopListener_listener w _
  · rfl

theorem UnmountPhase.holds?_ne_place (phase : UnmountPhase) : phase.holds? ≠ some .place := by
  cases phase with
  | checking held | restoring _ held => cases held <;> simp [holds?]
  | _ => simp [holds?]

theorem ListenerPhase.holds?_ne_place (phase : ListenerPhase) : phase.holds? ≠ some .place := by
  cases phase with
  | calling phase => exact phase.holds?_ne_place
  | closing held => cases held <;> simp [holds?]
  | _ => simp [holds?]

/-- A listener that comes to the host's place for it was there before. -/
theorem armStep_place {r : Role} {phase : ArmPhase} {input : Input} {w w' : World}
    {arming : Arming} {events : List Event} (hw : Numbered w) (hphase : phase.Attended w.host)
    (h : armStep setup r phase input w = some (arming, w', events)) {m : Nat}
    (hm : w'.host.listener = some m) :
    w.host.listener = some m ∨ ∃ l, w.host.listeners m = some l := by
  have hkept (hlock : phase.holds? ≠ some .place) : w.host.listener = some m :=
    ((armStep_shared hw h).1.place hlock).symm.trans hm
  cases armStep_deed h with
  | store =>
    -- The listener is put into the host's place.
    cases hm
    exact .inr hphase
  | lockBridge takes =>
    cases takes <;> exact .inl (hkept (by simp [ArmPhase.holds?]))
  | _ => exact .inl (hkept (by simp [ArmPhase.holds?]))

/-- A listener that comes to the host's place for it was there before. -/
theorem mountStep_place {n : Nat} {c : MountCall} {input : Input} {w w' : World}
    {events : List Event} (hw : Numbered w) (hattended : c.phase.Attended w.host)
    (hstep : mountStep setup n c input w = some (w', events)) {m : Nat}
    (hm : w'.host.listener = some m) :
    w.host.listener = some m ∨ ∃ l, w.host.listeners m = some l := by
  obtain ⟨v, c', rfl, deed⟩ := mountStep_deed hstep
  -- Whoever does not hold the lock of the place leaves it as it is.
  have hkept (hlock : c.phase.holds? ≠ some .place) : w.host.listener = some m :=
    ((deed.shared hw).place hlock).symm.trans hm
  cases deed with
  | arm h arms =>
    rw [h] at hattended
    exact armStep_place hw hattended arms hm
  | disarm => exact .inl ((stopPlaced_listener w).symm.trans hm)
  | take => cases hm
  | takeNone => exact .inl hm
  | lockRecord takes | lockListener takes =>
    exact .inl (hkept (by rw [takes.holds?.1]; nofun))
  | ask called h => exact .inl hm
  | attempt called h =>
    refine .inl (hkept ?_)
    rw [h, called.holds?]
    exact UnmountPhase.holds?_ne_place _
  | claim h | refuse h | unprepared h | spoiled h | prepared h | name h | enter h | callInit h
  | callDestroy h | loopReturned h | start h | initialized h | gone h | close h | joined h | shut h
  | reopen h | release h | reset h => exact .inl (hkept (by rw [h]; nofun))

theorem step_place {label : Label} {w w' : World} {events : List Event} (hw : Numbered w)
    (ha : Attended w) (h : step setup label w = some (w', events)) {m : Nat}
    (hm : w'.host.listener = some m) :
    w.host.listener = some m ∨ ∃ l, w.host.listeners m = some l := by
  cases step_deed h with
  | mount | unmount | deliver | ignore => exact .inl hm
  | @mounting n _ c _ _ known goes => exact mountStep_place hw (ha.calls n c known) goes hm
  | @unmounting n _ phase _ v _ known goes =>
    have hshared : Shared setup _ _ _ w v := unmountStep_shared goes
    exact .inl ((hshared.place phase.holds?_ne_place).symm.trans hm)
  | @listening n _ l _ _ known goes =>
    obtain ⟨v, l', rfl, -, hshared⟩ := listenerStep_shared goes
    exact .inl ((hshared.place l.phase.holds?_ne_place).symm.trans hm)

theorem attended_step {label : Label} {w w' : World} {events : List Event} (hw : Numbered w)
    (ha : Attended w) (h : step setup label w = some (w', events)) : Attended w' := by
  have hlisteners : ∀ n l, w.host.listeners n = some l →
      ∃ l', w'.host.listeners n = some l' ∧ l.Follows l' := fun n l => step_listener hw h
  constructor
  · -- `fits`: a listener is new, or it follows the one that was there.
    intro n l hl
    cases hbefore : w.host.listeners n with
    | none =>
      obtain ⟨slot, rfl⟩ := step_born hw h hbefore hl
      exact Listener.fits_new slot
    | some k =>
      obtain ⟨l', hl', hfollows⟩ := hlisteners n k hbefore
      cases hl.symm.trans hl'
      exact hfollows.fits (ha.fits n k hbefore)
  · -- `placed`: nobody leaves the table of listeners.
    intro m hm
    have hthere : ∃ l, w.host.listeners m = some l := by
      rcases step_place hw ha h hm with hplaced | hthere
      · exact ha.placed m hplaced
      · exact hthere
    obtain ⟨l, hl⟩ := hthere
    obtain ⟨l', hl', -⟩ := hlisteners m l hl
    exact ⟨l', hl'⟩
  · intro n c hc
    by_cases hown : ∃ input, label = .act (.mount n) input
    · obtain ⟨input, rfl⟩ := hown
      -- The call itself moves.
      obtain ⟨d, hd, h⟩ := Option.bind_eq_some_iff.mp h
      obtain ⟨v, c', rfl, -, hattended⟩ := mountStep_shared hw h
      cases (if_pos rfl).symm.trans hc
      exact hattended ha.placed (ha.calls n d hd)
    · cases hbefore : w.host.mounts n with
      | none =>
        have hnew : w.outline.mounts n = none := Option.map_eq_none_iff.mpr hbefore
        obtain ⟨_, _, -, houter⟩ := (step_move hw h).new_call hnew (outline_mounts hc)
        -- It begins, and waits for nobody yet.
        have hphase : c.phase.outer = .claiming false := congrArg MountCall.phase houter
        cases hp : c.phase with
        | claiming held => trivial
        | _ =>
          rw [hp] at hphase
          cases hphase
      | some before =>
        -- It stays while another thread moves, and the listeners only come further.
        have hstays : Stays w w' (.mount n) :=
          step_stays hw h fun input heq => hown ⟨input, heq⟩
        cases (hstays before hbefore).symm.trans hc
        exact (ha.calls n _ hbefore).mono ha.fits hlisteners

theorem attended_run {p : Process} {labels : List Label} {w : World} {events : List Event}
    (h : run setup labels ⟨p, {}⟩ = some (w, events)) : Attended w := by
  refine induction_from (run_nil _) (P := fun _ w _ => Attended w) ?_ ?_ h
  · exact ⟨fun _ _ hl => (by cases hl), fun _ hm => (by cases hm), fun _ _ hc => (by cases hc)⟩
  · intro labels v early label w late hrun hv hstep _
    exact attended_step (numbered_run hrun) hv hstep

end HostedFs.Host
