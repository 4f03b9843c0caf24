import HostedFs.Proofs.Host.Locks

/-! # Listeners are minded

    A listener that was not told to stop, and has not failed, is about to be put
    into the host's place for it or is there. While there is one in that place, some
    call to mount has yet to take it out. So no listener is left over when all calls
    to mount have returned.

    * `MountPhase.arms?`, `MountPhase.minds`: the listener that a call is arming, and
      that it has yet to look into the place.
    * `Tends`, `mountStep_tends`: what a call does for listeners by one step.
    * `Minded`, `minded_run`: every listener is minded after every run.
-/

namespace HostedFs.Host

variable {setup : Setup}

/-! ## Calls that mind listeners -/

/-- The listener that is started or ready, and not yet in its place. -/
def MountPhase.arms? : MountPhase → Option Nat
  | .arming (.awaiting n) | .arming (.storing n _) => some n
  | _ => none

/-- The call has started its filesystem, and has yet to take the listener out of its
    place. -/
def MountPhase.minds : MountPhase → Bool
  | .running | .starting .. | .arming _ | .initializing _ | .destroying _ | .disarming _
  | .closing _ | .taking .. => true
  | _ => false

/-- What a call to mount does for listeners when it comes from one phase to another. -/
structure Tends (w v : World) (phase phase' : MountPhase) : Prop where
  /-- A listener leaves its place only to stop. -/
  placed : ∀ k, w.host.listener = some k → (∃ l, w.host.listeners k = some l) →
    v.host.listener = some k ∨ ∃ l, v.host.listeners k = some l ∧ l.stopping
  /-- The call minds the listener that it puts there. -/
  put : ∀ k, v.host.listener = some k → w.host.listener = some k ∨ phase'.minds
  minds : phase.minds → phase'.minds ∨ v.host.listener = none
  arms : ∀ k, phase.arms? = some k → phase'.arms? = some k ∨ v.host.listener = some k ∨
    ∃ l error, v.host.listeners k = some l ∧ l.ready = some (.error error)
  born : ∀ k l, w.host.listeners k = none → v.host.listeners k = some l → phase'.arms? = some k

namespace Tends

variable {w v : World} {phase phase' : MountPhase}

/-- Most steps leave the listeners alone. -/
theorem of_same (h : SameThreads w v) (minds : phase.minds → phase'.minds)
    (arms : phase.arms? = none ∨ phase.arms? = phase'.arms?) : Tends w v phase phase' where
  placed k hk _ := .inl (h.listener.trans hk)
  put k hk := .inl (h.listener.symm.trans hk)
  minds hminds := .inl (minds hminds)
  arms k hk := by
    rcases arms with hnone | hsame
    · exact absurd (hnone.symm.trans hk) (by simp)
    · exact .inl (hsame.symm.trans hk)
  born k l hnone hl := by
    rw [h.listeners, hnone] at hl
    cases hl

end Tends

/-! ## Steps -/

section locks

variable {r : Role} {w v : World}

theorem sameThreads_lockRecord (h : w.lockRecord r = some v) : SameThreads w v := by
  obtain ⟨-, rfl⟩ := World.lockRecord_eq_some_iff.mp h
  exact ⟨rfl, rfl, rfl, rfl⟩

theorem sameThreads_lockListener (h : w.lockListener r = some v) : SameThreads w v := by
  obtain ⟨-, rfl⟩ := World.lockListener_eq_some_iff.mp h
  exact ⟨rfl, rfl, rfl, rfl⟩

theorem sameThreads_lockBridge (h : w.lockBridge setup r = some v) : SameThreads w v := by
  obtain ⟨-, rfl⟩ := World.lockBridge_eq_some_iff.mp h
  exact ⟨rfl, rfl, rfl, rfl⟩

theorem sameThreads_lockGate (h : w.lockGate r = some v) : SameThreads w v := by
  obtain ⟨-, rfl⟩ := World.lockGate_eq_some_iff.mp h
  exact ⟨rfl, rfl, rfl, rfl⟩

end locks

/-- An attempt to unmount leaves the calls, the listeners and the listener's place. -/
theorem unmountStep_sameThreads {r : Role} {phase : UnmountPhase} {input : Input} {w w' : World}
    {call : UnmountCall} {events : List Event}
    (h : unmountStep r phase input w = some (call, w', events)) : SameThreads w w' := by
  cases unmountStep_deed h with
  | pass lock => exact sameThreads_lockGate lock
  | look lock | lookAgain lock => exact sameThreads_lockRecord lock
  | _ => exact ⟨rfl, rfl, rfl, rfl⟩

theorem listenerStep_sameThreads {n : Nat} {l : Listener} {input : Input} {w w' : World}
    {events : List Event} (hstep : listenerStep setup n l input w = some (w', events)) :
    ∃ v l', w' = v.putListener n l' ∧ SameThreads w v := by
  obtain ⟨v, l', hput, deed⟩ := listenerStep_deed hstep
  refine ⟨v, l', hput, ?_⟩
  cases deed with
  | attempt h attempts | unmounted h attempts | refused h attempts =>
    exact unmountStep_sameThreads attempts
  | lockBridge h lock => exact sameThreads_lockBridge lock
  | _ => exact ⟨rfl, rfl, rfl, rfl⟩

theorem stopListener_eq_none {w : World} (n : Nat) {k : Nat} (hk : w.host.listeners k = none) :
    (w.stopListener n).host.listeners k = none := by
  unfold World.stopListener
  cases hl : w.host.listeners n with
  | none => exact hk
  | some l =>
    have hkn : k ≠ n := by
      rintro rfl
      exact absurd (hk.symm.trans hl) (by simp)
    exact (if_neg hkn).trans hk

section stopPlaced

variable {w : World} {k : Nat}

theorem stopPlaced_stopping {l : Listener} (hk : w.host.listener = some k)
    (hl : w.host.listeners k = some l) :
    w.stopPlaced.host.listeners k = some { l with stopping := true } := by
  simp [World.stopPlaced, hk, World.stopListener, World.putListener, hl]

theorem stopPlaced_eq_none (hk : w.host.listeners k = none) :
    w.stopPlaced.host.listeners k = none := by
  unfold World.stopPlaced
  split
  · exact stopListener_eq_none _ hk
  · exact hk

end stopPlaced

/-- Whatever is done with the place, whoever was there has to stop. -/
theorem Tends.of_stop {w v : World} {phase phase' : MountPhase}
    (listeners : v.host.listeners = w.stopPlaced.host.listeners)
    (put : ∀ k, v.host.listener = some k → w.host.listener = some k ∨ phase'.minds)
    (minds : phase'.minds ∨ v.host.listener = none)
    (arms : ∀ k, phase.arms? = some k → v.host.listener = some k) : Tends w v phase phase' where
  placed k hk hthere := by
    obtain ⟨l, hl⟩ := hthere
    refine .inr ⟨{ l with stopping := true }, ?_, rfl⟩
    rw [listeners]
    exact stopPlaced_stopping hk hl
  put := put
  minds _ := minds
  arms k hk := .inr (.inl (arms k hk))
  born k l hnone hl := by
    rw [listeners, stopPlaced_eq_none hnone] at hl
    cases hl

theorem armStep_tends {r : Role} {phase : ArmPhase} {input : Input} {w w' : World}
    {arming : Arming} {events : List Event}
    (h : armStep setup r phase input w = some (arming, w', events)) :
    Tends w w' (.arming phase) arming.next := by
  cases armStep_deed h with
  | lockBridge takes lock =>
    cases takes <;> exact .of_same (sameThreads_lockBridge lock) (fun _ => rfl) (.inl rfl)
  | lockListener lock => exact .of_same (sameThreads_lockListener lock) (fun _ => rfl) (.inr rfl)
  | spawn =>
    -- A listener starts, and its call waits for word from it.
    refine ⟨fun _ hk _ => .inl hk, fun _ hk => .inl hk, fun _ => .inl rfl,
      by simp [MountPhase.arms?], ?_⟩
    intro k l hnone hl
    by_cases hk : k = w.host.nextListener
    · rw [hk]
      rfl
    · exact absurd (hnone.symm.trans ((if_neg hk).symm.trans hl)) (by simp)
  | ready => exact .of_same ⟨rfl, rfl, rfl, rfl⟩ (fun _ => rfl) (.inr rfl)
  | @failed n l error known said =>
    -- The call goes on waiting for the listener, which has failed.
    refine ⟨fun _ hk _ => .inl hk, fun _ hk => .inl hk, fun _ => .inl rfl, ?_, ?_⟩
    · intro k hk
      cases hk
      exact .inr (.inr ⟨l, error, known, said⟩)
    · intro k k' hnone hk
      exact absurd (hnone.symm.trans hk) (by simp)
  | store =>
    -- The listener is put into its place, and the one that was there has to stop.
    refine .of_stop rfl (fun _ _ => .inr rfl) (.inl rfl) ?_
    intro k hk
    cases hk
    rfl
  | register | unregistered | unspawned | abandon | joined =>
    exact .of_same ⟨rfl, rfl, rfl, rfl⟩ (fun _ => rfl) (.inl rfl)

/-- A call that takes a lock goes on minding what it has minded. -/
theorem TakesRecord.tends {w v : World} {phase phase' : MountPhase}
    (h : TakesRecord phase phase') (hsame : SameThreads w v) : Tends w v phase phase' := by
  cases h <;> exact .of_same hsame id (.inl rfl)

theorem TakesListener.tends {w v : World} {phase phase' : MountPhase}
    (h : TakesListener phase phase') (hsame : SameThreads w v) : Tends w v phase phase' := by
  cases h <;> exact .of_same hsame id (.inl rfl)

/-- So does one within the call of an implementation. -/
theorem CalledIn.tends {within : Option UnmountPhase → MountPhase} {w v : World}
    (h : CalledIn within) (hsame : SameThreads w v) (call call' : Option UnmountPhase) :
    Tends w v (within call) (within call') := by
  cases h <;> exact .of_same hsame (fun _ => rfl) (.inl rfl)

/-- What a call to mount does is what is due to listeners. -/
theorem MountDeed.tends {n : Nat} {c c' : MountCall} {input : Input} {w v : World}
    {events : List Event} (deed : MountDeed setup n c w input v c' events) :
    Tends w v c.phase c'.phase := by
  cases deed with
  | lockRecord takes lock => exact takes.tends (sameThreads_lockRecord lock)
  | lockListener takes lock => exact takes.tends (sameThreads_lockListener lock)
  | shut h lock =>
    rw [h]
    exact .of_same (sameThreads_lockGate lock) nofun (.inl rfl)
  | claim h | refuse h | unprepared h | spoiled h | prepared h | name h | enter h | joined h
  | reopen h | release h | reset h =>
    -- Before its start and after its end a call minds no listener.
    rw [h]
    exact .of_same ⟨rfl, rfl, rfl, rfl⟩ nofun (.inl rfl)
  | callInit h | callDestroy h | loopReturned h | initialized h | gone h | close h =>
    -- In between it goes on minding the one that is in its place.
    rw [h]
    exact .of_same ⟨rfl, rfl, rfl, rfl⟩ (fun _ => rfl) (.inl rfl)
  | start h =>
    rw [h]
    cases setup.listens <;> exact .of_same ⟨rfl, rfl, rfl, rfl⟩ (fun _ => rfl) (.inl rfl)
  | arm h arms =>
    rw [h]
    exact armStep_tends arms
  | ask called h =>
    rw [h]
    exact called.tends ⟨rfl, rfl, rfl, rfl⟩ _ _
  | attempt called h attempts =>
    rw [h]
    exact called.tends (unmountStep_sameThreads attempts) _ _
  | disarm h =>
    rw [h]
    exact .of_stop rfl (fun _ _ => .inr rfl) (.inl rfl) nofun
  | take h placed =>
    rw [h]
    refine .of_stop ?_ nofun (.inr rfl) nofun
    rw [World.stopPlaced, placed]
    rfl
  | takeNone h empty =>
    rw [h]
    exact ⟨fun _ hk _ => .inl hk, fun _ hk => .inl hk, fun _ => .inr empty, nofun,
      fun _ _ hnone hl => absurd (hnone.symm.trans hl) (by simp)⟩

/-- A step of a call to mount does for listeners what is due. -/
theorem mountStep_tends {n : Nat} {c : MountCall} {input : Input} {w w' : World}
    {events : List Event} (h : mountStep setup n c input w = some (w', events)) :
    ∃ v c', w' = v.putMount n c' ∧ Tends w v c.phase c'.phase := by
  obtain ⟨v, c', hput, deed⟩ := mountStep_deed h
  exact ⟨v, c', hput, deed.tends⟩

/-! ## Every listener -/

/-- Every listener that has not to stop and has not failed is in the host's place for
    it or is being armed, and a call to mount minds what is in that place. -/
structure Minded (w : World) : Prop where
  listeners : ∀ k l, w.host.listeners k = some l →
    l.stopping ∨ (∃ error, l.ready = some (.error error)) ∨ w.host.listener = some k ∨
      ∃ n c, w.host.mounts n = some c ∧ c.phase.arms? = some k
  place : ∀ k, w.host.listener = some k → ∃ n c, w.host.mounts n = some c ∧ c.phase.minds

theorem minded_start (p : Process) : Minded ⟨p, {}⟩ where
  listeners _ _ h := by cases h
  place _ h := by cases h

/-- Listeners are minded as long as the calls to mount stay where they are. -/
theorem Minded.mono {w w' : World} (hw : Minded w) (hattended : Attended w)
    (mounts : ∀ n c, w.host.mounts n = some c → w'.host.mounts n = some c)
    (listener : w'.host.listener = w.host.listener)
    (listeners : ∀ k l, w.host.listeners k = some l →
      ∃ l', w'.host.listeners k = some l' ∧ l.Follows l')
    (born : ∀ k, w.host.listeners k = none → w'.host.listeners k = none) : Minded w' where
  listeners k l hl := by
    cases hbefore : w.host.listeners k with
    | none => exact absurd ((born k hbefore).symm.trans hl) (by simp)
    | some l₀ =>
      obtain ⟨l', hl', hfollows⟩ := listeners k l₀ hbefore
      cases hl.symm.trans hl'
      rcases hw.listeners k l₀ hbefore with hstop | ⟨error, hfailed⟩ | hplaced | ⟨n, c, hc, harms⟩
      · exact .inl (hfollows.stopping hstop)
      · exact .inr (.inl ⟨error, hfollows.ready (hattended.fits k l₀ hbefore) _ hfailed⟩)
      · exact .inr (.inr (.inl (listener.trans hplaced)))
      · exact .inr (.inr (.inr ⟨n, c, mounts n c hc, harms⟩))
  place k hk := by
    obtain ⟨n, c, hc, hminds⟩ := hw.place k (listener.symm.trans hk)
    exact ⟨n, c, mounts n c hc, hminds⟩

/-- No other step than one of a call to mount bears on the place of the listener, or
    starts one. -/
theorem step_still {label : Label} {w w' : World} {events : List Event}
    (h : step setup label w = some (w', events))
    (hlabel : ∀ n input, label ≠ .act (.mount n) input) :
    w'.host.listener = w.host.listener ∧
      ∀ k, w.host.listeners k = none → w'.host.listeners k = none := by
  cases step_deed h with
  | mount | unmount | deliver | ignore => exact ⟨rfl, fun _ => id⟩
  | mounting => exact absurd rfl (hlabel _ _)
  | unmounting known goes =>
    have hv := unmountStep_sameThreads goes
    exact ⟨hv.listener, fun k hk => (congrFun hv.listeners k).trans hk⟩
  | @listening n _ l _ _ known goes =>
    obtain ⟨v, l', rfl, hv⟩ := listenerStep_sameThreads goes
    refine ⟨hv.listener, fun k hk => ?_⟩
    have hkn : k ≠ n := by
      rintro rfl
      exact absurd (hk.symm.trans known) (by simp)
    exact (if_neg hkn).trans ((congrFun hv.listeners k).trans hk)

theorem minded_step {label : Label} {w w' : World} {events : List Event} (hn : Numbered w)
    (ha : Attended w) (hw : Minded w) (h : step setup label w = some (w', events)) :
    Minded w' := by
  have hlisteners : ∀ k l, w.host.listeners k = some l →
      ∃ l', w'.host.listeners k = some l' ∧ l.Follows l' := fun k l => step_listener hn h
  by_cases hlabel : ∃ n input, label = .act (.mount n) input
  · obtain ⟨n, input, rfl⟩ := hlabel
    have hothers : ∀ m, m ≠ n → ∀ c, w.host.mounts m = some c → w'.host.mounts m = some c :=
      fun m hmn => (step_turns hn h).others (.mount m) (by simpa using hmn)
    obtain ⟨c, hc, h⟩ := Option.bind_eq_some_iff.mp h
    obtain ⟨v, c', rfl, tends⟩ := mountStep_tends h
    have hnext : (v.putMount n c').host.mounts n = some c' := if_pos rfl
    constructor
    · intro k l hl
      cases hbefore : w.host.listeners k with
      | none => exact .inr (.inr (.inr ⟨n, c', hnext, tends.born k l hbefore hl⟩))
      | some l₀ =>
        obtain ⟨l', hl', hfollows⟩ := hlisteners k l₀ hbefore
        cases hl.symm.trans hl'
        -- Where was the listener before, and what does the call that moves do about it?
        rcases hw.listeners k l₀ hbefore with hstop | ⟨error, hfailed⟩ | hplaced | ⟨m, d, hd, harms⟩
        · exact .inl (hfollows.stopping hstop)
        · exact .inr (.inl ⟨error, hfollows.ready (ha.fits k l₀ hbefore) _ hfailed⟩)
        · -- In its place, which it leaves only to stop.
          rcases tends.placed k hplaced ⟨l₀, hbefore⟩ with hstays | ⟨l', hl', hstop⟩
          · exact .inr (.inr (.inl hstays))
          · cases hl.symm.trans hl'
            exact .inl hstop
        · by_cases hmn : m = n
          · subst hmn
            cases hc.symm.trans hd
            -- Being armed by the call that moves: it is armed still, is put there, or has failed.
            rcases tends.arms k harms with harms' | hplaced | ⟨l', error, hl', hfailed⟩
            · exact .inr (.inr (.inr ⟨m, c', hnext, harms'⟩))
            · exact .inr (.inr (.inl hplaced))
            · cases hl.symm.trans hl'
              exact .inr (.inl ⟨error, hfailed⟩)
          · exact .inr (.inr (.inr ⟨m, d, hothers m hmn d hd, harms⟩))
    · intro k hk
      -- The one in the place was there before, or the call has just put it there.
      rcases tends.put k hk with hplaced | hminds
      · obtain ⟨m, d, hd, hminds⟩ := hw.place k hplaced
        by_cases hmn : m = n
        · subst hmn
          cases hc.symm.trans hd
          rcases tends.minds hminds with hminds' | hempty
          · exact ⟨m, c', hnext, hminds'⟩
          · exact absurd (hempty.symm.trans hk) (by simp)
        · exact ⟨m, d, hothers m hmn d hd, hminds⟩
      · exact ⟨n, c', hnext, hminds⟩
  · have hown : ∀ n input, label ≠ .act (.mount n) input :=
      fun n input heq => hlabel ⟨n, input, heq⟩
    -- Other steps bear neither on the place nor on who is started.
    obtain ⟨hplace, hborn⟩ := step_still h hown
    exact hw.mono ha (fun n => step_stays hn h (hown n)) hplace hlisteners hborn

/-- After every run all listeners are minded. -/
theorem minded_run {p : Process} {labels : List Label} {w : World} {events : List Event}
    (h : run setup labels ⟨p, {}⟩ = some (w, events)) : Minded w :=
  induction_from (run_nil _) (P := fun _ w _ => Minded w) (minded_start p)
    (fun _ _ _ _ _ _ hrun hv hstep _ =>
      minded_step (numbered_run hrun) (attended_run hrun) hv hstep) h

end HostedFs.Host
