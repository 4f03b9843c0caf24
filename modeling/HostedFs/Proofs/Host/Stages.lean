import HostedFs.Proofs.Host.Minding
import HostedFs.Proofs.Host.Scheduling

/-! # The start and the end of a filesystem

    Between the word of the native loop and the moment when it goes on, a call to mount
    passes through stages, and other threads may attempt to unmount meanwhile. What they
    do to the record is to claim the mount, and to put it back when that has failed.

    * `Contested`: what an attempt to unmount does to the record by a step.
    * `Kept`, `step_kept`: what steps of other threads leave.
    * `StartsSince`, `starts_meanwhile`: the stages of a start, until the loop goes on.
    * `EndsSince`, `ends_meanwhile`: the stages of an end, until the loop goes on.
-/

namespace HostedFs.Host

variable {setup : Setup} {n : Nat}

/-! ## Attempts and the record -/

/-- An attempt to unmount leaves the record, claims the mount and reports it, or puts the
    record back. -/
inductive Contested (r : MountRecord) (told : List Event) : MountRecord → Prop
  | same : Contested r told r
  | claimed (mounted : r.state = .mounted) (reported : .unmounting r.mountpoint ∈ told) :
    Contested r told { r with state := .unmounting }
  | restored (unmounting : r.state = .unmounting) : Contested r told { r with state := .mounted }

namespace Contested

variable {r r' : MountRecord} {told : List Event}

theorem append (h : Contested r told r') (more : List Event) : Contested r (told ++ more) r' := by
  cases h with
  | same => exact .same
  | claimed mounted reported => exact .claimed mounted (List.mem_append_left _ reported)
  | restored unmounting => exact .restored unmounting

theorem session_eq (h : Contested r told r') : r'.session = r.session := by
  cases h <;> rfl

theorem mountpoint_eq (h : Contested r told r') : r'.mountpoint = r.mountpoint := by
  cases h <;> rfl

end Contested

/-- What was negotiated an attempt to unmount leaves, too, and so the process. -/
theorem unmountStep_contested {role : Role} {phase : UnmountPhase} {input : Input} {w w' : World}
    {call : UnmountCall} {told : List Event}
    (h : unmountStep role phase input w = some (call, w', told)) :
    Contested w.host.record told w'.host.record ∧ w'.host.negotiated = w.host.negotiated ∧
      w'.process = w.process := by
  cases unmountStep_deed h with
  | pass lock =>
    obtain ⟨-, rfl⟩ := World.lockGate_eq_some_iff.mp lock
    exact ⟨.same, rfl, rfl⟩
  | look lock | lookAgain lock =>
    obtain ⟨-, rfl⟩ := World.lockRecord_eq_some_iff.mp lock
    exact ⟨.same, rfl, rfl⟩
  | claim mounted => exact ⟨.claimed mounted (List.mem_singleton.mpr rfl), rfl, rfl⟩
  | restore claimed => exact ⟨.restored claimed, rfl, rfl⟩
  | refuse | giveUp | succeed | fail | leave => exact ⟨.same, rfl, rfl⟩

theorem listenerStep_contested {k : Nat} {l : Listener} {input : Input} {w w' : World}
    {told : List Event} (hstep : listenerStep setup k l input w = some (w', told)) :
    Contested w.host.record told w'.host.record ∧ w'.host.negotiated = w.host.negotiated := by
  obtain ⟨v, l', rfl, deed⟩ := listenerStep_deed hstep
  cases deed with
  | attempt h attempts | unmounted h attempts =>
    obtain ⟨hrecord, hnegotiated, -⟩ := unmountStep_contested attempts
    exact ⟨hrecord, hnegotiated⟩
  | refused h attempts =>
    -- It reports one event more.
    obtain ⟨hrecord, hnegotiated, -⟩ := unmountStep_contested attempts
    exact ⟨hrecord.append _, hnegotiated⟩
  | lockBridge h lock =>
    obtain ⟨-, rfl⟩ := World.lockBridge_eq_some_iff.mp lock
    exact ⟨.same, rfl⟩
  | ready | failed | stop | wake | close => exact ⟨.same, rfl⟩

/-! ## Other threads -/

/-- No listener is gone, and none that was told to stop forgets it. -/
def Minds (before after : Host) : Prop :=
  ∀ k l, before.listeners k = some l →
    ∃ l', after.listeners k = some l' ∧ (l.stopping → l'.stopping)

theorem Minds.of_eq {before after : Host} (h : after.listeners = before.listeners) :
    Minds before after :=
  fun k l hl => ⟨l, (congrFun h k).trans hl, id⟩

theorem Minds.trans {before between after : Host} (h : Minds before between)
    (h' : Minds between after) : Minds before after := by
  intro k l hl
  obtain ⟨l', hl', hstopping⟩ := h k l hl
  obtain ⟨l'', hl'', hstopping'⟩ := h' k l' hl'
  exact ⟨l'', hl'', fun htold => hstopping' (hstopping htold)⟩

/-- What is left of a mount by a step that is not its own. -/
structure Kept (n : Nat) (told : List Event) (w v : World) : Prop where
  mounts : v.host.mounts n = w.host.mounts n
  negotiated : v.host.negotiated = w.host.negotiated
  listener : v.host.listener = w.host.listener
  minds : Minds w.host v.host
  record : Contested w.host.record told v.host.record

theorem Kept.of_attempt {role : Role} {phase : UnmountPhase} {input : Input} {w v : World}
    {call : UnmountCall} {told : List Event}
    (h : unmountStep role phase input w = some (call, v, told)) : Kept n told w v := by
  have hsame := unmountStep_sameThreads h
  obtain ⟨hrecord, hnegotiated, -⟩ := unmountStep_contested h
  exact ⟨congrFun hsame.mounts n, hnegotiated, hsame.listener, .of_eq hsame.listeners, hrecord⟩

/-- Threads that do not mount leave a mount, but for attempts to unmount it. -/
theorem step_kept {label : Label} {w v : World} {c : MountCall} {told : List Event}
    (hc : w.host.mounts n = some c) (hlabel : ∀ m input, label ≠ .act (.mount m) input)
    (h : step setup label w = some (v, told)) : Kept n told w v := by
  cases step_deed h with
  | @mount m _ _ fresh =>
    -- A call that begins takes a number that is free.
    have hne : n ≠ m := by
      intro heq
      subst heq
      cases fresh.symm.trans hc
    exact ⟨if_neg hne, rfl, rfl, .of_eq rfl, .same⟩
  | unmount | deliver | ignore => exact ⟨rfl, rfl, rfl, .of_eq rfl, .same⟩
  | mounting => exact absurd rfl (hlabel _ _)
  | unmounting known goes =>
    obtain ⟨hmounts, hnegotiated, hlistener, hminds, hrecord⟩ := Kept.of_attempt (n := n) goes
    exact ⟨hmounts, hnegotiated, hlistener, hminds, hrecord⟩
  | @listening k _ l _ _ known goes =>
    obtain ⟨hrecord, hnegotiated⟩ := listenerStep_contested goes
    obtain ⟨u, l', rfl, hfollows, hshared⟩ := listenerStep_shared goes
    refine ⟨congrFun hshared.mounts n, hnegotiated, hshared.place l.phase.holds?_ne_place, ?_,
      hrecord⟩
    intro m d hd
    obtain ⟨d', hd', hsame⟩ := hshared.listeners m d hd
    by_cases hmk : m = k
    · subst hmk
      cases known.symm.trans hd
      exact ⟨l', if_pos rfl, hfollows.stopping⟩
    · refine ⟨d', (if_neg hmk).trans hd', fun hstopping => ?_⟩
      rcases hsame with rfl | rfl
      · exact hstopping
      · rfl

/-! ## The start -/

/-- The filesystem is mounted, unless an attempt to unmount it was reported. -/
def MountedOrClaimed (told : List Event) (r : MountRecord) : Prop :=
  r.state = .mounted ∨ r.state = .unmounting ∧ .unmounting r.mountpoint ∈ told

theorem Contested.mountedOrClaimed {r r' : MountRecord} {told more : List Event}
    (h : Contested r more r') (hr : MountedOrClaimed told r) :
    MountedOrClaimed (told ++ more) r' := by
  cases h with
  | same =>
    refine hr.imp_right fun hclaimed => ?_
    exact ⟨hclaimed.1, List.mem_append_left _ hclaimed.2⟩
  | claimed mounted reported => exact .inr ⟨rfl, List.mem_append_right _ reported⟩
  | restored unmounting => exact .inl rfl

/-- How far a start has come: once the record was told of it, the record has the session. -/
def MountPhase.Began (session : Session) (told : List Event) (r : MountRecord) :
    MountPhase → Prop
  | .starting s _ => s = session
  | .arming _ | .initializing _ | .running => r.session = session ∧ MountedOrClaimed told r
  | _ => False

theorem MountPhase.Began.of_contested {phase : MountPhase} {session : Session}
    {told more : List Event} {r r' : MountRecord} (h : phase.Began session told r)
    (hrecord : Contested r more r') : phase.Began session (told ++ more) r' := by
  cases phase with
  | starting s held => exact h
  | arming _ | initializing _ | running =>
    exact ⟨hrecord.session_eq.trans h.1, hrecord.mountedOrClaimed h.2⟩
  | _ => exact h.elim

/-- A start with a session is under way or over since a world, and nothing else has begun. -/
structure StartsSince (n : Nat) (c : MountCall) (session : Session) (w : World) (told : List Event)
    (v : World) : Prop where
  call : ∃ phase, v.host.mounts n = some { c with phase } ∧
    phase.Began session told v.host.record
  negotiated : v.host.negotiated = w.host.negotiated
  mountpoint : v.host.record.mountpoint = w.host.record.mountpoint

/-- The arming of a listener leaves the record. -/
theorem armStep_record {role : Role} {phase : ArmPhase} {input : Input} {w w' : World}
    {arming : Arming} {told : List Event}
    (h : armStep setup role phase input w = some (arming, w', told)) :
    w'.host.record = w.host.record ∧ w'.host.negotiated = w.host.negotiated := by
  cases armStep_deed h with
  | lockBridge takes lock =>
    obtain ⟨-, rfl⟩ := World.lockBridge_eq_some_iff.mp lock
    exact ⟨rfl, rfl⟩
  | lockListener lock =>
    obtain ⟨-, rfl⟩ := World.lockListener_eq_some_iff.mp lock
    exact ⟨rfl, rfl⟩
  | store =>
    show w.stopPlaced.host.record = _ ∧ w.stopPlaced.host.negotiated = _
    unfold World.stopPlaced World.stopListener
    split
    · split <;> exact ⟨rfl, rfl⟩
    · exact ⟨rfl, rfl⟩
  | _ => exact ⟨rfl, rfl⟩

/-- A start that waits for a lock goes on when the lock is taken. -/
theorem TakesRecord.began {phase phase' : MountPhase} {session : Session} {told : List Event}
    {r : MountRecord} (h : TakesRecord phase phase') (hbegan : phase.Began session told r) :
    phase'.Began session told r := by
  cases h <;> exact hbegan

theorem TakesListener.not_began {phase phase' : MountPhase} {session : Session}
    {told : List Event} {r : MountRecord} (h : TakesListener phase phase') :
    ¬ phase.Began session told r := by
  cases h <;> exact id

/-- Within the call of an implementation, an attempt does not bear on how far a start has come. -/
theorem CalledIn.began {within : Option UnmountPhase → MountPhase} {session : Session}
    {told : List Event} {r : MountRecord} {call : Option UnmountPhase} (h : CalledIn within)
    (hbegan : (within call).Began session told r) (call' : Option UnmountPhase) :
    (within call').Began session told r := by
  cases h <;> exact hbegan

/-- A start comes further by a step of its own. -/
theorem mountStep_began {c : MountCall} {input : Input} {session : Session} {w v : World}
    {told more : List Event} (hbegan : c.phase.Began session told w.host.record)
    (hinput : input.fromLoop = false) (hstep : mountStep setup n c input w = some (v, more)) :
    StartsSince n c session w (told ++ more) v := by
  obtain ⟨u, c', rfl, deed⟩ := mountStep_deed hstep
  cases deed with
  | lockRecord takes lock =>
    obtain ⟨-, rfl⟩ := World.lockRecord_eq_some_iff.mp lock
    exact ⟨⟨_, if_pos rfl, (takes.began hbegan).of_contested .same⟩, rfl, rfl⟩
  | lockListener takes => exact (takes.not_began hbegan).elim
  | start h =>
    -- The record is told, and shows the session from now on.
    rw [h] at hbegan
    obtain rfl : _ = session := hbegan
    refine ⟨⟨_, if_pos rfl, ?_⟩, rfl, rfl⟩
    cases setup.listens
    · exact ⟨rfl, .inl rfl⟩
    · exact ⟨rfl, .inl rfl⟩
  | @arm _ _ arming _ _ h arms =>
    rw [h] at hbegan
    obtain ⟨hrecord, hnegotiated⟩ := armStep_record arms
    have hcontested : Contested w.host.record more u.host.record := by
      rw [hrecord]
      exact .same
    have hafter := hbegan.of_contested hcontested
    refine ⟨⟨_, if_pos rfl, ?_⟩, hnegotiated, hcontested.mountpoint_eq⟩
    cases arming <;> exact hafter
  | ask called h =>
    rw [h] at hbegan
    exact ⟨⟨_, if_pos rfl, (called.began hbegan _).of_contested .same⟩, rfl, rfl⟩
  | attempt called h attempts =>
    -- The attempt may claim the mount or put the record back, as those of other threads may.
    rw [h] at hbegan
    obtain ⟨hcontested, hnegotiated, -⟩ := unmountStep_contested attempts
    exact ⟨⟨_, if_pos rfl, (called.began hbegan _).of_contested hcontested⟩, hnegotiated,
      hcontested.mountpoint_eq⟩
  | initialized h =>
    rw [h] at hbegan
    exact ⟨⟨_, if_pos rfl, hbegan.of_contested .same⟩, rfl, rfl⟩
  | callInit | callDestroy | loopReturned =>
    -- The native loop does not speak meanwhile.
    cases hinput
  | claim h | refuse h | unprepared h | spoiled h | prepared h | name h | enter h | gone h
  | disarm h | close h | take h | takeNone h | joined h | shut h | reopen h | release h | reset h =>
    rw [h] at hbegan
    exact hbegan.elim

/-- A start comes further by any step. -/
theorem step_starts {label : Label} {c : MountCall} {session : Session} {w v u : World}
    {told more : List Event} (hstarts : StartsSince n c session w told v) (haside : label.Aside n)
    (h : step setup label v = some (u, more)) : StartsSince n c session w (told ++ more) u := by
  obtain ⟨phase, hc, hbegan⟩ := hstarts.call
  by_cases hown : ∃ m input, label = .act (.mount m) input
  · obtain ⟨m, input, rfl⟩ := hown
    obtain ⟨rfl, hinput⟩ := haside m input rfl
    simp only [step, hc, Option.bind_eq_bind, Option.bind_some] at h
    obtain ⟨hcall, hnegotiated, hmountpoint⟩ := mountStep_began hbegan hinput h
    exact ⟨hcall, hnegotiated.trans hstarts.negotiated, hmountpoint.trans hstarts.mountpoint⟩
  · -- Another thread moves, and at most it claims the mount or puts the record back.
    have hkept := step_kept hc (fun m input heq => hown ⟨m, input, heq⟩) h
    exact ⟨⟨phase, hkept.mounts.trans hc, hbegan.of_contested hkept.record⟩,
      hkept.negotiated.trans hstarts.negotiated,
      hkept.record.mountpoint_eq.trans hstarts.mountpoint⟩

/-- From the word of the native loop until it goes on. -/
theorem starts_meanwhile {c : MountCall} {session : Session} {w v : World} {told : List Event}
    (hc : w.host.mounts n = some c) (hphase : c.phase = .starting session false)
    (h : Meanwhile setup n w told v) : StartsSince n c session w told v := by
  have hstart : StartsSince n c session w [] w := by
    refine ⟨⟨c.phase, hc, ?_⟩, rfl, rfl⟩
    rw [hphase]
    rfl
  refine h.keeps hstart ?_
  intro told v label more u hstarts _ haside hstep
  exact step_starts hstarts haside hstep

/-! ## The end -/

/-- The record shows a mount. -/
def Shown (r : MountRecord) : Prop :=
  r.state = .mounted ∨ r.state = .unmounting

theorem Contested.shown {r r' : MountRecord} {told : List Event} (h : Contested r told r')
    (hr : Shown r) : Shown r' := by
  cases h with
  | same => exact hr
  | claimed => exact .inr rfl
  | restored => exact .inl rfl

/-- The listener that was in its place was told to stop. -/
def Disarmed (before after : Host) : Prop :=
  ∀ k l, before.listener = some k → before.listeners k = some l →
    ∃ l', after.listeners k = some l' ∧ l'.stopping

theorem Disarmed.minds {before between after : Host} (h : Disarmed before between)
    (hminds : Minds between after) : Disarmed before after := by
  intro k l hplace hl
  obtain ⟨l', hl', hstopping⟩ := h k l hplace hl
  obtain ⟨l'', hl'', hkeeps⟩ := hminds k l' hl'
  exact ⟨l'', hl'', hkeeps hstopping⟩

/-- How far an end has come: at first the listener is told to stop, and then the record. -/
def MountPhase.Ending (stopped : Prop) (r : MountRecord) : MountPhase → Prop
  | .destroying _ | .disarming _ => Shown r
  | .closing _ => Shown r ∧ stopped
  | .running => r.state = .unmounting ∧ stopped
  | _ => False

/-- What is left of a mount by a step while it ends. -/
structure Lasts (w v : World) : Prop where
  session : v.host.record.session = w.host.record.session
  mountpoint : v.host.record.mountpoint = w.host.record.mountpoint
  negotiated : v.host.negotiated = w.host.negotiated
  listener : v.host.listener = w.host.listener
  minds : Minds w.host v.host

theorem Lasts.refl (w : World) : Lasts w w :=
  ⟨rfl, rfl, rfl, rfl, .of_eq rfl⟩

theorem Lasts.trans {w v u : World} (h : Lasts w v) (h' : Lasts v u) : Lasts w u :=
  ⟨h'.session.trans h.session, h'.mountpoint.trans h.mountpoint,
    h'.negotiated.trans h.negotiated, h'.listener.trans h.listener, h.minds.trans h'.minds⟩

theorem Kept.lasts {told : List Event} {w v : World} (h : Kept n told w v) : Lasts w v :=
  ⟨h.record.session_eq, h.record.mountpoint_eq, h.negotiated, h.listener, h.minds⟩

theorem Lasts.putMount {w v : World} (h : Lasts w v) (c : MountCall) :
    Lasts w (v.putMount n c) :=
  ⟨h.session, h.mountpoint, h.negotiated, h.listener, h.minds⟩

theorem lasts_stopListener (w : World) (k : Nat) : Lasts w (w.stopListener k) := by
  unfold World.stopListener
  cases hl : w.host.listeners k with
  | none => exact .refl w
  | some l =>
    refine ⟨rfl, rfl, rfl, rfl, fun m d hd => ?_⟩
    by_cases hmk : m = k
    · exact ⟨_, if_pos hmk, fun _ => rfl⟩
    · exact ⟨d, (if_neg hmk).trans hd, id⟩

theorem lasts_stopPlaced (w : World) : Lasts w w.stopPlaced := by
  unfold World.stopPlaced
  cases w.host.listener with
  | none => exact .refl w
  | some k => exact lasts_stopListener w k

theorem record_stopPlaced (w : World) : w.stopPlaced.host.record = w.host.record := by
  unfold World.stopPlaced World.stopListener
  split
  · split <;> rfl
  · rfl

theorem disarmed_stopPlaced {before : Host} {w : World} (hplace : w.host.listener = before.listener)
    (hminds : Minds before w.host) : Disarmed before w.stopPlaced.host := by
  intro k l hk hl
  obtain ⟨l', hl', -⟩ := hminds k l hl
  exact ⟨_, stopPlaced_stopping (hplace.trans hk) hl', rfl⟩

/-- An end that waits for a lock goes on when the lock is taken. -/
theorem TakesRecord.ending {phase phase' : MountPhase} {stopped : Prop} {r : MountRecord}
    (h : TakesRecord phase phase') (hending : phase.Ending stopped r) :
    phase'.Ending stopped r := by
  cases h <;> exact hending

theorem TakesListener.ending {phase phase' : MountPhase} {stopped : Prop} {r : MountRecord}
    (h : TakesListener phase phase') (hending : phase.Ending stopped r) :
    phase'.Ending stopped r := by
  cases h <;> exact hending

/-- Within the call of an implementation, an attempt leaves a mount that ends shown. -/
theorem CalledIn.ending {within : Option UnmountPhase → MountPhase} {stopped stopped' : Prop}
    {r r' : MountRecord} {call : Option UnmountPhase} (h : CalledIn within)
    (hending : (within call).Ending stopped r) (hshown : Shown r → Shown r')
    (call' : Option UnmountPhase) : (within call').Ending stopped' r' := by
  cases h with
  | initializing => exact hending
  | destroying => exact hshown hending

/-- An end comes further by a step of its own. -/
theorem mountStep_ends {c : MountCall} {input : Input} {before : Host} {w v : World}
    {told : List Event} (hending : c.phase.Ending (Disarmed before w.host) w.host.record)
    (hplace : w.host.listener = before.listener) (hminds : Minds before w.host)
    (hinput : input.fromLoop = false) (hstep : mountStep setup n c input w = some (v, told)) :
    Lasts w v ∧ ∃ phase, v.host.mounts n = some { c with phase } ∧
      phase.Ending (Disarmed before v.host) v.host.record := by
  obtain ⟨u, c', rfl, deed⟩ := mountStep_deed hstep
  cases deed with
  | lockRecord takes lock =>
    obtain ⟨-, rfl⟩ := World.lockRecord_eq_some_iff.mp lock
    exact ⟨⟨rfl, rfl, rfl, rfl, .of_eq rfl⟩, _, if_pos rfl, takes.ending hending⟩
  | lockListener takes lock =>
    obtain ⟨-, rfl⟩ := World.lockListener_eq_some_iff.mp lock
    exact ⟨⟨rfl, rfl, rfl, rfl, .of_eq rfl⟩, _, if_pos rfl, takes.ending hending⟩
  | ask called h =>
    rw [h] at hending
    exact ⟨(Lasts.refl w).putMount _, _, if_pos rfl, called.ending hending id _⟩
  | attempt called h attempts =>
    rw [h] at hending
    have hkept : Kept n told w u := .of_attempt attempts
    exact ⟨hkept.lasts.putMount _, _, if_pos rfl, called.ending hending hkept.record.shown _⟩
  | gone h =>
    rw [h] at hending
    exact ⟨(Lasts.refl w).putMount _, _, if_pos rfl, hending⟩
  | disarm h =>
    -- The listener is told to stop, and the record does not know of it yet.
    rw [h] at hending
    have hlasts := lasts_stopPlaced w
    refine ⟨⟨hlasts.session, hlasts.mountpoint, hlasts.negotiated, hlasts.listener, hlasts.minds⟩,
      _, if_pos rfl, ?_, disarmed_stopPlaced hplace hminds⟩
    show Shown w.stopPlaced.host.record
    rw [record_stopPlaced]
    exact hending
  | close h =>
    -- The record is told, unless an attempt has claimed the mount before.
    rw [h] at hending
    obtain ⟨hshown, hstopped⟩ := hending
    by_cases hstate : w.host.record.state = .mounted
    · rw [if_pos hstate]
      exact ⟨⟨rfl, rfl, rfl, rfl, .of_eq rfl⟩, _, if_pos rfl, rfl, hstopped⟩
    · rw [if_neg hstate]
      exact ⟨⟨rfl, rfl, rfl, rfl, .of_eq rfl⟩, _, if_pos rfl, hshown.resolve_left hstate,
        hstopped⟩
  | callInit | callDestroy | loopReturned =>
    -- The native loop does not speak meanwhile.
    cases hinput
  | claim h | refuse h | unprepared h | spoiled h | prepared h | name h | enter h | start h | arm h
  | initialized h | take h | takeNone h | joined h | shut h | reopen h | release h | reset h =>
    rw [h] at hending
    exact hending.elim

/-- An end is under way or over since a world, and nothing else has begun. -/
structure EndsSince (n : Nat) (c : MountCall) (w v : World) : Prop where
  lasts : Lasts w v
  call : ∃ phase, v.host.mounts n = some { c with phase } ∧
    phase.Ending (Disarmed w.host v.host) v.host.record

theorem MountPhase.Ending.of_kept {phase : MountPhase} {before : Host} {told : List Event}
    {w v : World} (h : phase.Ending (Disarmed before w.host) w.host.record)
    (hbusy : phase ≠ .running) (hkept : Kept n told w v) :
    phase.Ending (Disarmed before v.host) v.host.record := by
  cases phase with
  | destroying _ | disarming _ => exact hkept.record.shown h
  | closing _ => exact ⟨hkept.record.shown h.1, h.2.minds hkept.minds⟩
  | running => exact absurd rfl hbusy
  | _ => exact h.elim

/-- An end comes further by any step that is taken while the native loop waits. -/
theorem step_ends {label : Label} {c : MountCall} {w v u : World} {told : List Event}
    (hends : EndsSince n c w v) (hengaged : Engaged n v) (haside : label.Aside n)
    (h : step setup label v = some (u, told)) : EndsSince n c w u := by
  obtain ⟨hlasts, phase, hc, hending⟩ := hends
  -- Were the end over, another thread could claim nothing, but it could put the record back.
  have hbusy : phase ≠ .running := by
    obtain ⟨c', hc', hphase⟩ := hengaged
    cases hc.symm.trans hc'
    exact hphase
  by_cases hown : ∃ m input, label = .act (.mount m) input
  · obtain ⟨m, input, rfl⟩ := hown
    obtain ⟨rfl, hinput⟩ := haside m input rfl
    simp only [step, hc, Option.bind_eq_bind, Option.bind_some] at h
    obtain ⟨hone, hcall⟩ :=
      mountStep_ends hending hlasts.listener hlasts.minds hinput h
    exact ⟨hlasts.trans hone, hcall⟩
  · have hkept := step_kept hc (fun m input heq => hown ⟨m, input, heq⟩) h
    exact ⟨hlasts.trans hkept.lasts, phase, hkept.mounts.trans hc, hending.of_kept hbusy hkept⟩

/-- From the word of the native loop until it goes on. -/
theorem ends_meanwhile {c : MountCall} {w v : World} {told : List Event}
    (hc : w.host.mounts n = some c) (hphase : c.phase = .destroying none)
    (hshown : Shown w.host.record) (h : Meanwhile setup n w told v) : EndsSince n c w v := by
  have hstart : EndsSince n c w w := by
    refine ⟨.refl w, c.phase, hc, ?_⟩
    rw [hphase]
    exact hshown
  refine h.keeps (P := fun _ v => EndsSince n c w v) hstart ?_
  intro told v label more u hends hengaged haside hstep
  exact step_ends hends hengaged haside hstep

end HostedFs.Host
