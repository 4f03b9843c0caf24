import HostedFs.Proofs.Host.Numbering

/-! # Steps and their outlines

    Each step of a host is a move of its outline: this module goes through the
    steps once, and what is proved of moves holds of steps.

    * `step_move`: a step is a move.
    * `outline_induction`: what holds of the outline at the start and is kept by
      moves holds after every run.
-/

namespace HostedFs.Host

variable {setup : Setup}

/-! ## Attempts -/

theorem attempt?_mount (host : Host) (n : Nat) :
    Host.attempt? host (.mount n) = (host.mounts n).bind fun c => c.phase.attempt? := by
  cases h : host.mounts n with
  | none => simp [Host.attempt?, h]
  | some c => cases hp : c.phase <;> simp [Host.attempt?, MountPhase.attempt?, h, hp]

theorem attempt?_unmount (host : Host) (n : Nat) :
    Host.attempt? host (.unmount n) = (host.unmounts n).bind UnmountCall.attempt? := by
  cases h : host.unmounts n with
  | none => simp [Host.attempt?, h]
  | some call => cases call <;> simp [Host.attempt?, UnmountCall.attempt?, h]

theorem attempt?_listener (host : Host) (n : Nat) :
    Host.attempt? host (.listener n) = (host.listeners n).bind fun l => l.phase.attempt? := by
  cases h : host.listeners n with
  | none => simp [Host.attempt?, h]
  | some l => cases hp : l.phase <;> simp [Host.attempt?, ListenerPhase.attempt?, h, hp]

/-- Where an attempt to unmount is made: within the call of an implementation, by a call to
    unmount or by a listener. -/
inductive Attempts (host : Host) (phase : UnmountPhase) : Role → Prop
  | mount {n : Nat} {c : MountCall} {within : Option UnmountPhase → MountPhase}
    (hc : host.mounts n = some c) (called : CalledIn within)
    (hp : c.phase = within (some phase)) : Attempts host phase (.mount n)
  | unmount {n : Nat} (hcall : host.unmounts n = some (.running phase)) :
    Attempts host phase (.unmount n)
  | listener {n : Nat} {l : Listener} (hl : host.listeners n = some l)
    (hp : l.phase = .calling phase) : Attempts host phase (.listener n)

theorem attempts_of_attempt? {host : Host} {r : Role} {phase : UnmountPhase}
    (h : Host.attempt? host r = some phase) : Attempts host phase r := by
  cases r with
  | mount n =>
    rw [attempt?_mount] at h
    obtain ⟨c, hc, hphase⟩ := Option.bind_eq_some_iff.mp h
    cases hp : c.phase with
    | initializing call =>
      obtain rfl : call = some phase := by simpa [MountPhase.attempt?, hp] using hphase
      exact .mount hc .initializing hp
    | destroying call =>
      obtain rfl : call = some phase := by simpa [MountPhase.attempt?, hp] using hphase
      exact .mount hc .destroying hp
    | _ => simp [MountPhase.attempt?, hp] at hphase
  | unmount n =>
    rw [attempt?_unmount] at h
    obtain ⟨call, hcall, hphase⟩ := Option.bind_eq_some_iff.mp h
    cases call with
    | finished result => cases hphase
    | running inner =>
      obtain rfl : inner = phase := Option.some.inj hphase
      exact .unmount hcall
  | listener n =>
    rw [attempt?_listener] at h
    obtain ⟨l, hl, hphase⟩ := Option.bind_eq_some_iff.mp h
    cases hp : l.phase with
    | calling inner =>
      obtain rfl : inner = phase := by simpa [ListenerPhase.attempt?, hp] using hphase
      exact .listener hl hp
    | _ => simp [ListenerPhase.attempt?, hp] at hphase

/-! ## Threads that come further -/

theorem outline_putMount (w : World) (n : Nat) (c : MountCall) :
    (w.putMount n c).outline =
      (w.outline.setMount n c.outer).setAttempt (.mount n) c.phase.attempt? := by
  simp only [World.outline, World.putMount, Outline.setMount, Outline.setAttempt, Outline.mk.injEq,
    true_and, and_true]
  refine ⟨funext fun r => ?_, funext fun m => ?_⟩
  · cases r with
    | mount m => by_cases h : m = n <;> simp [attempt?_mount, h]
    | unmount m => simp [attempt?_unmount]
    | listener m => simp [attempt?_listener]
  · by_cases h : m = n <;> simp [h]

theorem outline_putUnmount (w : World) (n : Nat) (call : UnmountCall) :
    (w.putUnmount n call).outline = w.outline.setAttempt (.unmount n) call.attempt? := by
  simp only [World.outline, World.putUnmount, Outline.setAttempt, Outline.mk.injEq,
    true_and, and_true]
  funext r
  cases r with
  | mount m => simp [attempt?_mount]
  | unmount m => by_cases h : m = n <;> simp [attempt?_unmount, h]
  | listener m => simp [attempt?_listener]

theorem outline_putListener (w : World) (n : Nat) (l : Listener) :
    (w.putListener n l).outline = w.outline.setAttempt (.listener n) l.phase.attempt? := by
  simp only [World.outline, World.putListener, Outline.setAttempt, Outline.mk.injEq,
    true_and, and_true]
  funext r
  cases r with
  | mount m => simp [attempt?_mount]
  | unmount m => simp [attempt?_unmount]
  | listener m => by_cases h : m = n <;> simp [attempt?_listener, h]

/-! ## Shared state -/

section updates

variable {w w' : World} {r : Role}

theorem outline_lockRecord (h : w.lockRecord r = some w') : w'.outline = w.outline := by
  obtain ⟨-, rfl⟩ := World.lockRecord_eq_some_iff.mp h
  rfl

theorem outline_lockListener (h : w.lockListener r = some w') : w'.outline = w.outline := by
  obtain ⟨-, rfl⟩ := World.lockListener_eq_some_iff.mp h
  rfl

theorem outline_lockBridge (h : w.lockBridge setup r = some w') : w'.outline = w.outline := by
  obtain ⟨-, rfl⟩ := World.lockBridge_eq_some_iff.mp h
  rfl

/-- The gate is taken only while it is free. -/
theorem outline_lockGate (h : w.lockGate r = some w') :
    w.outline.gate = none ∧ w'.outline = { w.outline with gate := some r } := by
  obtain ⟨free, rfl⟩ := World.lockGate_eq_some_iff.mp h
  exact ⟨free, rfl⟩

end updates

theorem outline_putListener_same {w : World} {n : Nat} {l l' : Listener}
    (h : w.host.listeners n = some l) (same : l'.phase.attempt? = l.phase.attempt?) :
    (w.putListener n l').outline = w.outline := by
  have hattempt : w.outline.attempt (.listener n) = l.phase.attempt? := by
    simp [World.outline, attempt?_listener, h]
  rw [outline_putListener, same, ← hattempt, Outline.setAttempt, Function.update_eq_self]

@[simp] theorem outline_stopListener (w : World) (n : Nat) :
    (w.stopListener n).outline = w.outline := by
  unfold World.stopListener
  cases h : w.host.listeners n with
  | none => rfl
  | some l => exact outline_putListener_same h rfl

/-! ## Attempts to unmount -/

theorem unmountStep_turn {r : Role} {phase : UnmountPhase} {input : Input} {w w' : World}
    {call : UnmountCall} {events : List Event}
    (h : unmountStep r phase input w = some (call, w', events)) :
    AttemptTurn r phase input w.outline (w'.outline.setAttempt r call.attempt?) := by
  cases unmountStep_deed h with
  | pass lock =>
    obtain ⟨free, hv⟩ := outline_lockGate lock
    rw [hv]
    exact .pass free
  | look lock =>
    rw [outline_lockRecord lock]
    exact .look
  | claim mounted => exact .claim mounted
  | refuse other => exact .refuse other
  | succeed => exact .succeed
  | fail => exact .fail
  | lookAgain lock =>
    rw [outline_lockRecord lock]
    exact .lookAgain
  | restore claimed => exact .restore claimed
  | giveUp changed => exact .giveUp changed
  | leave => exact .leave

theorem outline_stopPlaced (w : World) : w.stopPlaced.outline = w.outline := by
  unfold World.stopPlaced
  split
  · exact outline_stopListener w _
  · rfl

/-! ## Calls to mount -/

/-- Arming a listener leaves the outline. A new listener makes no attempt, and no
    listener had its number. -/
theorem armStep_outline {r : Role} {phase : ArmPhase} {input : Input} {w w' : World}
    {arming : Arming} {events : List Event} (hw : Numbered w)
    (h : armStep setup r phase input w = some (arming, w', events)) :
    w'.outline = w.outline := by
  cases armStep_deed h with
  | lockBridge takes lock => exact outline_lockBridge lock
  | lockListener lock => exact outline_lockListener lock
  | spawn =>
    -- The listener is new: by `Numbered` nobody had its number.
    have hnone : w.outline.attempt (.listener w.host.nextListener) = none := by
      simp [World.outline, attempt?_listener, hw _ (Nat.le_refl _)]
    show (w.putListener _ _).outline = _
    rw [outline_putListener]
    show w.outline.setAttempt _ none = _
    rw [← hnone, Outline.setAttempt, Function.update_eq_self]
  | store => exact outline_stopPlaced w
  | _ => rfl

theorem armStep_fromLoop {r : Role} {phase : ArmPhase} {input : Input} {w : World}
    {moved : Arming × Moved} (h : armStep setup r phase input w = some moved) :
    input.fromLoop = false := by
  obtain ⟨arming, w', events⟩ := moved
  cases armStep_deed h with
  | register refuses | unregistered refuses => cases refuses <;> rfl
  | _ => rfl

/-- Arming goes on, or is over. -/
theorem armStep_progress {r : Role} {c : MountCall} {phase : ArmPhase} {input : Input} {w : World}
    {arming : Arming} {moved : Moved} (h : armStep setup r phase input w = some (arming, moved)) :
    Progress setup c (.arming phase) input arming.next := by
  cases arming with
  | running _ => exact .arm (armStep_fromLoop h)
  | _ => exact .armed (armStep_fromLoop h)

theorem TakesRecord.progress {c : MountCall} {phase phase' : MountPhase}
    (h : TakesRecord phase phase') : Progress setup c phase .go phase' := by
  cases h with
  | claiming => exact .lockToClaim
  | naming => exact .lockToName
  | starting => exact .lockToStart
  | closing => exact .lockToClose
  | resetting => exact .lockToReset

theorem TakesListener.progress {c : MountCall} {phase phase' : MountPhase}
    (h : TakesListener phase phase') : Progress setup c phase .go phase' := by
  cases h with
  | disarming => exact .lockToDisarm
  | taking => exact .lockToTake

theorem CalledIn.outer {within : Option UnmountPhase → MountPhase} (h : CalledIn within)
    (call : Option UnmountPhase) : (within call).outer = within none := by
  cases h <;> rfl

theorem CalledIn.attempt? {within : Option UnmountPhase → MountPhase} (h : CalledIn within)
    (call : Option UnmountPhase) : (within call).attempt? = call := by
  cases h <;> rfl

theorem outer_of_attempt?_none {c : MountCall} (h : c.phase.attempt? = none) : c.outer = c := by
  obtain ⟨mountpoint, options, phase, token⟩ := c
  cases phase with
  | initializing call => cases call <;> first | rfl | simp [MountPhase.attempt?] at h
  | destroying call => cases call <;> first | rfl | simp [MountPhase.attempt?] at h
  | _ => rfl

theorem outline_mounts {w : World} {n : Nat} {c : MountCall} (h : w.host.mounts n = some c) :
    w.outline.mounts n = some c.outer := by
  simp [World.outline, h]

/-- The outline shows a call as it is unless its implementation is called. -/
theorem mounts_of_outline {w : World} {n : Nat} {c : MountCall} (h : w.outline.mounts n = some c)
    (hcalled : c.phase.called = false) : w.host.mounts n = some c := by
  obtain ⟨d, hd, rfl⟩ := Option.map_eq_some_iff.mp h
  rw [hd, outer_of_attempt?_none]
  cases hp : d.phase with
  | initializing | destroying =>
    simp [MountCall.outer, MountPhase.outer, MountPhase.called, hp] at hcalled
  | _ => rfl

theorem outline_attempt_mount {w : World} {n : Nat} {c : MountCall}
    (h : w.host.mounts n = some c) : w.outline.attempt (.mount n) = c.phase.attempt? := by
  simp [World.outline, attempt?_mount, h]

section mounting

variable {n : Nat} {c : MountCall} {input : Input} {w v : World} (hc : w.host.mounts n = some c)

include hc

/-- A call to mount takes a turn of its own: no attempt is made within its phase. -/
theorem move_of_turn {o : Outline} (turn : MountTurn setup n c input w.outline o) :
    Move setup (.act (.mount n) input) w.outline o := by
  refine .mount (c := c) ?_ ?_ turn
  · rw [outline_mounts hc, outer_of_attempt?_none turn.idle]
  · rw [outline_attempt_mount hc, turn.idle]

/-- The turn ends in a phase within which no attempt has begun yet. -/
theorem move_of_own {c' : MountCall} (hv : v.outline.attempt = w.outline.attempt)
    (hidle' : c'.phase.attempt? = none)
    (turn : MountTurn setup n c input w.outline (v.outline.setMount n c')) :
    Move setup (.act (.mount n) input) w.outline (v.putMount n c').outline := by
  have hnone : v.outline.attempt (.mount n) = none := by
    rw [hv, outline_attempt_mount hc, turn.idle]
  have hput : (v.putMount n c').outline = v.outline.setMount n c' := by
    rw [outline_putMount, hidle', outer_of_attempt?_none hidle', ← hnone]
    exact congrArg (fun f => ({ v.outline.setMount n c' with attempt := f } : Outline))
      (Function.update_eq_self _ _)
  rw [hput]
  exact move_of_turn hc turn

theorem move_of_progress {phase : MountPhase} (hv : v.outline = w.outline)
    (h : Progress setup c c.phase input phase) :
    Move setup (.act (.mount n) input) w.outline (v.putMount n { c with phase }).outline := by
  refine move_of_own hc (by rw [hv]) h.idle.2 ?_
  rw [hv]
  exact .progress h

/-- Within the call of an implementation, a call to mount begins an attempt. -/
theorem move_of_callUnmount {within : Option UnmountPhase → MountPhase} (called : CalledIn within)
    (h : c.phase = within none) :
    Move setup (.act (.mount n) .callUnmount) w.outline
      (w.putMount n { c with phase := within (some .atGate) }).outline := by
  have hsame : w.outline.setMount n { c with phase := within (some .atGate) }.outer =
      w.outline := by
    rw [MountCall.outer, called.outer, ← called.outer none, ← h]
    exact congrArg (fun f => ({ w.outline with mounts := f } : Outline))
      (Function.update_eq_self_iff.mpr (outline_mounts hc).symm)
  rw [outline_putMount, called.attempt?, hsame]
  refine .ask ?_ ?_
  · rw [outline_attempt_mount hc, h, called.attempt?]
  · intro s _ hnone
    cases hnone
    exact ⟨rfl, rfl⟩

/-- An attempt that is made within the call of an implementation takes its turn. -/
theorem move_of_attempt {within : Option UnmountPhase → MountPhase} {phase : UnmountPhase}
    {call : UnmountCall} {events : List Event} (called : CalledIn within)
    (hphase : c.phase = within (some phase))
    (h : unmountStep (.mount n) phase input w = some (call, v, events)) :
    Move setup (.act (.mount n) input) w.outline
      (v.putMount n { c with phase := within call.attempt? }).outline := by
  have turn := unmountStep_turn h
  have hmounts : v.outline.mounts n = some c.outer := by
    rw [← outline_mounts hc, ← turn.mounts_eq, Outline.setAttempt_mounts]
  have hsame : v.outline.setMount n { c with phase := within call.attempt? }.outer =
      v.outline := by
    rw [MountCall.outer, called.outer, ← called.outer (some phase), ← hphase]
    exact congrArg (fun f => ({ v.outline with mounts := f } : Outline))
      (Function.update_eq_self_iff.mpr hmounts.symm)
  rw [outline_putMount, called.attempt?, hsame]
  exact .attempt (by rw [outline_attempt_mount hc, hphase, called.attempt?]) turn

end mounting

/-- A step of a call to mount is a move: its deeds are turns of the call, or an attempt
    that is made within it goes on. -/
theorem mountStep_move {n : Nat} {c : MountCall} {input : Input} {w w' : World}
    {events : List Event} (hw : Numbered w) (hc : w.host.mounts n = some c)
    (hstep : mountStep setup n c input w = some (w', events)) :
    Move setup (.act (.mount n) input) w.outline w'.outline := by
  obtain ⟨v, c', rfl, deed⟩ := mountStep_deed hstep
  cases deed with
  | lockRecord takes lock => exact move_of_progress hc (outline_lockRecord lock) takes.progress
  | lockListener takes lock =>
    exact move_of_progress hc (outline_lockListener lock) takes.progress
  | claim h idle => exact move_of_own hc rfl rfl (.claim h idle)
  | refuse h busy => exact move_of_own hc rfl rfl (.refuse h busy)
  | unprepared h => exact move_of_progress hc rfl (h ▸ .unprepared)
  | spoiled h nul => exact move_of_progress hc rfl (h ▸ .spoiled nul)
  | prepared h clean => exact move_of_progress hc rfl (h ▸ .prepared clean)
  | name h => exact move_of_own hc rfl rfl (.name h)
  | enter h fresh => exact move_of_own hc rfl rfl (.enter h fresh)
  | callInit h =>
    -- What is negotiated with the native library is no part of the outline.
    exact move_of_progress (v := { w with host := { w.host with negotiated := _ } }) hc rfl
      (h ▸ .callInit)
  | callDestroy h => exact move_of_progress hc rfl (h ▸ .callDestroy)
  | loopReturned h => exact move_of_progress hc rfl (h ▸ .loopReturned)
  | start h =>
    refine move_of_own hc rfl ?_ (.start h ?_)
    · cases setup.listens <;> rfl
    · cases setup.listens
      · exact .inr rfl
      · exact .inl rfl
  | arm h arms =>
    exact move_of_progress hc (armStep_outline hw arms) (h ▸ armStep_progress arms)
  | ask called h => exact move_of_callUnmount hc called h
  | attempt called h attempts => exact move_of_attempt hc called h attempts
  | initialized h => exact move_of_progress hc rfl (h ▸ .initialized)
  | gone h => exact move_of_progress hc rfl (h ▸ .gone)
  | disarm h => exact move_of_progress hc (outline_stopPlaced w) (h ▸ .disarmed)
  | close h =>
    refine move_of_own hc rfl rfl ?_
    by_cases hs : w.host.record.state = .mounted
    · rw [if_pos hs]
      exact .close h hs
    · rw [if_neg hs]
      exact .closed h hs
  | take h => exact move_of_progress hc (outline_stopListener w _) (h ▸ .took)
  | takeNone h => exact move_of_progress hc rfl (h ▸ .tookNone)
  | joined h => exact move_of_progress hc rfl (h ▸ .joined)
  | shut h lock =>
    obtain ⟨free, hv⟩ := outline_lockGate lock
    refine move_of_own hc (by rw [hv]) rfl ?_
    rw [hv]
    exact .shut h free
  | reopen h => exact move_of_own hc rfl rfl (.reopen h)
  | release h ht => exact move_of_own hc rfl rfl (.release h ht rfl)
  | reset h => exact move_of_own hc rfl rfl (.reset h)

/-! ## Listeners -/

theorem outline_attempt_listener {w : World} {n : Nat} {l : Listener}
    (h : w.host.listeners n = some l) : w.outline.attempt (.listener n) = l.phase.attempt? := by
  simp [World.outline, attempt?_listener, h]

section listening

variable {n : Nat} {l l' : Listener} {input : Input} {w v : World}
  (hl : w.host.listeners n = some l) (hidle : l.phase.attempt? = none)

include hl hidle

theorem move_of_still (hv : v.outline = w.outline) (hidle' : l'.phase.attempt? = none) :
    Move setup (.act (.listener n) input) w.outline (v.putListener n l').outline := by
  have hnone : w.outline.attempt (.listener n) = none := by
    rw [outline_attempt_listener hl, hidle]
  have hsame : (v.putListener n l').outline = w.outline := by
    rw [outline_putListener, hidle', hv, ← hnone, Outline.setAttempt, Function.update_eq_self]
  rw [hsame]
  refine .still ?_
  intro s _ hnone
  cases hnone
  exact ⟨⟨n, rfl⟩, hnone⟩

end listening

theorem listenerStep_move {n : Nat} {l : Listener} {input : Input} {w w' : World}
    {events : List Event} (hl : w.host.listeners n = some l)
    (hstep : listenerStep setup n l input w = some (w', events)) :
    Move setup (.act (.listener n) input) w.outline w'.outline := by
  obtain ⟨v, l', rfl, deed⟩ := listenerStep_deed hstep
  cases deed with
  | attempt h attempts | unmounted h attempts | refused h attempts =>
    have hcalling := (outline_attempt_listener hl).trans (congrArg ListenerPhase.attempt? h)
    rw [outline_putListener]
    exact .attempt hcalling (unmountStep_turn attempts)
  | wake h pending =>
    -- A signal wakes the listener, and it makes an attempt.
    rw [outline_putListener]
    refine .ask ?_ ?_
    · rw [outline_attempt_listener hl, h]
      rfl
    · intro s _ hnone
      cases hnone
      exact ⟨rfl, rfl⟩
  | lockBridge h lock =>
    have hidle : l.phase.attempt? = none := by rw [h]; rfl
    exact move_of_still hl hidle (outline_lockBridge lock) rfl
  | ready h | failed h | stop h | close h =>
    have hidle : l.phase.attempt? = none := by rw [h]; rfl
    exact move_of_still hl hidle rfl rfl

/-! ## The host -/

/-- Every step of a host is a move of its outline. -/
theorem step_move {label : Label} {w w' : World} {events : List Event} (hw : Numbered w)
    (h : step setup label w = some (w', events)) : Move setup label w.outline w'.outline := by
  cases step_deed h with
  | @mount n mountpoint options fresh =>
    have hnone : w.outline.attempt (.mount n) = none := by
      simp [World.outline, attempt?_mount, fresh]
    have hsame : (w.putMount n ⟨mountpoint, options, .claiming false, none⟩).outline =
        w.outline.setMount n ⟨mountpoint, options, .claiming false, none⟩ := by
      rw [outline_putMount]
      show Outline.setAttempt _ _ none = _
      rw [← hnone]
      exact congrArg (fun f => ({ w.outline.setMount n _ with attempt := f } : Outline))
        (Function.update_eq_self _ _)
    rw [hsame]
    exact .begin (by simp [World.outline, fresh])
  | unmount fresh =>
    rw [outline_putUnmount]
    refine .ask (by simp [World.outline, attempt?_unmount, fresh]) ?_
    intro s _ hnone
    cases hnone
  | mounting known goes => exact mountStep_move hw known goes
  | unmounting known goes =>
    rw [outline_putUnmount]
    exact .attempt (by simp [World.outline, attempt?_unmount, known, UnmountCall.attempt?])
      (unmountStep_turn goes)
  | listening known goes => exact listenerStep_move known goes
  | deliver | ignore =>
    refine .still ?_
    intro s _ hnone
    cases hnone

/-- What an attempt can do next, the thread that makes it can do next. -/
theorem step_of_unmountStep {r : Role} {phase : UnmountPhase} {input : Input} {w v : World}
    {call : UnmountCall} {events : List Event} (h : attempt? w.host r = some phase)
    (hattempt : unmountStep r phase input w = some (call, v, events)) :
    ∃ w' told, step setup (.act r input) w = some (w', told) ∧
      attempt? w'.host r = call.attempt? ∧ w'.host.record = v.host.record := by
  cases attempts_of_attempt? h with
  | mount hc called hp =>
    cases called <;> cases call <;> simp [step, hc, mountStep, hp, hattempt, attempt?_mount,
      World.putMount, MountPhase.attempt?, UnmountCall.attempt?]
  | unmount hcall => simp [step, hcall, hattempt, attempt?_unmount, World.putUnmount]
  | listener hl hp =>
    cases call with
    | running next =>
      simp [step, hl, listenerStep, hp, hattempt, attempt?_listener, World.putListener,
        ListenerPhase.attempt?, UnmountCall.attempt?]
    | finished result =>
      -- A listener that has unmounted is about to close, and waits again otherwise.
      cases result <;> simp [step, hl, listenerStep, hp, hattempt, attempt?_listener,
        World.putListener, ListenerPhase.attempt?, UnmountCall.attempt?]

theorem unmountStep_claim {w : World} (r : Role) (hstate : w.host.record.state = .mounted) :
    unmountStep r (.checking true) .go w =
      some (.running (.calling w.host.record.session w.host.record.mountpoint),
        (w.setRecord { w.host.record with state := .unmounting }).unlockRecord,
        [.unmounting w.host.record.mountpoint]) := by
  simp only [unmountStep, if_pos hstate]

theorem unmountStep_refuse {w : World} (r : Role) (hstate : w.host.record.state ≠ .mounted) :
    unmountStep r (.checking true) .go w =
      some (.running (.leaving false), w.unlockRecord,
        [.unmountIgnored w.host.record.state]) := by
  simp only [unmountStep, if_neg hstate]

/-- An attempt that looks at a record that says `mounted` claims the mount. -/
theorem claimed_of_mounted {r : Role} {w : World}
    (h : attempt? w.host r = some (.checking true)) (hstate : w.host.record.state = .mounted) :
    ∃ w' told, step setup (.act r .go) w = some (w', told) ∧
      attempt? w'.host r =
        some (.calling w.host.record.session w.host.record.mountpoint) ∧
      w'.host.record = { w.host.record with state := .unmounting } :=
  step_of_unmountStep h (unmountStep_claim r hstate)

/-- An attempt that looks at a record that does not say `mounted` is refused. -/
theorem refused_of_not_mounted {r : Role} {w : World}
    (h : attempt? w.host r = some (.checking true)) (hstate : w.host.record.state ≠ .mounted) :
    ∃ w' told, step setup (.act r .go) w = some (w', told) ∧
      attempt? w'.host r = some (.leaving false) ∧ w'.host.record = w.host.record :=
  step_of_unmountStep h (unmountStep_refuse r hstate)

/-! ## Runs -/

/-- The outline of a host that has done nothing yet. -/
def Outline.start (registry : Registry Nat) : Outline where
  record := .idle
  gate := none
  attempt _ := none
  mounts _ := none
  registry := registry

theorem outline_start (p : Process) : (⟨p, {}⟩ : World).outline = .start p.registry := by
  have hattempt : Host.attempt? {} = fun _ => none := by
    funext r
    cases r <;> rfl
  simp [World.outline, Outline.start, hattempt]

/-- A call to mount makes an attempt only within the call of an implementation. -/
def Outline.Within (o : Outline) : Prop :=
  ∀ n phase, o.attempt (.mount n) = some phase →
    ∃ c, o.mounts n = some c ∧ (c.phase = .initializing none ∨ c.phase = .destroying none)

theorem outline_within (w : World) : w.outline.Within := by
  intro n phase h
  change Host.attempt? w.host (.mount n) = some phase at h
  obtain @⟨_, c, _, hc, called, hp⟩ := attempts_of_attempt? h
  refine ⟨c.outer, outline_mounts hc, ?_⟩
  cases called with
  | initializing => exact .inl (by rw [MountCall.outer, hp]; rfl)
  | destroying => exact .inr (by rw [MountCall.outer, hp]; rfl)

theorem numbered_run {p : Process} {labels : List Label} {w : World} {events : List Event}
    (h : run setup labels ⟨p, {}⟩ = some (w, events)) : Numbered w :=
  run_induction (P := fun _ w _ => Numbered w) (fun _ _ => rfl)
    (fun _ _ _ _ _ _ _ hv hstep => numbered_step hv hstep) h

/-- What holds at some point of a run, and is kept by the moves of the steps from
    there on, holds at its end. -/
theorem induction_from {p : Process} {before : List Label} {v₀ : World} {early : List Event}
    (hbefore : run setup before ⟨p, {}⟩ = some (v₀, early))
    {P : List Label → World → List Event → Prop} (start : P [] v₀ [])
    (next : ∀ after v mid label w late,
      run setup (before ++ after) ⟨p, {}⟩ = some (v, early ++ mid) → P after v mid →
      step setup label v = some (w, late) → Move setup label v.outline w.outline →
      P (after ++ [label]) w (mid ++ late))
    {after : List Label} {w : World} {events : List Event}
    (h : run setup after v₀ = some (w, events)) : P after w events := by
  refine run_induction start ?_ h
  intro after v mid label w late hrun hv hstep
  have hwhole : run setup (before ++ after) ⟨p, {}⟩ = some (v, early ++ mid) :=
    run_append.mpr ⟨v₀, early, mid, hbefore, hrun, rfl⟩
  exact next after v mid label w late hwhole hv hstep (step_move (numbered_run hwhole) hstep)

/-- What holds of the outline before a run, and is kept by the moves of its
    steps, holds after it. -/
theorem outline_induction {p : Process} {P : List Label → Outline → Prop}
    (start : P [] (.start p.registry))
    (next : ∀ labels v early label w late, run setup labels ⟨p, {}⟩ = some (v, early) →
      P labels v.outline → step setup label v = some (w, late) →
      Move setup label v.outline w.outline → P (labels ++ [label]) w.outline)
    {labels : List Label} {w : World} {events : List Event}
    (h : run setup labels ⟨p, {}⟩ = some (w, events)) : P labels w.outline := by
  refine induction_from (run_nil _) (P := fun labels w _ => P labels w.outline) ?_ ?_ h
  · rw [outline_start]
    exact start
  · intro labels v early label w late hrun hv hstep hmove
    exact next labels v early label w late hrun hv hstep hmove

end HostedFs.Host
