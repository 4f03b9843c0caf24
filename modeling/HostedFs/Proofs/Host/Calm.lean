import HostedFs.Proofs.Host.Stages
import HostedFs.Proofs.Host.Returning
import HostedFs.Proofs.Signal.Bridge

/-! # Calm hosts

    While nothing is under way at a host, nothing is in the way of its call to mount either:
    what the native loop calls for comes to an end, and the host is calm again.

    * `Calm`: nobody holds a lock, no listener has anything to do.
    * `Alone`, `alone_step`: only a call to mount holds locks, and this lasts while it
      goes on.
    * `Settles`, `Hosts.quiets_advanceListeners`: listeners go on until they wait again.
-/

namespace HostedFs

/-- No listener has signals to read. -/
def Signal.Bridge.Unread {ω : Type} (b : Bridge ω) : Prop :=
  ∀ slot, b.pendingAt slot = []

namespace Signal.Bridge

variable {ω : Type} {b : Bridge ω}

theorem unread_of_slots (h : ∀ wake, some wake ∈ b.slots → wake.pending = []) : b.Unread := by
  intro slot
  unfold pendingAt
  cases hwake : b.wakeAt? slot with
  | none => rfl
  | some wake =>
    unfold wakeAt? at hwake
    exact h wake (List.mem_of_getElem? (Option.join_eq_some_iff.mp hwake))

/-- A slot that nobody owns any more, or that somebody has come to own, has nothing to be
    read. -/
theorem Unread.set (h : b.Unread) {b' : Bridge ω} {slot : Nat} {wake? : Option (Wake ω)}
    (hwake : ∀ wake, wake? = some wake → wake.pending = [])
    (hslots : b'.slots = b.slots.set slot wake?) : b'.Unread := by
  intro other
  have hother := h other
  by_cases heq : slot = other
  · subst heq
    unfold pendingAt wakeAt?
    rw [hslots, List.getElem?_set_self']
    cases b.slots[slot]? with
    | none => rfl
    | some old =>
      cases wake? with
      | none => rfl
      | some wake => exact hwake wake rfl
  · unfold pendingAt wakeAt? at *
    rw [hslots, List.getElem?_set_ne heq]
    exact hother

theorem Unread.register (h : b.Unread) (owner : ω) (refusal : Signal → Option Errno) :
    (b.register owner refusal).1.Unread := by
  obtain ⟨bridge, result, hregister⟩ :
      ∃ bridge result, b.register owner refusal = (bridge, result) := ⟨_, _, rfl⟩
  rw [hregister]
  cases result with
  | error e => exact (register_refused hregister).1 ▸ h
  | ok slot =>
    obtain ⟨-, hslots, -⟩ := register_accepted hregister
    refine h.set (fun wake hwake => ?_) hslots
    rw [← Option.some.inj hwake]

theorem Unread.unregister (h : b.Unread) (slot : Nat) : (b.unregister slot).Unread :=
  h.set (by nofun) (b.slots_unregister slot)

end Signal.Bridge

namespace Host

variable {setup : Setup} {n : Nat}

/-! ## Calm -/

/-- The listener is about to start, waits, is about to give its slot back, or is over. -/
def ListenerPhase.Calm : ListenerPhase → Prop
  | .starting | .waiting | .closing false | .exited => True
  | _ => False

/-- Only a call to mount can hold locks, and no listener has anything to do but to start or
    to end. -/
structure Alone (setup : Setup) (n : Nat) (w : World) : Prop where
  numbered : Numbered w
  locks : ∀ lock, w.holder setup lock = none ∨ holds? w.host (.mount n) = some lock
  gate : w.host.gate = none ∨ ∃ phase, attempt? w.host (.mount n) = some phase ∧ phase ≠ .atGate
  listeners : ∀ k l, w.host.listeners k = some l → l.phase.Calm
  unread : w.process.bridge.Unread

/-- Nobody holds a lock, and no listener has anything to do but to start or to end. -/
structure Calm (setup : Setup) (w : World) : Prop where
  numbered : Numbered w
  locks : ∀ lock, w.holder setup lock = none
  gate : w.host.gate = none
  listeners : ∀ k l, w.host.listeners k = some l → l.phase.Calm
  unread : w.process.bridge.Unread

theorem Calm.alone {w : World} (h : Calm setup w) (n : Nat) : Alone setup n w :=
  ⟨h.numbered, fun lock => .inl (h.locks lock), .inl h.gate, h.listeners, h.unread⟩

/-- A host is calm while its call to mount holds nothing either. -/
theorem Alone.calm {w : World} (h : Alone setup n w) (hfree : holds? w.host (.mount n) = none)
    (hidle : attempt? w.host (.mount n) = none) : Calm setup w where
  numbered := h.numbered
  locks lock := by
    rcases h.locks lock with hnone | hheld
    · exact hnone
    · cases hfree.symm.trans hheld
  gate := by
    rcases h.gate with hopen | ⟨phase, hphase, -⟩
    · exact hopen
    · cases hidle.symm.trans hphase
  listeners := h.listeners
  unread := h.unread

/-! ## Steps of a call that is alone -/

theorem stopListener_process (w : World) (k : Nat) : (w.stopListener k).process = w.process := by
  unfold World.stopListener
  cases w.host.listeners k <;> rfl

theorem stopPlaced_process (w : World) : w.stopPlaced.process = w.process := by
  unfold World.stopPlaced
  split
  · exact stopListener_process w _
  · rfl

theorem armStep_unread {role : Role} {phase : ArmPhase} {input : Input} {w w' : World}
    {arming : Arming} {told : List Event} (hw : w.process.bridge.Unread)
    (h : armStep setup role phase input w = some (arming, w', told)) :
    w'.process.bridge.Unread := by
  cases armStep_deed h with
  | lockBridge takes lock =>
    obtain ⟨-, rfl⟩ := World.lockBridge_eq_some_iff.mp lock
    exact hw
  | lockListener lock =>
    obtain ⟨-, rfl⟩ := World.lockListener_eq_some_iff.mp lock
    exact hw
  | register refuses registered | unregistered refuses registered =>
    -- A slot is free at first: no signal waits in it.
    have hafter := congrArg (fun result => result.1.Unread) registered
    exact hafter.mp (hw.register _ _)
  | abandon => exact hw.unregister _
  | store => exact stopPlaced_process w ▸ hw
  | _ => exact hw

theorem mountStep_unread {c : MountCall} {input : Input} {w w' : World} {told : List Event}
    (hw : w.process.bridge.Unread) (hstep : mountStep setup n c input w = some (w', told)) :
    w'.process.bridge.Unread := by
  obtain ⟨v, c', rfl, deed⟩ := mountStep_deed hstep
  cases deed with
  | lockRecord takes lock =>
    obtain ⟨-, rfl⟩ := World.lockRecord_eq_some_iff.mp lock
    exact hw
  | lockListener takes lock =>
    obtain ⟨-, rfl⟩ := World.lockListener_eq_some_iff.mp lock
    exact hw
  | shut h lock =>
    obtain ⟨-, rfl⟩ := World.lockGate_eq_some_iff.mp lock
    exact hw
  | arm h arms =>
    have hv : v.process.bridge.Unread := armStep_unread hw arms
    exact hv
  | attempt called h attempts =>
    obtain ⟨-, -, hsame⟩ := unmountStep_contested attempts
    exact hsame ▸ hw
  | disarm => exact stopPlaced_process w ▸ hw
  | take => exact stopListener_process w _ ▸ hw
  | _ => exact hw

/-- The gate is open, or the attempt of a call to mount has passed it. -/
theorem gate_of_attempt {phase : UnmountPhase} {input : Input} {o o' : Outline}
    (h : AttemptTurn (.mount n) phase input o o') :
    o'.gate = none ∨ ∃ next, o'.attempt (.mount n) = some next ∧ next ≠ .atGate := by
  cases h with
  | leave => exact .inl rfl
  | _ => exact .inr ⟨_, Function.update_self .., nofun⟩

/-- Apart from its attempts, a call to mount passes the gate only at its end. -/
theorem gate_of_move {c : MountCall} {input : Input} {o o' : Outline}
    (h : Move setup (.act (.mount n) input) o o') (hc : o.mounts n = some c)
    (hphase : ∀ status held, c.phase ≠ .gating status held)
    (hidle : o.attempt (.mount n) = none) (hopen : o.gate = none) : o'.gate = none := by
  cases h with
  | ask => exact hopen
  | attempt hattempt turn => cases hidle.symm.trans hattempt
  | still => exact hopen
  | mount hc' _ turn =>
    cases hc.symm.trans hc'
    cases turn with
    | shut hgating => exact absurd hgating (hphase _ _)
    | reopen hgating => exact absurd hgating (hphase _ _)
    | _ => exact hopen

/-- A call to mount that goes on stays alone. -/
theorem alone_step {c : MountCall} {input : Input} {w v : World} {told : List Event}
    (hw : Alone setup n w) (hc : w.host.mounts n = some c)
    (hphase : ∀ status held, c.phase ≠ .gating status held)
    (h : step setup (.act (.mount n) input) w = some (v, told)) : Alone setup n v := by
  have hstep : mountStep setup n c input w = some (v, told) := by
    simpa [step, hc] using h
  have hturns := step_turns hw.numbered h
  refine ⟨numbered_step hw.numbered h, fun lock => ?_, ?_, fun k l hl => ?_,
    mountStep_unread hw.unread hstep⟩
  · -- A lock that the call held it has given back or holds still; of others it took one at most.
    by_cases hheld : holds? w.host (.mount n) = some lock
    · exact .inl (hturns.released lock hheld)
    · rcases hturns.taken lock hheld with hsame | ⟨-, hnew⟩
      · exact .inl (hsame.trans ((hw.locks lock).resolve_right hheld))
      · exact .inr hnew
  · -- Only its attempt to unmount shuts the gate.
    have hmove := step_move hw.numbered h
    cases hattempt : attempt? w.host (.mount n) with
    | some phase => exact gate_of_attempt (hmove.turn hattempt)
    | none =>
      have hopen : w.host.gate = none := by
        rcases hw.gate with hopen | ⟨phase, hsome, -⟩
        · exact hopen
        · cases hattempt.symm.trans hsome
      have hidle : c.phase.attempt? = none := by
        simpa [attempt?_mount, hc] using hattempt
      have hcall := outline_mounts hc
      rw [outer_of_attempt?_none hidle] at hcall
      exact .inl (gate_of_move hmove hcall hphase hattempt hopen)
  · -- A listener is new, or it was told to stop, or it is what it was.
    obtain ⟨u, c', rfl, hshared, -⟩ := mountStep_shared hw.numbered hstep
    cases hold : w.host.listeners k with
    | none =>
      obtain ⟨slot, rfl⟩ := hshared.born k l hold hl
      trivial
    | some old =>
      obtain ⟨l', hl', hsame⟩ := hshared.listeners k old hold
      obtain rfl : l' = l := Option.some.inj (hl'.symm.trans hl)
      rcases hsame with rfl | rfl
      · exact hw.listeners k _ hold
      · exact hw.listeners k old hold

/-! ## Listeners -/

/-- The listener was started and has said nothing yet, or is ready. -/
def Awaits (host : Host) (k : Nat) : Prop :=
  ∃ l, host.listeners k = some l ∧
    (l.phase = .starting ∧ l.ready = none ∨ l.ready = some (.ok ()))

/-- The listener is ready. -/
def Heard (host : Host) (k : Nat) : Prop :=
  ∃ l, host.listeners k = some l ∧ l.ready = some (.ok ())

/-- Listeners went on until all was calm again. -/
structure Settles (setup : Setup) (w v : World) : Prop where
  calm : Calm setup v
  mounts : v.host.mounts = w.host.mounts
  awaits : ∀ k, Awaits w.host k → Awaits v.host k
  heard : ∀ k, Heard w.host k → Heard v.host k

theorem Settles.refl {w : World} (hw : Calm setup w) : Settles setup w w :=
  ⟨hw, rfl, fun _ => id, fun _ => id⟩

theorem Settles.trans {w v u : World} (h : Settles setup w v) (h' : Settles setup v u) :
    Settles setup w u :=
  ⟨h'.calm, h'.mounts.trans h.mounts, fun k hk => h'.awaits k (h.awaits k hk),
    fun k hk => h'.heard k (h.heard k hk)⟩

/-- One listener comes further, and nothing else changes but the bridge. -/
structure Shifts (k : Nat) (l l' : Listener) (w v : World) : Prop where
  mounts : v.host.mounts = w.host.mounts
  next : v.host.nextListener = w.host.nextListener
  before : w.host.listeners k = some l
  after : v.host.listeners k = some l'
  others : ∀ m, m ≠ k → v.host.listeners m = w.host.listeners m
  /-- What it has said it does not take back. -/
  ready : l'.ready = some (.ok ()) ∨ l.phase ≠ .starting ∧ l'.ready = l.ready

section shifts

variable {k : Nat} {l l' : Listener} {w v : World}

theorem Shifts.put {u : World} (hl : w.host.listeners k = some l)
    (hready : l'.ready = some (.ok ()) ∨ l.phase ≠ .starting ∧ l'.ready = l.ready)
    (hmounts : u.host.mounts = w.host.mounts) (hnext : u.host.nextListener = w.host.nextListener)
    (hothers : ∀ m, m ≠ k → u.host.listeners m = w.host.listeners m) :
    Shifts k l l' w (u.putListener k l') :=
  ⟨hmounts, hnext, hl, if_pos rfl, fun m hm => (if_neg hm).trans (hothers m hm), hready⟩

theorem Shifts.heard (h : Shifts k l l' w v) (hawaits : Awaits w.host k) : Heard v.host k := by
  refine ⟨l', h.after, ?_⟩
  rcases h.ready with hready | ⟨hstarted, hsame⟩
  · exact hready
  · obtain ⟨d, hd, hsaid⟩ := hawaits
    cases h.before.symm.trans hd
    rw [hsame]
    exact hsaid.resolve_left fun hnew => hstarted hnew.1

theorem Settles.of_shift (h : Shifts k l l' w v) (hw : Calm setup w)
    (hlocks : ∀ lock, v.holder setup lock = none) (hgate : v.host.gate = none)
    (hunread : v.process.bridge.Unread) (hcalm : l'.phase.Calm) : Settles setup w v := by
  refine ⟨⟨?_, hlocks, hgate, ?_, hunread⟩, h.mounts, ?_, ?_⟩
  · -- The listener `k` was there before, so no number is taken that was free.
    intro m hm
    have hne : m ≠ k := by
      intro heq
      subst heq
      cases (hw.numbered m (h.next ▸ hm)).symm.trans h.before
    exact (h.others m hne).trans (hw.numbered m (h.next ▸ hm))
  · intro m d hd
    by_cases hmk : m = k
    · subst hmk
      cases h.after.symm.trans hd
      exact hcalm
    · exact hw.listeners m d ((h.others m hmk).symm.trans hd)
  · -- What the others have heard they have heard still.
    intro m hm
    by_cases hmk : m = k
    · subst hmk
      obtain ⟨d, hd, hsaid⟩ := h.heard hm
      exact ⟨d, hd, .inr hsaid⟩
    · obtain ⟨d, hd, hsaid⟩ := hm
      exact ⟨d, (h.others m hmk).trans hd, hsaid⟩
  · intro m hm
    obtain ⟨d, hd, hsaid⟩ := hm
    by_cases hmk : m = k
    · subst hmk
      exact h.heard ⟨d, hd, .inr hsaid⟩
    · exact ⟨d, (h.others m hmk).trans hd, hsaid⟩

end shifts

section listener

variable {k : Nat} {l : Listener} {w : World} (hw : Calm setup w)
  (hl : w.host.listeners k = some l)

include hw hl

/-- A listener becomes ready. -/
theorem step_of_starting (hphase : l.phase = .starting) :
    ∃ v l', step setup (.act (.listener k) .go) w = some (v, []) ∧ Shifts k l l' w v ∧
      l'.phase = .waiting ∧ Settles setup w v := by
  have hstep : step setup (.act (.listener k) .go) w =
      some (w.putListener k { l with phase := .waiting, ready := some (.ok ()) }, []) := by
    simp only [step, hl, Option.bind_eq_bind, Option.bind_some, listenerStep, hphase]
  have hshifts : Shifts k l _ w
      (w.putListener k { l with phase := .waiting, ready := some (.ok ()) }) :=
    .put hl (.inl rfl) rfl rfl fun _ _ => rfl
  exact ⟨_, _, hstep, hshifts, rfl, .of_shift hshifts hw hw.locks hw.gate hw.unread trivial⟩

/-- A listener that was told to stop takes the word. -/
theorem step_of_stopping (hphase : l.phase = .waiting) (hstopping : l.stopping) :
    ∃ v l', step setup (.act (.listener k) .stop) w = some (v, [.listenerDisarmed]) ∧
      Shifts k l l' w v ∧ l'.phase = .closing false ∧ Settles setup w v := by
  have hstep : step setup (.act (.listener k) .stop) w =
      some (w.putListener k { l with phase := .closing false }, [.listenerDisarmed]) := by
    simp only [step, hl, Option.bind_eq_bind, Option.bind_some, listenerStep, hphase,
      if_pos hstopping]
  have hshifts : Shifts k l _ w (w.putListener k { l with phase := .closing false }) :=
    .put hl (.inr ⟨by simp [hphase], rfl⟩) rfl rfl fun _ _ => rfl
  exact ⟨_, _, hstep, hshifts, rfl, .of_shift hshifts hw hw.locks hw.gate hw.unread trivial⟩

/-- A listener gives its slot back: it takes the lock of the bridge for a step. -/
theorem steps_of_closing (hphase : l.phase = .closing false) :
    ∃ u v d l', step setup (.act (.listener k) .go) w = some (u, []) ∧
      u.host.listeners k = some d ∧ d.phase = .closing true ∧
      step setup (.act (.listener k) .go) u = some (v, []) ∧ Shifts k l l' w v ∧
      l'.phase = .exited ∧ Settles setup w v := by
  have hlock : w.process.bridgeLock = none := hw.locks .bridge
  obtain ⟨u, hu⟩ : ∃ u, u = ({ w with process :=
      { w.process with bridgeLock := some (setup.number, .listener k) } } : World).putListener k
        { l with phase := .closing true } := ⟨_, rfl⟩
  have hlu : u.host.listeners k = some { l with phase := .closing true } := by
    rw [hu]
    exact if_pos rfl
  have hstep : step setup (.act (.listener k) .go) w = some (u, []) := by
    simp [step, hl, listenerStep, hphase, World.lockBridge, hlock, hu]
  -- With the lock it gives its slot back, opens the bridge again and is over.
  obtain ⟨v, hv⟩ : ∃ v, v = ((u.setBridge
      (u.process.bridge.unregister l.slot)).unlockBridge).putListener k
        { l with phase := .exited } := ⟨_, rfl⟩
  have hstep' : step setup (.act (.listener k) .go) u = some (v, []) := by
    simp [step, hlu, listenerStep, hv]
  have hshifts : Shifts k l { l with phase := .exited } w v := by
    subst hv hu
    exact .put hl (.inr ⟨by simp [hphase], rfl⟩) rfl rfl fun m hm => if_neg hm
  refine ⟨u, v, _, _, hstep, hlu, rfl, hstep', hshifts, rfl, ?_⟩
  subst hv hu
  -- The lock was free before the first step and is free after the second.
  refine .of_shift hshifts hw (fun lock => ?_) hw.gate (hw.unread.unregister _) trivial
  cases lock with
  | bridge => rfl
  | record => exact hw.locks .record
  | place => exact hw.locks .place

end listener

namespace Hosts

variable {σ : Type} {env : Surroundings σ} {h : Nat} {s : Hosts σ}

theorem feed_listener {k : Nat} {l : Listener} (hl : (s.host h).listeners k = some l)
    (hidle : l.phase.attempt? = none) :
    s.feed env h (.listener k) = (s.listenerInput? l, s) := by
  have hattempt : attempt? (s.host h) (.listener k) = none := by
    rw [attempt?_listener, hl, Option.bind_some, hidle]
  simp only [feed, hattempt, hl, Option.bind_some]

theorem advanceAlone_of_go (hs : s.Has h setup) {role : Role} {input : Input} {w : World}
    {told : List Event} (m : Nat) (hfeed : s.feed env h role = (some input, s))
    (hstep : Host.step setup (.act role input) (s.world h) = some (w, told)) :
    s.advanceAlone env h role (m + 1) =
      (s.moved h setup w told).advanceAlone env h role m :=
  advanceAlone_of_step hfeed ((step?_eq_some_iff hs).mpr ⟨w, told, hstep, rfl⟩)

/-- Hosts come to others by listeners of one host that go on until all is calm again. -/
structure Quiets (setup : Setup) (h : Nat) (s s' : Hosts σ) : Prop where
  has : s'.Has h setup
  settles : Settles setup (s.world h) (s'.world h)

theorem Quiets.refl (hs : s.Has h setup) (hcalm : Calm setup (s.world h)) :
    Quiets setup h s s :=
  ⟨hs, .refl hcalm⟩

theorem Quiets.trans {s' s'' : Hosts σ} (hquiets : Quiets setup h s s')
    (hquiets' : Quiets setup h s' s'') : Quiets setup h s s'' :=
  ⟨hquiets'.has, hquiets.settles.trans hquiets'.settles⟩

theorem host_moved (hs : s.Has h setup) (w : World) (told : List Event) :
    (s.moved h setup w told).host h = w.host :=
  congrArg World.host (world_moved hs w told)

theorem Quiets.of_settles (hs : s.Has h setup) {w : World} {told : List Event}
    (hsettles : Settles setup (s.world h) w) : Quiets setup h s (s.moved h setup w told) := by
  refine ⟨has_moved hs w told, ?_⟩
  rw [world_moved hs]
  exact hsettles

/-- A listener that has nothing to do does nothing. -/
theorem advanceAlone_of_idle {k : Nat} {l : Listener} (m : Nat)
    (hl : (s.host h).listeners k = some l) (hidle : l.phase.attempt? = none)
    (hinput : s.listenerInput? l = none) : s.advanceAlone env h (.listener k) (m + 1) = s := by
  apply advanceAlone_of_done
  rw [feed_listener hl hidle, hinput]

section listener

variable (env) {k : Nat} {l : Listener} (hs : s.Has h setup) (hcalm : Calm setup (s.world h))
  (hl : (s.host h).listeners k = some l)

include hs hcalm hl

theorem quiets_of_closing (m : Nat) (hphase : l.phase = .closing false) :
    Quiets setup h s (s.advanceAlone env h (.listener k) (m + 3)) := by
  obtain ⟨u, v, d, l', hstep, hd, hclosing, hstep', hshifts, hexited, hsettles⟩ :=
    steps_of_closing hcalm hl hphase
  have hs₁ := has_moved hs u []
  have hs₂ := has_moved hs₁ v []
  have hd₁ : ((s.moved h setup u []).host h).listeners k = some d := by rw [host_moved hs, hd]
  have hl₂ : (((s.moved h setup u []).moved h setup v []).host h).listeners k = some l' := by
    rw [host_moved hs₁, hshifts.after]
  have hfeed : s.feed env h (.listener k) = (some .go, s) := by
    rw [feed_listener hl (by rw [hphase]; rfl), listenerInput?, hphase]
  have hfeed₁ : (s.moved h setup u []).feed env h (.listener k) =
      (some .go, s.moved h setup u []) := by
    rw [feed_listener hd₁ (by rw [hclosing]; rfl), listenerInput?, hclosing]
  rw [advanceAlone_of_go hs _ hfeed hstep,
    advanceAlone_of_go hs₁ _ hfeed₁ (by rw [world_moved hs]; exact hstep'),
    advanceAlone_of_idle _ hl₂ (by rw [hexited]; rfl) (by rw [listenerInput?, hexited])]
  refine ⟨hs₂, ?_⟩
  rw [world_moved hs₁]
  exact hsettles

theorem quiets_of_waiting (m : Nat) (hphase : l.phase = .waiting) :
    Quiets setup h s (s.advanceAlone env h (.listener k) (m + 4)) := by
  have hread : s.process.bridge.pendingAt l.slot = [] := hcalm.unread l.slot
  by_cases hstopping : l.stopping
  · obtain ⟨v, l', hstep, hshifts, hclosing, hsettles⟩ := step_of_stopping hcalm hl hphase hstopping
    have hfeed : s.feed env h (.listener k) = (some .stop, s) := by
      rw [feed_listener hl (by rw [hphase]; rfl)]
      simp [listenerInput?, hphase, hread, hstopping]
    have hone : Quiets setup h s (s.moved h setup v [.listenerDisarmed]) := .of_settles hs hsettles
    rw [advanceAlone_of_go hs _ hfeed hstep]
    refine hone.trans (quiets_of_closing env hone.has hone.settles.calm ?_ m hclosing)
    rw [host_moved hs, hshifts.after]
  · rw [advanceAlone_of_idle _ hl (by rw [hphase]; rfl)
      (by simp [listenerInput?, hphase, hread, hstopping])]
    exact .refl hs hcalm

/-- A listener goes on until it waits or is over. If it was started it is ready then. -/
theorem quiets_of_listener (m : Nat) :
    Quiets setup h s (s.advanceAlone env h (.listener k) (m + 5)) ∧
      (Awaits (s.host h) k → Heard ((s.advanceAlone env h (.listener k) (m + 5)).host h) k) := by
  -- A listener that has started is ready if it is ever to be.
  have hlater (hstarted : l.phase ≠ .starting) {s' : Hosts σ} (hquiets : Quiets setup h s s') :
      Quiets setup h s s' ∧ (Awaits (s.host h) k → Heard (s'.host h) k) := by
    refine ⟨hquiets, fun hawaits => hquiets.settles.heard k ?_⟩
    obtain ⟨d, hd, hsaid⟩ := hawaits
    cases hl.symm.trans hd
    exact ⟨l, hl, hsaid.resolve_left fun hnew => hstarted hnew.1⟩
  have hphase := hcalm.listeners k l hl
  cases hp : l.phase with
  | starting =>
    obtain ⟨v, l', hstep, hshifts, hwaiting, hsettles⟩ := step_of_starting hcalm hl hp
    have hfeed : s.feed env h (.listener k) = (some .go, s) := by
      rw [feed_listener hl (by rw [hp]; rfl), listenerInput?, hp]
    have hone : Quiets setup h s (s.moved h setup v []) := .of_settles hs hsettles
    have hl' : ((s.moved h setup v []).host h).listeners k = some l' := by
      rw [host_moved hs, hshifts.after]
    have hmore := quiets_of_waiting env hone.has hone.settles.calm hl' m hwaiting
    rw [advanceAlone_of_go hs _ hfeed hstep]
    refine ⟨hone.trans hmore, fun hawaits => hmore.settles.heard k ?_⟩
    have hheard : Heard v.host k := hshifts.heard hawaits
    rw [← host_moved hs v []] at hheard
    exact hheard
  | waiting => exact hlater (by simp [hp]) (quiets_of_waiting env hs hcalm hl (m + 1) hp)
  | exited =>
    rw [advanceAlone_of_idle _ hl (by rw [hp]; rfl) (by rw [listenerInput?, hp])]
    exact hlater (by simp [hp]) (.refl hs hcalm)
  | closing held =>
    cases held with
    | false => exact hlater (by simp [hp]) (quiets_of_closing env hs hcalm hl (m + 2) hp)
    | true =>
      rw [hp] at hphase
      exact hphase.elim
  | calling phase =>
    rw [hp] at hphase
    exact hphase.elim

end listener

section listeners

variable (env : Surroundings σ)

theorem quiets_advanceAlone (hs : s.Has h setup) (hcalm : Calm setup (s.world h)) (k : Nat) :
    Quiets setup h s (s.advanceAlone env h (.listener k) patience) ∧
      (Awaits (s.host h) k →
        Heard ((s.advanceAlone env h (.listener k) patience).host h) k) := by
  cases hl : (s.host h).listeners k with
  | some l => exact quiets_of_listener env hs hcalm hl 251
  | none =>
    have hattempt : attempt? (s.host h) (.listener k) = none := by
      rw [attempt?_listener, hl, Option.bind_none]
    have hfeed : s.feed env h (.listener k) = (none, s) := by
      simp only [feed, hattempt, hl, Option.bind_none]
    have hsame : s.advanceAlone env h (.listener k) patience = s := advanceAlone_of_done hfeed
    rw [hsame]
    refine ⟨.refl hs hcalm, fun hawaits => ?_⟩
    obtain ⟨l, hsome, -⟩ := hawaits
    cases hl.symm.trans hsome

theorem quiets_foldl (ks : List Nat) (hs : s.Has h setup) (hcalm : Calm setup (s.world h)) :
    Quiets setup h s (ks.foldl (fun s k => s.advanceAlone env h (.listener k) patience) s) ∧
      ∀ k ∈ ks, Awaits (s.host h) k →
        Heard ((ks.foldl (fun s k => s.advanceAlone env h (.listener k) patience) s).host h) k := by
  -- A listener is still awaited when those before it are done, and heard when those after it are.
  induction ks generalizing s with
  | nil => exact ⟨.refl hs hcalm, nofun⟩
  | cons j ks ih =>
    obtain ⟨hone, hheard⟩ := quiets_advanceAlone env hs hcalm j
    obtain ⟨hmore, hlater⟩ := ih hone.has hone.settles.calm
    refine ⟨hone.trans hmore, fun k hk hawaits => ?_⟩
    rcases List.mem_cons.mp hk with rfl | hk
    · exact hmore.settles.heard k (hheard hawaits)
    · exact hlater k hk (hone.settles.awaits k hawaits)

/-- While a call to mount waits for a listener all of them go on, and each becomes ready. -/
theorem quiets_advanceListeners (hs : s.Has h setup) (hcalm : Calm setup (s.world h)) :
    Quiets setup h s (s.advanceListeners env h) ∧
      ∀ k, Awaits (s.host h) k → Heard ((s.advanceListeners env h).host h) k := by
  obtain ⟨hquiets, hheard⟩ := quiets_foldl env (List.range (s.host h).nextListener) hs hcalm
  refine ⟨hquiets, fun k hawaits => hheard k (List.mem_range.mpr ?_) hawaits⟩
  -- Only listeners that have been started are awaited.
  by_contra hnew
  obtain ⟨l, hl, -⟩ := hawaits
  cases (hcalm.numbered k (Nat.le_of_not_lt hnew)).symm.trans hl

end listeners

end Hosts

end Host

end HostedFs
