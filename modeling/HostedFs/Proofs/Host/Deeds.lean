import HostedFs.Proofs.Host.Outline

/-! # What a thread does by a step

    A step takes a thread from one phase to the next. All that it can do is said here
    once, by name, so that what is proved of every step goes through these deeds and not
    through the phases and inputs again.

    * `AttemptDeed`, `unmountStep_deed`: what an attempt to unmount does, and that it does
      nothing else.
    * `ArmDeed`, `armStep_deed`: the same of the arming of a listener.
    * `MountDeed`, `mountStep_deed`: the same of a call to mount.
    * `ListenerDeed`, `listenerStep_deed`: the same of a listener.
    * `Deed`, `step_deed`: the same of the host, whichever thread goes on.
    * `TakesBridge`, `TakesRecord`, `TakesListener`: the phases that end with a lock.
    * `CalledIn`: the phases within which the implementation is called.
-/

namespace HostedFs.Host

/-- The world with the listener in its place told to stop, if there is one. -/
def World.stopPlaced (w : World) : World :=
  match w.host.listener with
  | some n => w.stopListener n
  | none => w

/-! ## Attempts to unmount -/

/-- What an attempt to unmount does by a step. -/
inductive AttemptDeed (r : Role) (w : World) :
    UnmountPhase → Input → UnmountCall → World → List Event → Prop
  | pass {v : World} (lock : w.lockGate r = some v) :
    AttemptDeed r w .atGate .go (.running (.checking false)) v []
  | look {v : World} (lock : w.lockRecord r = some v) :
    AttemptDeed r w (.checking false) .go (.running (.checking true)) v []
  | claim (mounted : w.host.record.state = .mounted) :
    AttemptDeed r w (.checking true) .go
      (.running (.calling w.host.record.session w.host.record.mountpoint))
      (w.setRecord { w.host.record with state := .unmounting }).unlockRecord
      [.unmounting w.host.record.mountpoint]
  | refuse (other : w.host.record.state ≠ .mounted) :
    AttemptDeed r w (.checking true) .go (.running (.leaving false)) w.unlockRecord
      [.unmountIgnored w.host.record.state]
  | succeed {session : Session} {mountpoint : Option String} :
    AttemptDeed r w (.calling session mountpoint) (.answered true) (.running (.leaving true)) w []
  | fail {session : Session} {mountpoint : Option String} :
    AttemptDeed r w (.calling session mountpoint) (.answered false)
      (.running (.restoring mountpoint false)) w []
  | lookAgain {mountpoint : Option String} {v : World} (lock : w.lockRecord r = some v) :
    AttemptDeed r w (.restoring mountpoint false) .go (.running (.restoring mountpoint true)) v []
  | restore {mountpoint : Option String} (claimed : w.host.record.state = .unmounting) :
    AttemptDeed r w (.restoring mountpoint true) .go (.running (.leaving false))
      (w.setRecord { w.host.record with state := .mounted }).unlockRecord
      [.unmountFailed mountpoint]
  | giveUp {mountpoint : Option String} (changed : w.host.record.state ≠ .unmounting) :
    AttemptDeed r w (.restoring mountpoint true) .go (.running (.leaving false))
      (w.setRecord w.host.record).unlockRecord [.unmountFailed mountpoint]
  | leave {result : Bool} :
    AttemptDeed r w (.leaving result) .go (.finished result) w.unlockGate []

/-- A step of an attempt to unmount is one of its deeds. -/
theorem unmountStep_deed {r : Role} {phase : UnmountPhase} {input : Input} {w w' : World}
    {call : UnmountCall} {events : List Event}
    (h : unmountStep r phase input w = some (call, w', events)) :
    AttemptDeed r w phase input call w' events := by
  unfold unmountStep at h
  split at h <;> simp only [Option.bind_eq_bind, Option.bind_eq_some_iff, Option.pure_def,
    Option.some.injEq, Prod.mk.injEq, reduceCtorEq] at h
  case h_1 =>
    obtain ⟨v, hlock, rfl, rfl, rfl⟩ := h
    exact .pass hlock
  case h_2 =>
    obtain ⟨v, hlock, rfl, rfl, rfl⟩ := h
    exact .look hlock
  case h_3 =>
    -- It holds the record, and claims the mount if there is one.
    split at h <;> rename_i hstate <;> simp only [Option.some.injEq, Prod.mk.injEq] at h <;>
      obtain ⟨rfl, rfl, rfl⟩ := h
    · exact .claim hstate
    · exact .refuse hstate
  case h_4 =>
    obtain ⟨rfl, rfl, rfl⟩ := h
    exact .succeed
  case h_5 =>
    obtain ⟨rfl, rfl, rfl⟩ := h
    exact .fail
  case h_6 =>
    obtain ⟨v, hlock, rfl, rfl, rfl⟩ := h
    exact .lookAgain hlock
  case h_7 =>
    -- It has failed, and holds the record again.
    obtain ⟨rfl, rfl, rfl⟩ := h
    by_cases hstate : w.host.record.state = .unmounting
    · rw [if_pos hstate]
      exact .restore hstate
    · rw [if_neg hstate]
      exact .giveUp hstate
  case h_8 =>
    obtain ⟨rfl, rfl, rfl⟩ := h
    exact .leave

/-! ## Arming a listener -/

/-- The phase after a step of arming a listener. -/
def Arming.next : Arming → MountPhase
  | .running phase => .arming phase
  | .over => .initializing none

/-- In the one phase a call waits for the lock of the bridge, and in the other it holds it. -/
inductive TakesBridge : ArmPhase → ArmPhase → Prop
  | registering : TakesBridge (.registering false) (.registering true)
  | abandoning (slot : Nat) (error : String) :
    TakesBridge (.abandoning slot error false) (.abandoning slot error true)

/-- What the system refuses when handlers are installed, as the input tells it. -/
inductive Refusing : Input → (Signal → Option Errno) → Prop
  | nothing : Refusing .go fun _ => none
  | refused (refusal : Signal → Option Errno) : Refusing (.refused refusal) refusal

/-- What the arming of a listener does by a step. -/
inductive ArmDeed (setup : Setup) (r : Role) (w : World) :
    ArmPhase → Input → Arming → World → List Event → Prop
  | lockBridge {phase phase' : ArmPhase} {v : World} (takes : TakesBridge phase phase')
    (lock : w.lockBridge setup r = some v) :
    ArmDeed setup r w phase .go (.running phase') v []
  | register {input : Input} {refusal : Signal → Option Errno}
    {bridge : Signal.Bridge (Nat × Nat)} {slot : Nat} (refuses : Refusing input refusal)
    (registers : w.process.bridge.register (setup.number, w.host.nextListener) refusal =
      (bridge, .ok slot)) :
    ArmDeed setup r w (.registering true) input (.running (.spawning slot))
      (w.setBridge bridge).unlockBridge []
  | unregistered {input : Input} {refusal : Signal → Option Errno}
    {bridge : Signal.Bridge (Nat × Nat)} {e : Signal.RegisterError}
    (refuses : Refusing input refusal)
    (fails : w.process.bridge.register (setup.number, w.host.nextListener) refusal =
      (bridge, .error e)) :
    ArmDeed setup r w (.registering true) input .over (w.setBridge bridge).unlockBridge
      [.notListening e.message]
  | spawn {slot : Nat} :
    ArmDeed setup r w (.spawning slot) .go (.running (.awaiting w.host.nextListener))
      { w.putListener w.host.nextListener { slot } with
        host := { (w.putListener w.host.nextListener { slot }).host with
          nextListener := w.host.nextListener + 1 } } []
  | unspawned {slot : Nat} {error : String} :
    ArmDeed setup r w (.spawning slot) (.failed error) (.running (.abandoning slot error false))
      w []
  | abandon {slot : Nat} {error : String} :
    ArmDeed setup r w (.abandoning slot error true) .go .over
      (w.setBridge (w.process.bridge.unregister slot)).unlockBridge [.notListening error]
  | ready {n : Nat} {l : Listener} (known : w.host.listeners n = some l)
    (said : l.ready = some (.ok ())) :
    ArmDeed setup r w (.awaiting n) .go (.running (.storing n false)) w []
  | failed {n : Nat} {l : Listener} {error : String} (known : w.host.listeners n = some l)
    (said : l.ready = some (.error error)) :
    ArmDeed setup r w (.awaiting n) .go (.running (.joining n error)) w []
  | joined {n : Nat} {error : String} {l : Listener} (known : w.host.listeners n = some l)
    (exited : l.phase = .exited) :
    ArmDeed setup r w (.joining n error) .go .over w [.notListening error]
  | lockListener {n : Nat} {v : World} (lock : w.lockListener r = some v) :
    ArmDeed setup r w (.storing n false) .go (.running (.storing n true)) v []
  | store {n : Nat} :
    ArmDeed setup r w (.storing n true) .go .over
      (World.unlockListener { w.stopPlaced with
        host := { w.stopPlaced.host with listener := some n } }) []

/-- A step of arming a listener is one of its deeds. -/
theorem armStep_deed {setup : Setup} {r : Role} {phase : ArmPhase} {input : Input} {w w' : World}
    {arming : Arming} {events : List Event}
    (h : armStep setup r phase input w = some (arming, w', events)) :
    ArmDeed setup r w phase input arming w' events := by
  unfold armStep at h
  split at h <;> simp only [Option.bind_eq_bind, Option.bind_eq_some_iff, Option.pure_def,
    Option.some.injEq, Prod.mk.injEq, reduceCtorEq] at h
  case h_1 =>
    obtain ⟨v, hlock, rfl, rfl, rfl⟩ := h
    exact .lockBridge .registering hlock
  case h_2 =>
    -- The bridge gives a slot or does not.
    split at h <;> rename_i hregister <;> obtain ⟨rfl, rfl, rfl⟩ := h
    · exact .register .nothing hregister
    · exact .unregistered .nothing hregister
  case h_3 refusal =>
    split at h <;> rename_i hregister <;> obtain ⟨rfl, rfl, rfl⟩ := h
    · exact .register (.refused refusal) hregister
    · exact .unregistered (.refused refusal) hregister
  case h_4 =>
    obtain ⟨rfl, rfl, rfl⟩ := h
    exact .spawn
  case h_5 =>
    obtain ⟨rfl, rfl, rfl⟩ := h
    exact .unspawned
  case h_6 =>
    obtain ⟨v, hlock, rfl, rfl, rfl⟩ := h
    exact .lockBridge (.abandoning ..) hlock
  case h_7 =>
    obtain ⟨rfl, rfl, rfl⟩ := h
    exact .abandon
  case h_8 =>
    -- The listener is ready, or has failed.
    obtain ⟨l, hl, said, hsaid, h⟩ := h
    cases said with
    | ok ready =>
      cases h
      exact .ready hl hsaid
    | error error =>
      cases h
      exact .failed hl hsaid
  case h_9 =>
    obtain ⟨l, hl, h⟩ := h
    split at h <;> rename_i hexited <;> cases h
    exact .joined hl hexited
  case h_10 =>
    obtain ⟨v, hlock, rfl, rfl, rfl⟩ := h
    exact .lockListener hlock
  case h_11 =>
    obtain ⟨rfl, rfl, rfl⟩ := h
    exact .store

/-! ## Calls to mount -/

/-- In the one phase a call waits for the lock of the record, and in the other it holds it. -/
inductive TakesRecord : MountPhase → MountPhase → Prop
  | claiming : TakesRecord (.claiming false) (.claiming true)
  | naming (mountpoint : Option String) :
    TakesRecord (.naming mountpoint false) (.naming mountpoint true)
  | starting (session : Session) : TakesRecord (.starting session false) (.starting session true)
  | closing : TakesRecord (.closing false) (.closing true)
  | resetting (error : Option HostError) :
    TakesRecord (.resetting error false) (.resetting error true)

/-- The same of the lock of the listener's place. -/
inductive TakesListener : MountPhase → MountPhase → Prop
  | disarming : TakesListener (.disarming false) (.disarming true)
  | taking (status : Int32) : TakesListener (.taking status false) (.taking status true)

/-- The phases within which the implementation is called, by the attempt to unmount that it
    makes meanwhile. -/
inductive CalledIn : (Option UnmountPhase → MountPhase) → Prop
  | initializing : CalledIn .initializing
  | destroying : CalledIn .destroying

/-- What a call to mount does by a step: with an input it changes the world, apart from the
    call itself, puts the call where it comes to, and reports events. -/
inductive MountDeed (setup : Setup) (n : Nat) (c : MountCall) (w : World) :
    Input → World → MountCall → List Event → Prop
  | lockRecord {v : World} {phase : MountPhase} (takes : TakesRecord c.phase phase)
    (lock : w.lockRecord (.mount n) = some v) : MountDeed setup n c w .go v { c with phase } []
  | lockListener {v : World} {phase : MountPhase} (takes : TakesListener c.phase phase)
    (lock : w.lockListener (.mount n) = some v) : MountDeed setup n c w .go v { c with phase } []
  | claim (h : c.phase = .claiming true) (idle : w.host.record.state = .unmounted) :
    MountDeed setup n c w .go
      (w.setRecord { w.host.record with state := .mounting }).unlockRecord
      { c with phase := .preparing } []
  | refuse (h : c.phase = .claiming true) (busy : w.host.record.state ≠ .unmounted) :
    MountDeed setup n c w .go w.unlockRecord
      { c with phase := .returned (some .alreadyMounted) } []
  | unprepared {error : HostError} (h : c.phase = .preparing) :
    MountDeed setup n c w (.prepared (some error)) w
      { c with phase := .resetting (some error) false } []
  | spoiled {arg : String} (h : c.phase = .preparing)
    (nul : firstWithNul? (setup.settings.arguments c.mountpoint c.options) = some arg) :
    MountDeed setup n c w (.prepared none) w
      { c with phase := .resetting (some (.nulInArgument arg)) false } []
  | prepared {mountpoint : Option String} {told : List Event} (h : c.phase = .preparing)
    (clean : firstWithNul? (setup.settings.arguments c.mountpoint c.options) = none)
    (found : mountpointOf setup.canonical
          (setup.settings.argumentsAfterName c.mountpoint c.options) = .ok mountpoint ∧ told = [] ∨
      ∃ e, mountpointOf setup.canonical
          (setup.settings.argumentsAfterName c.mountpoint c.options) = .error e ∧
        mountpoint = none ∧ told = [.mountpointUnknown e]) :
    MountDeed setup n c w (.prepared none) w { c with phase := .naming mountpoint false } told
  | name {mountpoint : Option String} (h : c.phase = .naming mountpoint true) :
    MountDeed setup n c w .go (w.setRecord { w.host.record with mountpoint }).unlockRecord
      { c with phase := .registering } []
  | enter {token : Token} (h : c.phase = .registering)
    (fresh : w.process.registry.lookup token = none) :
    MountDeed setup n c w (.allocated token)
      { w with
        process := { w.process with registry := w.process.registry.insert token setup.number } }
      { c with phase := .running, token := some token }
      [.loopEntered (setup.settings.arguments c.mountpoint c.options) token]
  | callInit {session : Session} {connection : Option Connection} (h : c.phase = .running) :
    MountDeed setup n c w (.callInit session connection)
      { w with
        host := { w.host with
          negotiated := (Connection.settle setup.settings.requested connection).1 } }
      { c with phase := .starting session false } []
  | callDestroy (h : c.phase = .running) :
    MountDeed setup n c w .callDestroy w { c with phase := .destroying none } []
  | loopReturned {status : Int32} (h : c.phase = .running) :
    MountDeed setup n c w (.loopReturned status) w { c with phase := .taking status false } []
  | start {session : Session} (h : c.phase = .starting session true) :
    MountDeed setup n c w .go
      (w.setRecord { w.host.record with state := .mounted, session }).unlockRecord
      { c with
        phase := if setup.listens then .arming (.registering false) else .initializing none }
      [.mounted w.host.record.mountpoint w.host.negotiated]
  | arm {phase : ArmPhase} {input : Input} {arming : Arming} {v : World} {told : List Event}
    (h : c.phase = .arming phase)
    (arms : armStep setup (.mount n) phase input w = some (arming, v, told)) :
    MountDeed setup n c w input v { c with phase := arming.next } told
  | ask {within : Option UnmountPhase → MountPhase} (called : CalledIn within)
    (h : c.phase = within none) :
    MountDeed setup n c w .callUnmount w { c with phase := within (some .atGate) } []
  | attempt {within : Option UnmountPhase → MountPhase} {phase : UnmountPhase} {input : Input}
    {call : UnmountCall} {v : World} {told : List Event} (called : CalledIn within)
    (h : c.phase = within (some phase))
    (attempts : unmountStep (.mount n) phase input w = some (call, v, told)) :
    MountDeed setup n c w input v { c with phase := within call.attempt? } told
  | initialized (h : c.phase = .initializing none) :
    MountDeed setup n c w .left w { c with phase := .running } []
  | gone (h : c.phase = .destroying none) :
    MountDeed setup n c w .left w { c with phase := .disarming false } []
  | disarm (h : c.phase = .disarming true) :
    MountDeed setup n c w .go w.stopPlaced.unlockListener { c with phase := .closing false } []
  | close (h : c.phase = .closing true) :
    MountDeed setup n c w .go
      (w.setRecord (if w.host.record.state = .mounted then
        { w.host.record with state := .unmounting } else w.host.record)).unlockRecord
      { c with phase := .running } [.destroyed]
  | take {status : Int32} {l : Nat} (h : c.phase = .taking status true)
    (placed : w.host.listener = some l) :
    MountDeed setup n c w .go
      (World.unlockListener { w.stopListener l with
        host := { (w.stopListener l).host with listener := none } })
      { c with phase := .joining status l } []
  | takeNone {status : Int32} (h : c.phase = .taking status true)
    (empty : w.host.listener = none) :
    MountDeed setup n c w .go w.unlockListener { c with phase := .gating status false } []
  | joined {status : Int32} {k : Nat} {l : Listener} (h : c.phase = .joining status k)
    (known : w.host.listeners k = some l) (exited : l.phase = .exited) :
    MountDeed setup n c w .go w { c with phase := .gating status false } []
  | shut {v : World} {status : Int32} (h : c.phase = .gating status false)
    (lock : w.lockGate (.mount n) = some v) :
    MountDeed setup n c w .go v { c with phase := .gating status true } []
  | reopen {status : Int32} (h : c.phase = .gating status true) :
    MountDeed setup n c w .go w.unlockGate { c with phase := .releasing status } []
  | release {status : Int32} {token : Token} (h : c.phase = .releasing status)
    (ht : c.token = some token) :
    MountDeed setup n c w .go
      { w with process := { w.process with registry := w.process.registry.erase token } }
      { c with
        phase := .resetting (if status = 0 then none else some (.nativeFailure status)) false }
      (if status = 0 then [.loopExited c.mountpoint] else [])
  | reset {error : Option HostError} (h : c.phase = .resetting error true) :
    MountDeed setup n c w .go (w.setRecord .idle).unlockRecord
      { c with phase := .returned error } []

variable {setup : Setup} {n : Nat} {c : MountCall} {input : Input} {w w' : World}
  {events : List Event}

/-- A step of a call to mount is one of its deeds. -/
theorem mountStep_deed (h : mountStep setup n c input w = some (w', events)) :
    ∃ v c', w' = v.putMount n c' ∧ MountDeed setup n c w input v c' events := by
  unfold mountStep at h
  split at h <;> rename_i hphase <;> simp only [Option.bind_eq_bind, Option.bind_eq_some_iff,
    Option.pure_def, Option.some.injEq, Prod.mk.injEq, reduceCtorEq] at h
  case h_1 | h_5 | h_11 | h_22 | h_30 =>
    -- It waits for the record.
    obtain ⟨v, hlock, rfl, rfl⟩ := h
    exact ⟨v, _, rfl, .lockRecord (hphase ▸ by constructor) hlock⟩
  case h_20 | h_24 =>
    -- It waits for the listener's place.
    obtain ⟨v, hlock, rfl, rfl⟩ := h
    exact ⟨v, _, rfl, .lockListener (hphase ▸ by constructor) hlock⟩
  case h_2 =>
    -- It claims the record, or finds it in use.
    split at h <;> rename_i hstate <;> simp only [Option.some.injEq, Prod.mk.injEq] at h <;>
      obtain ⟨rfl, rfl⟩ := h
    · exact ⟨_, _, rfl, .claim hphase hstate⟩
    · exact ⟨_, _, rfl, .refuse hphase hstate⟩
  case h_3 =>
    obtain ⟨rfl, rfl⟩ := h
    exact ⟨_, _, rfl, .unprepared hphase⟩
  case h_4 =>
    -- The library is prepared; what follows depends on the arguments.
    split at h <;> rename_i hnul
    · simp only [Option.some.injEq, Prod.mk.injEq] at h
      obtain ⟨rfl, rfl⟩ := h
      exact ⟨_, _, rfl, .spoiled hphase hnul⟩
    · split at h <;> rename_i hfound <;> simp only [Option.some.injEq, Prod.mk.injEq] at h <;>
        obtain ⟨rfl, rfl⟩ := h
      · exact ⟨_, _, rfl, .prepared hphase hnul (.inl ⟨hfound, rfl⟩)⟩
      · exact ⟨_, _, rfl, .prepared hphase hnul (.inr ⟨_, hfound, rfl, rfl⟩)⟩
  case h_6 =>
    obtain ⟨rfl, rfl⟩ := h
    exact ⟨_, _, rfl, .name hphase⟩
  case h_7 =>
    -- No step allocates a token that is registered.
    split at h
    · cases h
    · rename_i hfresh
      simp only [Option.some.injEq, Prod.mk.injEq] at h
      obtain ⟨rfl, rfl⟩ := h
      exact ⟨_, _, rfl, .enter hphase (Option.not_isSome_iff_eq_none.mp hfresh)⟩
  case h_8 =>
    obtain ⟨rfl, rfl⟩ := h
    exact ⟨_, _, rfl, .callInit hphase⟩
  case h_9 =>
    obtain ⟨rfl, rfl⟩ := h
    exact ⟨_, _, rfl, .callDestroy hphase⟩
  case h_10 =>
    obtain ⟨rfl, rfl⟩ := h
    exact ⟨_, _, rfl, .loopReturned hphase⟩
  case h_12 =>
    obtain ⟨rfl, rfl⟩ := h
    exact ⟨_, _, rfl, .start hphase⟩
  case h_13 =>
    -- `armStep` goes on or is over; `Arming.next` is the phase in either case.
    obtain ⟨⟨arming, v, told⟩, harm, h⟩ := h
    cases arming <;> cases h
    · exact ⟨v, _, rfl, .arm hphase harm⟩
    · exact ⟨v, _, rfl, .arm hphase harm⟩
  case h_14 =>
    obtain ⟨rfl, rfl⟩ := h
    exact ⟨_, _, rfl, .ask .initializing hphase⟩
  case h_15 =>
    obtain ⟨rfl, rfl⟩ := h
    exact ⟨_, _, rfl, .initialized hphase⟩
  case h_16 =>
    -- The attempt is made within `init`, ...
    obtain ⟨⟨call, v, told⟩, hattempt, h⟩ := h
    cases call <;> cases h
    · exact ⟨v, _, rfl, .attempt .initializing hphase hattempt⟩
    · exact ⟨v, _, rfl, .attempt .initializing hphase hattempt⟩
  case h_17 =>
    obtain ⟨rfl, rfl⟩ := h
    exact ⟨_, _, rfl, .ask .destroying hphase⟩
  case h_18 =>
    obtain ⟨rfl, rfl⟩ := h
    exact ⟨_, _, rfl, .gone hphase⟩
  case h_19 =>
    -- ... or within `destroy`.
    obtain ⟨⟨call, v, told⟩, hattempt, h⟩ := h
    cases call <;> cases h
    · exact ⟨v, _, rfl, .attempt .destroying hphase hattempt⟩
    · exact ⟨v, _, rfl, .attempt .destroying hphase hattempt⟩
  case h_21 =>
    obtain ⟨rfl, rfl⟩ := h
    exact ⟨_, _, rfl, .disarm hphase⟩
  case h_23 =>
    obtain ⟨rfl, rfl⟩ := h
    exact ⟨_, _, rfl, .close hphase⟩
  case h_25 =>
    -- The listener is taken from its place, if there is one.
    split at h <;> rename_i hplace <;> simp only [Option.some.injEq, Prod.mk.injEq] at h <;>
      obtain ⟨rfl, rfl⟩ := h
    · exact ⟨_, _, rfl, .take hphase hplace⟩
    · exact ⟨_, _, rfl, .takeNone hphase hplace⟩
  case h_26 =>
    obtain ⟨l, hl, h⟩ := h
    split at h <;> rename_i hexited <;> cases h
    exact ⟨_, _, rfl, .joined hphase hl hexited⟩
  case h_27 =>
    obtain ⟨v, hlock, rfl, rfl⟩ := h
    exact ⟨v, _, rfl, .shut hphase hlock⟩
  case h_28 =>
    obtain ⟨rfl, rfl⟩ := h
    exact ⟨_, _, rfl, .reopen hphase⟩
  case h_29 =>
    -- The status decides the result and whether the end is reported.
    obtain ⟨token, htoken, h⟩ := h
    have deed : MountDeed setup n c w .go _ _ _ := .release hphase htoken
    split at h <;> rename_i hstatus <;> simp only [Option.some.injEq, Prod.mk.injEq] at h <;>
      obtain ⟨rfl, rfl⟩ := h
    · rw [if_pos hstatus, if_pos hstatus] at deed
      exact ⟨_, _, rfl, deed⟩
    · rw [if_neg hstatus, if_neg hstatus] at deed
      exact ⟨_, _, rfl, deed⟩
  case h_31 =>
    obtain ⟨rfl, rfl⟩ := h
    exact ⟨_, _, rfl, .reset hphase⟩

/-! ## Listeners -/

/-- What a listener does by a step: with an input it changes the world, apart from the listener
    itself, puts the listener where it comes to, and reports events. -/
inductive ListenerDeed (setup : Setup) (n : Nat) (l : Listener) (w : World) :
    Input → World → Listener → List Event → Prop
  | ready (h : l.phase = .starting) :
    ListenerDeed setup n l w .go w { l with phase := .waiting, ready := some (.ok ()) } []
  | failed {error : String} (h : l.phase = .starting) :
    ListenerDeed setup n l w (.failed error) w
      { l with phase := .closing false, ready := some (.error error) } []
  | stop (h : l.phase = .waiting) (told : l.stopping) :
    ListenerDeed setup n l w .stop w { l with phase := .closing false } [.listenerDisarmed]
  | wake {signal : Signal} (h : l.phase = .waiting)
    (pending : ((w.process.bridge.pendingAt l.slot).take Signal.batch).getLast? = some signal) :
    ListenerDeed setup n l w .wake (w.setBridge (w.process.bridge.read l.slot))
      { l with phase := .calling .atGate } [.signalReceived signal]
  | attempt {phase phase' : UnmountPhase} {input : Input} {v : World} {told : List Event}
    (h : l.phase = .calling phase)
    (attempts : unmountStep (.listener n) phase input w = some (.running phase', v, told)) :
    ListenerDeed setup n l w input v { l with phase := .calling phase' } told
  | unmounted {phase : UnmountPhase} {input : Input} {v : World} {told : List Event}
    (h : l.phase = .calling phase)
    (attempts : unmountStep (.listener n) phase input w = some (.finished true, v, told)) :
    ListenerDeed setup n l w input v { l with phase := .closing false } told
  | refused {phase : UnmountPhase} {input : Input} {v : World} {told : List Event}
    (h : l.phase = .calling phase)
    (attempts : unmountStep (.listener n) phase input w = some (.finished false, v, told)) :
    ListenerDeed setup n l w input v { l with phase := .waiting } (told ++ [.waitingForSignal])
  | lockBridge {v : World} (h : l.phase = .closing false)
    (lock : w.lockBridge setup (.listener n) = some v) :
    ListenerDeed setup n l w .go v { l with phase := .closing true } []
  | close (h : l.phase = .closing true) :
    ListenerDeed setup n l w .go (w.setBridge (w.process.bridge.unregister l.slot)).unlockBridge
      { l with phase := .exited } []

/-- A step of a listener is one of its deeds. -/
theorem listenerStep_deed {l : Listener}
    (h : listenerStep setup n l input w = some (w', events)) :
    ∃ v l', w' = v.putListener n l' ∧ ListenerDeed setup n l w input v l' events := by
  unfold listenerStep at h
  split at h <;> rename_i hphase <;> simp only [Option.bind_eq_bind, Option.bind_eq_some_iff,
    Option.pure_def, Option.some.injEq, Prod.mk.injEq, reduceCtorEq] at h
  case h_1 =>
    obtain ⟨rfl, rfl⟩ := h
    exact ⟨_, _, rfl, .ready hphase⟩
  case h_2 =>
    obtain ⟨rfl, rfl⟩ := h
    exact ⟨_, _, rfl, .failed hphase⟩
  case h_3 =>
    split at h <;> rename_i htold <;> cases h
    exact ⟨_, _, rfl, .stop hphase htold⟩
  case h_4 =>
    split at h <;> rename_i hpending <;> cases h
    exact ⟨_, _, rfl, .wake hphase hpending⟩
  case h_5 =>
    -- Its attempt goes on, or leaves with a result.
    obtain ⟨⟨call, v, told⟩, hattempt, h⟩ := h
    cases call with
    | running phase =>
      cases h
      exact ⟨v, _, rfl, .attempt hphase hattempt⟩
    | finished result =>
      cases result <;> cases h
      · exact ⟨v, _, rfl, .refused hphase hattempt⟩
      · exact ⟨v, _, rfl, .unmounted hphase hattempt⟩
  case h_6 =>
    obtain ⟨v, hlock, rfl, rfl⟩ := h
    exact ⟨v, _, rfl, .lockBridge hphase hlock⟩
  case h_7 =>
    obtain ⟨rfl, rfl⟩ := h
    exact ⟨_, _, rfl, .close hphase⟩

/-! ## The host -/

/-- What a host does by a step: it is called, one of its threads goes on, or a signal is raised. -/
inductive Deed (setup : Setup) (w : World) : Label → World → List Event → Prop
  | mount {n : Nat} {mountpoint : String} {options : List String}
    (fresh : w.host.mounts n = none) :
    Deed setup w (.mount n mountpoint options)
      (w.putMount n ⟨mountpoint, options, .claiming false, none⟩) []
  | unmount {n : Nat} (fresh : w.host.unmounts n = none) :
    Deed setup w (.unmount n) (w.putUnmount n (.running .atGate)) []
  | mounting {n : Nat} {input : Input} {c : MountCall} {v : World} {events : List Event}
    (known : w.host.mounts n = some c) (goes : mountStep setup n c input w = some (v, events)) :
    Deed setup w (.act (.mount n) input) v events
  | unmounting {n : Nat} {input : Input} {phase : UnmountPhase} {call : UnmountCall} {v : World}
    {events : List Event} (known : w.host.unmounts n = some (.running phase))
    (goes : unmountStep (.unmount n) phase input w = some (call, v, events)) :
    Deed setup w (.act (.unmount n) input) (v.putUnmount n call) events
  | listening {n : Nat} {input : Input} {l : Listener} {v : World} {events : List Event}
    (known : w.host.listeners n = some l)
    (goes : listenerStep setup n l input w = some (v, events)) :
    Deed setup w (.act (.listener n) input) v events
  | deliver {signal : Signal} (handled : w.process.bridge.handles signal) :
    Deed setup w (.raise signal) (w.setBridge (w.process.bridge.deliver signal)) []
  | ignore {signal : Signal} : Deed setup w (.raise signal) w []

/-- A step of a host is one of its deeds. -/
theorem step_deed {label : Label} (h : step setup label w = some (w', events)) :
    Deed setup w label w' events := by
  cases label with
  | mount n mountpoint options =>
    simp only [step] at h
    split at h <;> rename_i hfresh <;> cases h
    exact .mount hfresh
  | unmount n =>
    simp only [step] at h
    split at h <;> rename_i hfresh <;> cases h
    exact .unmount hfresh
  | raise signal =>
    simp only [step] at h
    split at h <;> rename_i hhandled <;> cases h
    · exact .deliver hhandled
    · exact .ignore
  | act r input =>
    cases r with
    | mount n =>
      obtain ⟨c, hc, h⟩ := Option.bind_eq_some_iff.mp h
      exact .mounting hc h
    | unmount n =>
      obtain ⟨call, hcall, h⟩ := Option.bind_eq_some_iff.mp h
      cases call with
      | finished result => cases h
      | running phase =>
        -- The attempt is all that such a call does.
        obtain ⟨⟨call, v, told⟩, hattempt, h⟩ := Option.bind_eq_some_iff.mp h
        cases h
        exact .unmounting hcall hattempt
    | listener n =>
      obtain ⟨l, hl, h⟩ := Option.bind_eq_some_iff.mp h
      exact .listening hl h

end HostedFs.Host
