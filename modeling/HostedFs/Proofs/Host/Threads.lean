import HostedFs.Proofs.Host.Simulation

/-! # Threads and what they share

    A step moves the thread that takes it and leaves the others where they are;
    a listener may be told to stop meanwhile. A thread takes a lock by one step
    and gives it back by the next.

    * `holds?`: the lock that a thread holds where it is.
    * `Shared`: what a step does to what threads share, proved once for each
      kind of thread.
    * `Turns`, `step_turns`: what a step of a thread does to the locks and to
      the other threads.
    * `step_stays`: a thread stays where it is while others take steps.
-/

namespace HostedFs.Host

variable {setup : Setup}

/-! ## Locks -/

/-- The locks that are held for a step. -/
inductive Lock
  | record
  /-- That of the place of the host's listener. -/
  | place
  | bridge
  deriving DecidableEq, Repr

/-- Who holds a lock: the number of the host and its thread. -/
def World.holder (w : World) (setup : Setup) : Lock → Option (Nat × Role)
  | .record => w.host.recordLock.map (setup.number, ·)
  | .place => w.host.listenerLock.map (setup.number, ·)
  | .bridge => w.process.bridgeLock

/-- The lock that is held in a phase. -/
def UnmountPhase.holds? : UnmountPhase → Option Lock
  | .checking true | .restoring _ true => some .record
  | _ => none

def UnmountCall.holds? : UnmountCall → Option Lock
  | .running phase => phase.holds?
  | .finished _ => none

def ArmPhase.holds? : ArmPhase → Option Lock
  | .registering true | .abandoning _ _ true => some .bridge
  | .storing _ true => some .place
  | _ => none

def Arming.holds? : Arming → Option Lock
  | .running phase => phase.holds?
  | .over => none

def MountPhase.holds? : MountPhase → Option Lock
  | .claiming true | .naming _ true | .starting _ true | .closing true | .resetting _ true =>
    some .record
  | .disarming true | .taking _ true => some .place
  | .arming phase => phase.holds?
  | .initializing call | .destroying call => call.bind UnmountPhase.holds?
  | _ => none

def ListenerPhase.holds? : ListenerPhase → Option Lock
  | .calling phase => phase.holds?
  | .closing true => some .bridge
  | _ => none

/-- The lock that a thread holds where it is. -/
def holds? (host : Host) : Role → Option Lock
  | .mount n => (host.mounts n).bind fun c => c.phase.holds?
  | .unmount n => (host.unmounts n).bind UnmountCall.holds?
  | .listener n => (host.listeners n).bind fun l => l.phase.holds?

/-! ## Listeners -/

/-- What a listener says of its start fits how far it has come. -/
structure Listener.Fits (l : Listener) : Prop where
  silent : l.ready = none ↔ l.phase = .starting
  failed : ∀ error, l.ready = some (.error error) →
    (∃ held, l.phase = .closing held) ∨ l.phase = .exited

/-- A listener has come further: what it was told and what it has said stays. -/
structure Listener.Follows (l l' : Listener) : Prop where
  stopping : l.stopping → l'.stopping
  ready : l.Fits → ∀ said, l.ready = some said → l'.ready = some said
  fits : l.Fits → l'.Fits

theorem Listener.fits_new (slot : Nat) : ({ slot } : Listener).Fits :=
  ⟨iff_of_true rfl rfl, nofun⟩

theorem Listener.follows_stop (l : Listener) : l.Follows { l with stopping := true } :=
  ⟨fun _ => rfl, fun _ _ => id, fun hfits => ⟨hfits.silent, hfits.failed⟩⟩

theorem Listener.follows_of_phase {l : Listener} {phase : ListenerPhase}
    (hold : l.phase ≠ .starting) (hnew : phase ≠ .starting)
    (hclosing : ∀ held, l.phase = .closing held →
      (∃ held', phase = .closing held') ∨ phase = .exited)
    (hexited : l.phase ≠ .exited) : l.Follows { l with phase } where
  stopping := id
  ready _ _ := id
  fits hfits := by
    refine ⟨?_, fun error herror => ?_⟩
    · rw [hfits.silent]
      exact iff_of_false hold hnew
    · rcases hfits.failed error herror with ⟨held, hclosed⟩ | hgone
      · exact hclosing held hclosed
      · exact absurd hgone hexited

/-- A listener says once whether it is ready. -/
theorem Listener.follows_of_said {l : Listener} {phase : ListenerPhase}
    {said : Except String Unit} (hold : l.phase = .starting) (hnew : phase ≠ .starting)
    (hfailed : ∀ error, said = .error error → ∃ held, phase = .closing held) :
    l.Follows { l with phase, ready := some said } where
  stopping := id
  ready hfits told htold := by
    rw [hfits.silent.mpr hold] at htold
    cases htold
  fits _ := by
    refine ⟨iff_of_false nofun hnew, fun error herror => ?_⟩
    exact .inl (hfailed error (Option.some.inj herror))

/-- The listener that is waited for while one is armed is there. -/
def ArmPhase.Attended (host : Host) : ArmPhase → Prop
  | .awaiting n | .storing n _ => ∃ l, host.listeners n = some l
  | .joining n _ => ∃ l error, host.listeners n = some l ∧ l.ready = some (.error error)
  | _ => True

def Arming.Attended (host : Host) : Arming → Prop
  | .running phase => phase.Attended host
  | .over => True

/-- The listener that a call to mount waits for is there, and was told to stop if
    the call waits for its end. -/
def MountPhase.Attended (host : Host) : MountPhase → Prop
  | .arming phase => phase.Attended host
  | .joining _ n => ∃ l, host.listeners n = some l ∧ l.stopping
  | _ => True

/-- The listener in the host's place for it is there. -/
def Placed (host : Host) : Prop :=
  ∀ n, host.listener = some n → ∃ l, host.listeners n = some l

/-! ## What is shared -/

/-- What a step does to what threads share, apart from where its own thread
    comes to: it gives back the lock that its thread held, and if there was none
    it takes one at most. -/
structure Shared (setup : Setup) (r : Role) (old new : Option Lock) (w v : World) : Prop where
  mounts : v.host.mounts = w.host.mounts
  unmounts : v.host.unmounts = w.host.unmounts
  listeners : ∀ n l, w.host.listeners n = some l →
    ∃ l', v.host.listeners n = some l' ∧ (l' = l ∨ l' = { l with stopping := true })
  born : ∀ n l, w.host.listeners n = none → v.host.listeners n = some l → ∃ slot, l = { slot }
  place : old ≠ some .place → v.host.listener = w.host.listener
  released : ∀ lock, old = some lock → v.holder setup lock = none
  taken : ∀ lock, old ≠ some lock → v.holder setup lock = w.holder setup lock ∨
    (v.holder setup lock = some (setup.number, r) ∧ new = some lock)

section shared

variable {r : Role} {w u v : World}

/-- The threads of a host and the place of its listener are the same. -/
structure SameThreads (w v : World) : Prop where
  mounts : v.host.mounts = w.host.mounts
  unmounts : v.host.unmounts = w.host.unmounts
  listeners : v.host.listeners = w.host.listeners
  listener : v.host.listener = w.host.listener

theorem Shared.of_same (h : SameThreads w v)
    (locks : ∀ lock, v.holder setup lock = w.holder setup lock) :
    Shared setup r none none w v where
  mounts := h.mounts
  unmounts := h.unmounts
  listeners n l hl := ⟨l, by rw [h.listeners, hl], .inl rfl⟩
  born n l hold hnew := by cases hold.symm.trans (h.listeners ▸ hnew)
  place _ := h.listener
  released _ h := by cases h
  taken lock _ := .inl (locks lock)

theorem Shared.refl : Shared setup r none none w w :=
  .of_same ⟨rfl, rfl, rfl, rfl⟩ fun _ => rfl

/-- A thread takes a lock, and nothing else changes. -/
theorem Shared.take (lock : Lock) (h : SameThreads w v)
    (htaken : v.holder setup lock = some (setup.number, r))
    (hothers : ∀ other, other ≠ lock → v.holder setup other = w.holder setup other) :
    Shared setup r none (some lock) w v where
  mounts := h.mounts
  unmounts := h.unmounts
  listeners n l hl := ⟨l, by rw [h.listeners, hl], .inl rfl⟩
  born n l hold hnew := by cases hold.symm.trans (h.listeners ▸ hnew)
  place _ := h.listener
  released _ h := by cases h
  taken other _ := by
    by_cases heq : other = lock
    · subst heq
      exact .inr ⟨htaken, rfl⟩
    · exact .inl (hothers other heq)

/-- A thread gives a lock back after what it does while it holds it; the place of
    the listener may change under its own lock. -/
theorem Shared.give (h : Shared setup r none none w u) (lock : Lock)
    (mounts : v.host.mounts = u.host.mounts) (unmounts : v.host.unmounts = u.host.unmounts)
    (listeners : v.host.listeners = u.host.listeners)
    (place : lock ≠ .place → v.host.listener = u.host.listener)
    (hfree : v.holder setup lock = none)
    (hothers : ∀ other, other ≠ lock → v.holder setup other = u.holder setup other) :
    Shared setup r (some lock) none w v where
  mounts := mounts.trans h.mounts
  unmounts := unmounts.trans h.unmounts
  listeners := by
    rw [listeners]
    exact h.listeners
  born := by
    rw [listeners]
    exact h.born
  place hother := by
    -- Only the lock of the place covers the place.
    have hlock : lock ≠ .place := by
      intro heq
      subst heq
      exact hother rfl
    exact (place hlock).trans (h.place nofun)
  released := by
    intro _ hnone
    cases hnone
    exact hfree
  taken other hother := by
    have heq : other ≠ lock := by
      intro heq
      subst heq
      exact hother rfl
    rw [hothers other heq]
    exact h.taken other nofun

theorem shared_lockRecord (h : w.lockRecord r = some v) :
    Shared setup r none (some .record) w v := by
  obtain ⟨-, rfl⟩ := World.lockRecord_eq_some_iff.mp h
  refine .take .record ⟨rfl, rfl, rfl, rfl⟩ rfl fun other hother => ?_
  cases other with
  | record => exact absurd rfl hother
  | _ => rfl

theorem shared_lockListener (h : w.lockListener r = some v) :
    Shared setup r none (some .place) w v := by
  obtain ⟨-, rfl⟩ := World.lockListener_eq_some_iff.mp h
  refine .take .place ⟨rfl, rfl, rfl, rfl⟩ rfl fun other hother => ?_
  cases other with
  | place => exact absurd rfl hother
  | _ => rfl

theorem shared_lockBridge (h : w.lockBridge setup r = some v) :
    Shared setup r none (some .bridge) w v := by
  obtain ⟨-, rfl⟩ := World.lockBridge_eq_some_iff.mp h
  refine .take .bridge ⟨rfl, rfl, rfl, rfl⟩ rfl fun other hother => ?_
  cases other with
  | bridge => exact absurd rfl hother
  | _ => rfl

theorem shared_lockGate (h : w.lockGate r = some v) : Shared setup r none none w v := by
  obtain ⟨-, rfl⟩ := World.lockGate_eq_some_iff.mp h
  exact .of_same ⟨rfl, rfl, rfl, rfl⟩ fun lock => by cases lock <;> rfl

theorem shared_unlockRecord (record : MountRecord) :
    Shared setup r (some .record) none w (w.setRecord record).unlockRecord := by
  refine Shared.refl.give .record rfl rfl rfl (fun _ => rfl) rfl fun other hother => ?_
  cases other with
  | record => exact absurd rfl hother
  | _ => rfl

theorem shared_unlockBridge (bridge : Signal.Bridge (Nat × Nat)) :
    Shared setup r (some .bridge) none w (w.setBridge bridge).unlockBridge := by
  refine Shared.refl.give .bridge rfl rfl rfl (fun _ => rfl) rfl fun other hother => ?_
  cases other with
  | bridge => exact absurd rfl hother
  | _ => rfl

theorem Shared.unlockListener (h : Shared setup r none none w v) (listener : Option Nat) :
    Shared setup r (some .place) none w
      (World.unlockListener { v with host := { v.host with listener } }) := by
  refine h.give .place rfl rfl rfl (absurd rfl) rfl fun other hother => ?_
  cases other with
  | place => exact absurd rfl hother
  | _ => rfl

theorem shared_stopListener (w : World) (n : Nat) :
    Shared setup r none none w (w.stopListener n) := by
  unfold World.stopListener
  cases h : w.host.listeners n with
  | none => exact .refl
  | some l =>
    refine ⟨rfl, rfl, fun m k hk => ?_, fun m k hnone hk => ?_, fun _ => rfl, nofun,
      fun lock _ => .inl ?_⟩
    · by_cases hmn : m = n
      · subst hmn
        cases h.symm.trans hk
        exact ⟨_, if_pos rfl, .inr rfl⟩
      · exact ⟨k, (if_neg hmn).trans hk, .inl rfl⟩
    · have hmn : m ≠ n := by
        intro heq
        subst heq
        exact absurd (h.symm.trans hnone) (by simp)
      exact absurd (hnone.symm.trans ((if_neg hmn).symm.trans hk)) (by simp)
    · cases lock <;> rfl

theorem shared_stopPlaced (w : World) : Shared setup r none none w w.stopPlaced := by
  unfold World.stopPlaced
  split
  · exact shared_stopListener w _
  · exact .refl

end shared

/-! ## Steps -/

theorem unmountStep_shared {r : Role} {phase : UnmountPhase} {input : Input} {w w' : World}
    {call : UnmountCall} {events : List Event}
    (h : unmountStep r phase input w = some (call, w', events)) :
    Shared setup r phase.holds? call.holds? w w' := by
  cases unmountStep_deed h with
  | pass lock => exact shared_lockGate lock
  | look lock | lookAgain lock => exact shared_lockRecord lock
  | claim | restore => exact shared_unlockRecord _
  | refuse | giveUp => exact shared_unlockRecord w.host.record
  | succeed | fail => exact .refl
  | leave => exact .of_same ⟨rfl, rfl, rfl, rfl⟩ fun lock => by cases lock <;> rfl

/-- The listener that is waited for while one is armed was started or is ready. -/
theorem armStep_shared {r : Role} {phase : ArmPhase} {input : Input} {w w' : World}
    {arming : Arming} {events : List Event} (hw : Numbered w)
    (h : armStep setup r phase input w = some (arming, w', events)) :
    Shared setup r phase.holds? arming.holds? w w' ∧
      (phase.Attended w.host → arming.Attended w'.host) := by
  cases armStep_deed h with
  | lockBridge takes lock =>
    cases takes <;> exact ⟨shared_lockBridge lock, id⟩
  | register | unregistered | abandon => exact ⟨shared_unlockBridge _, id⟩
  | spawn =>
    refine ⟨⟨rfl, rfl, fun m l hm => ⟨l, ?_, .inl rfl⟩, fun m l hnone hm => ?_, fun _ => rfl, nofun,
      fun lock _ => .inl ?_⟩, fun _ => ⟨_, if_pos rfl⟩⟩
    · -- The number of the new listener is that of no other.
      refine (if_neg ?_).trans hm
      intro heq
      subst heq
      exact absurd ((hw _ (Nat.le_refl _)).symm.trans hm) (by simp)
    · by_cases hmn : m = w.host.nextListener
      · cases (if_pos hmn).symm.trans hm
        exact ⟨_, rfl⟩
      · exact absurd (hnone.symm.trans ((if_neg hmn).symm.trans hm)) (by simp)
    · cases lock <;> rfl
  | unspawned => exact ⟨.refl, id⟩
  | ready => exact ⟨.refl, id⟩
  | failed known said => exact ⟨.refl, fun _ => ⟨_, _, known, said⟩⟩
  | joined => exact ⟨.refl, fun _ => trivial⟩
  | lockListener lock =>
    have hshared : Shared setup r none (some .place) w w' := shared_lockListener lock
    refine ⟨hshared, fun hphase => ?_⟩
    obtain ⟨l, hl⟩ := hphase
    obtain ⟨l', hl', -⟩ := hshared.listeners _ l hl
    exact ⟨l', hl'⟩
  | store => exact ⟨(shared_stopPlaced w).unlockListener _, fun _ => trivial⟩

theorem TakesRecord.holds? {phase phase' : MountPhase} (h : TakesRecord phase phase') :
    phase.holds? = none ∧ phase'.holds? = some .record := by
  cases h <;> exact ⟨rfl, rfl⟩

theorem TakesListener.holds? {phase phase' : MountPhase} (h : TakesListener phase phase') :
    phase.holds? = none ∧ phase'.holds? = some .place := by
  cases h <;> exact ⟨rfl, rfl⟩

/-- A call that takes a lock waits for no listener. -/
theorem TakesRecord.attended {phase phase' : MountPhase} (h : TakesRecord phase phase')
    (host : Host) : phase'.Attended host := by
  cases h <;> trivial

theorem TakesListener.attended {phase phase' : MountPhase} (h : TakesListener phase phase')
    (host : Host) : phase'.Attended host := by
  cases h <;> trivial

theorem CalledIn.holds? {within : Option UnmountPhase → MountPhase} (h : CalledIn within)
    (call : Option UnmountPhase) : (within call).holds? = call.bind UnmountPhase.holds? := by
  cases h <;> rfl

theorem UnmountCall.holds?_attempt? (call : UnmountCall) :
    call.attempt?.bind UnmountPhase.holds? = call.holds? := by
  cases call <;> rfl

theorem Arming.holds?_next (arming : Arming) : arming.next.holds? = arming.holds? := by
  cases arming <;> rfl

section deeds

variable {n : Nat} {c c' : MountCall} {input : Input} {w v : World} {events : List Event}

/-- What a call to mount does goes by the locks that it holds before and after. -/
theorem MountDeed.shared (hw : Numbered w) (deed : MountDeed setup n c w input v c' events) :
    Shared setup (.mount n) c.phase.holds? c'.phase.holds? w v := by
  cases deed with
  | lockRecord takes lock =>
    rw [takes.holds?.1, takes.holds?.2]
    exact shared_lockRecord lock
  | lockListener takes lock =>
    rw [takes.holds?.1, takes.holds?.2]
    exact shared_lockListener lock
  | shut h lock =>
    rw [h]
    exact shared_lockGate lock
  | claim h | name h | close h | reset h =>
    -- The record changes under its lock.
    rw [h]
    exact shared_unlockRecord _
  | refuse h =>
    rw [h]
    exact shared_unlockRecord w.host.record
  | start h =>
    rw [h]
    cases setup.listens <;> exact shared_unlockRecord _
  | unprepared h | spoiled h | prepared h | callDestroy h | loopReturned h | initialized h | gone h
  | joined h =>
    -- Only the call itself moves.
    rw [h]
    exact .refl
  | enter h | callInit h | reopen h | release h =>
    -- What changes is neither a thread nor a lock.
    rw [h]
    exact .of_same ⟨rfl, rfl, rfl, rfl⟩ fun lock => by cases lock <;> rfl
  | arm h arms =>
    rw [h, Arming.holds?_next]
    exact (armStep_shared hw arms).1
  | ask called h =>
    rw [h, called.holds?, called.holds?]
    exact .refl
  | attempt called h attempts =>
    rw [h, called.holds?, called.holds?, UnmountCall.holds?_attempt?]
    exact unmountStep_shared attempts
  | disarm h =>
    rw [h]
    exact (shared_stopPlaced w).unlockListener _
  | take h =>
    rw [h]
    exact (shared_stopListener w _).unlockListener _
  | takeNone h =>
    rw [h]
    exact Shared.refl.unlockListener w.host.listener

/-- The listener that a call comes to wait for is there, and has to stop if the call waits for
    its end. -/
theorem MountDeed.attended (hw : Numbered w) (deed : MountDeed setup n c w input v c' events)
    (hplaced : Placed w.host) (hattended : c.phase.Attended w.host) :
    c'.phase.Attended v.host := by
  cases deed with
  | lockRecord takes => exact takes.attended _
  | lockListener takes => exact takes.attended _
  | ask called | attempt called => cases called <;> trivial
  | start => cases setup.listens <;> trivial
  | @arm _ _ arming _ _ h arms =>
    rw [h] at hattended
    have hafter := (armStep_shared hw arms).2 hattended
    cases arming <;> exact hafter
  | @take _ m _ hm =>
    obtain ⟨l, hl⟩ := hplaced m hm
    refine ⟨{ l with stopping := true }, ?_, rfl⟩
    simp [World.unlockListener, World.stopListener, World.putListener, hl]
  | _ => trivial

end deeds

/-- A step of a call to mount puts the call where it comes to. -/
theorem mountStep_shared {n : Nat} {c : MountCall} {input : Input} {w w' : World}
    {events : List Event} (hw : Numbered w)
    (h : mountStep setup n c input w = some (w', events)) :
    ∃ v c', w' = v.putMount n c' ∧ Shared setup (.mount n) c.phase.holds? c'.phase.holds? w v ∧
      (Placed w.host → c.phase.Attended w.host → c'.phase.Attended v.host) := by
  obtain ⟨v, c', hput, deed⟩ := mountStep_deed h
  exact ⟨v, c', hput, deed.shared hw, deed.attended hw⟩

theorem listenerStep_shared {n : Nat} {l : Listener} {input : Input} {w w' : World}
    {events : List Event} (hstep : listenerStep setup n l input w = some (w', events)) :
    ∃ v l', w' = v.putListener n l' ∧ l.Follows l' ∧
      Shared setup (.listener n) l.phase.holds? l'.phase.holds? w v := by
  obtain ⟨v, l', hput, deed⟩ := listenerStep_deed hstep
  refine ⟨v, l', hput, ?_⟩
  -- Before it closes a listener goes anywhere but back to its start.
  have hgoes (hlate : l.phase = .waiting ∨ ∃ phase, l.phase = .calling phase)
      (phase : ListenerPhase) (hnew : phase ≠ .starting) : l.Follows { l with phase } := by
    rcases hlate with hold | ⟨_, hold⟩ <;>
      exact Listener.follows_of_phase (by simp [hold]) hnew (by simp [hold]) (by simp [hold])
  cases deed with
  | ready h =>
    rw [h]
    exact ⟨Listener.follows_of_said h nofun nofun, .refl⟩
  | failed h =>
    rw [h]
    exact ⟨Listener.follows_of_said h nofun fun _ _ => ⟨_, rfl⟩, .refl⟩
  | stop h told =>
    rw [h]
    exact ⟨hgoes (.inl h) _ nofun, .refl⟩
  | wake h pending =>
    rw [h]
    exact ⟨hgoes (.inl h) _ nofun,
      .of_same ⟨rfl, rfl, rfl, rfl⟩ fun lock => by cases lock <;> rfl⟩
  | attempt h attempts | unmounted h attempts | refused h attempts =>
    have hshared : Shared setup _ _ _ w v := unmountStep_shared attempts
    rw [h]
    exact ⟨hgoes (.inr ⟨_, h⟩) _ nofun, hshared⟩
  | lockBridge h lock =>
    rw [h]
    refine ⟨?_, shared_lockBridge lock⟩
    exact Listener.follows_of_phase (by simp [h]) nofun (fun _ _ => .inl ⟨_, rfl⟩) (by simp [h])
  | close h =>
    rw [h]
    refine ⟨?_, shared_unlockBridge _⟩
    exact Listener.follows_of_phase (by simp [h]) nofun (fun _ _ => .inr rfl) (by simp [h])

/-! ## Threads that stay -/

/-- A thread is where it was; a listener may have been told to stop. -/
def Stays (w w' : World) : Role → Prop
  | .mount n => ∀ c, w.host.mounts n = some c → w'.host.mounts n = some c
  | .unmount n => ∀ call, w.host.unmounts n = some call → w'.host.unmounts n = some call
  | .listener n => ∀ l, w.host.listeners n = some l →
    ∃ l', w'.host.listeners n = some l' ∧ (l' = l ∨ l' = { l with stopping := true })

theorem Shared.stays {r : Role} {old new : Option Lock} {w v : World}
    (h : Shared setup r old new w v) (s : Role) : Stays w v s := by
  cases s with
  | mount n =>
    intro c hc
    rw [h.mounts, hc]
  | unmount n =>
    intro call hcall
    rw [h.unmounts, hcall]
  | listener n => exact h.listeners n

theorem holds?_of_stays {w w' : World} {r : Role} {lock : Lock} (h : Stays w w' r)
    (hlock : holds? w.host r = some lock) : holds? w'.host r = some lock := by
  cases r with
  | mount n =>
    obtain ⟨c, hc, hheld⟩ := Option.bind_eq_some_iff.mp hlock
    exact Option.bind_eq_some_iff.mpr ⟨c, h c hc, hheld⟩
  | unmount n =>
    obtain ⟨call, hcall, hheld⟩ := Option.bind_eq_some_iff.mp hlock
    exact Option.bind_eq_some_iff.mpr ⟨call, h call hcall, hheld⟩
  | listener n =>
    obtain ⟨l, hl, hheld⟩ := Option.bind_eq_some_iff.mp hlock
    obtain ⟨l', hl', rfl | rfl⟩ := h l hl
    · exact Option.bind_eq_some_iff.mpr ⟨_, hl', hheld⟩
    · exact Option.bind_eq_some_iff.mpr ⟨_, hl', hheld⟩

theorem stays_putMount (w : World) {n : Nat} (c : MountCall) {s : Role} (hs : s ≠ .mount n) :
    Stays w (w.putMount n c) s := by
  cases s with
  | mount m =>
    have hmn : m ≠ n := fun heq => hs (by rw [heq])
    exact fun d hd => (if_neg hmn).trans hd
  | unmount m => exact fun _ hcall => hcall
  | listener m => exact fun l hl => ⟨l, hl, .inl rfl⟩

theorem stays_putUnmount (w : World) {n : Nat} (call : UnmountCall) {s : Role}
    (hs : s ≠ .unmount n) : Stays w (w.putUnmount n call) s := by
  cases s with
  | mount m => exact fun _ hc => hc
  | unmount m =>
    have hmn : m ≠ n := fun heq => hs (by rw [heq])
    exact fun d hd => (if_neg hmn).trans hd
  | listener m => exact fun l hl => ⟨l, hl, .inl rfl⟩

theorem stays_putListener (w : World) {n : Nat} (l : Listener) {s : Role}
    (hs : s ≠ .listener n) : Stays w (w.putListener n l) s := by
  cases s with
  | mount m => exact fun _ hc => hc
  | unmount m => exact fun _ hcall => hcall
  | listener m =>
    have hmn : m ≠ n := fun heq => hs (by rw [heq])
    exact fun d hd => ⟨d, (if_neg hmn).trans hd, .inl rfl⟩

theorem Stays.trans {w v u : World} {s : Role} (h : Stays w v s) (h' : Stays v u s) :
    Stays w u s := by
  cases s with
  | mount n => exact fun c hc => h' c (h c hc)
  | unmount n => exact fun call hcall => h' call (h call hcall)
  | listener n =>
    intro l hl
    obtain ⟨l', hl', rfl | rfl⟩ := h l hl
    · exact h' _ hl'
    · obtain ⟨l'', hl'', rfl | rfl⟩ := h' _ hl'
      · exact ⟨_, hl'', .inr rfl⟩
      · exact ⟨_, hl'', .inr rfl⟩

/-! ## Steps of the host -/

/-- What a thread does to the locks by a step. -/
structure Turns (setup : Setup) (r : Role) (w w' : World) : Prop where
  released : ∀ lock, holds? w.host r = some lock → w'.holder setup lock = none
  taken : ∀ lock, holds? w.host r ≠ some lock →
    w'.holder setup lock = w.holder setup lock ∨
      (w'.holder setup lock = some (setup.number, r) ∧ holds? w'.host r = some lock)
  others : ∀ s, s ≠ r → Stays w w' s

theorem Shared.turns {r : Role} {old new : Option Lock} {w v w' : World}
    (h : Shared setup r old new w v) (hold : holds? w.host r = old)
    (hnew : holds? w'.host r = new) (hlocks : ∀ lock, w'.holder setup lock = v.holder setup lock)
    (hothers : ∀ s, s ≠ r → Stays v w' s) : Turns setup r w w' where
  released lock hlock := (hlocks lock).trans (h.released lock (hold.symm.trans hlock))
  taken lock hlock := by
    rw [hlocks, hnew]
    exact h.taken lock (hold ▸ hlock)
  others s hs := (h.stays s).trans (hothers s hs)

theorem step_turns {r : Role} {input : Input} {w w' : World} {events : List Event}
    (hw : Numbered w) (h : step setup (.act r input) w = some (w', events)) :
    Turns setup r w w' := by
  cases step_deed h with
  | @mounting n _ _ _ _ known goes =>
    obtain ⟨v, c', rfl, hshared, -⟩ := mountStep_shared hw goes
    refine hshared.turns ?_ ?_ (fun lock => by cases lock <;> rfl) fun s hs =>
      stays_putMount v c' hs
    · simp [holds?, known]
    · simp [holds?, World.putMount]
  | @unmounting n _ _ call v _ known goes =>
    refine (unmountStep_shared goes).turns ?_ ?_ (fun lock => by cases lock <;> rfl)
      fun s hs => stays_putUnmount v call hs
    · simp [holds?, known, UnmountCall.holds?]
    · simp [holds?, World.putUnmount]
  | @listening n _ _ _ _ known goes =>
    obtain ⟨v, l', rfl, -, hshared⟩ := listenerStep_shared goes
    refine hshared.turns ?_ ?_ (fun lock => by cases lock <;> rfl)
      fun s hs => stays_putListener v l' hs
    · simp [holds?, known]
    · simp [holds?, World.putListener]

/-- A step that is not one of a thread leaves the locks. -/
theorem holder_of_call {label : Label} {w w' : World} {events : List Event}
    (h : step setup label w = some (w', events)) (hlabel : ∀ r input, label ≠ .act r input)
    (lock : Lock) : w'.holder setup lock = w.holder setup lock := by
  cases step_deed h with
  | mounting | unmounting | listening => exact absurd rfl (hlabel _ _)
  | mount | unmount | deliver | ignore => cases lock <;> rfl

/-- A thread stays where it is while others take steps. -/
theorem step_stays {label : Label} {w w' : World} {events : List Event} (hw : Numbered w)
    (h : step setup label w = some (w', events)) {s : Role}
    (hs : ∀ input, label ≠ .act s input) : Stays w w' s := by
  cases step_deed h with
  | @mount n _ _ fresh =>
    by_cases hsn : s = .mount n
    · subst hsn
      intro c hc
      exact absurd (fresh.symm.trans hc) (by simp)
    · exact stays_putMount w _ hsn
  | @unmount n fresh =>
    by_cases hsn : s = .unmount n
    · subst hsn
      intro call hcall
      exact absurd (fresh.symm.trans hcall) (by simp)
    · exact stays_putUnmount w _ hsn
  | mounting | unmounting | listening =>
    exact (step_turns hw h).others s fun heq => hs _ (by rw [heq])
  | deliver | ignore =>
    -- A signal is noted with the process, and no thread moves.
    cases s with
    | mount n => exact fun c hc => hc
    | unmount n => exact fun c hc => hc
    | listener n => exact fun l hl => ⟨l, hl, .inl rfl⟩

end HostedFs.Host
