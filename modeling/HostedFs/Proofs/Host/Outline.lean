import HostedFs.Proofs.Host.Runs
import Mathlib.Logic.Function.Basic

/-! # The outline of a host

    Much of a host's world does not bear on the life of a mount: the locks that
    guard a single step, the listeners' slots, what threads say when they start.
    The outline leaves these out. It keeps the record, the gate, the registry,
    the attempts to unmount by the threads that make them, and the calls to
    mount.

    * `AttemptTurn`, `MountTurn`: what an attempt to unmount and a call to mount
      do to the outline, one case for each kind of step.
    * `Move`: what a step of any thread does to it.
    * `step_move`: every step of a host is a move of its outline.
-/

namespace HostedFs.Host

variable {setup : Setup}

/-! ## Phases -/

/-- The phase, without the attempt to unmount that is made within it. -/
def MountPhase.outer : MountPhase → MountPhase
  | .initializing _ => .initializing none
  | .destroying _ => .destroying none
  | phase => phase

/-- The implementation is being called in the phase, and may unmount. -/
def MountPhase.called : MountPhase → Bool
  | .initializing _ | .destroying _ => true
  | _ => false

/-- The attempt to unmount that is made within a phase. -/
def MountPhase.attempt? : MountPhase → Option UnmountPhase
  | .initializing call => call
  | .destroying call => call
  | _ => none

/-- A call to mount, without the attempt to unmount that is made within it. -/
def MountCall.outer (c : MountCall) : MountCall :=
  { c with phase := c.phase.outer }

/-- The attempt that a call to unmount makes, while it runs. -/
def UnmountCall.attempt? : UnmountCall → Option UnmountPhase
  | .running phase => some phase
  | .finished _ => none

/-- The attempt to unmount that a listener makes. -/
def ListenerPhase.attempt? : ListenerPhase → Option UnmountPhase
  | .calling phase => some phase
  | _ => none

/-! ## Outlines -/

/-- What bears on the life of a mount. -/
structure Outline where
  record : MountRecord
  gate : Option Role
  /-- The attempts to unmount that are under way. -/
  attempt : Role → Option UnmountPhase
  /-- The calls to mount, without the attempts within them. -/
  mounts : Nat → Option MountCall
  registry : Registry Nat

/-- The outline of a host in its world. -/
def World.outline (w : World) : Outline where
  record := w.host.record
  gate := w.host.gate
  attempt := Host.attempt? w.host
  mounts n := (w.host.mounts n).map MountCall.outer
  registry := w.process.registry

namespace Outline

/-- The outline with an attempt come further. -/
def setAttempt (o : Outline) (r : Role) (phase : Option UnmountPhase) : Outline :=
  { o with attempt := Function.update o.attempt r phase }

/-- The outline with a call to mount come further. -/
def setMount (o : Outline) (n : Nat) (c : MountCall) : Outline :=
  { o with mounts := Function.update o.mounts n (some c) }

section updates

variable (o : Outline) (r : Role) (phase : Option UnmountPhase) (n : Nat) (c : MountCall)

@[simp, grind =] theorem setAttempt_record : (o.setAttempt r phase).record = o.record := rfl
@[simp, grind =] theorem setAttempt_gate : (o.setAttempt r phase).gate = o.gate := rfl
@[simp, grind =] theorem setAttempt_mounts : (o.setAttempt r phase).mounts = o.mounts := rfl
@[simp, grind =] theorem setAttempt_registry : (o.setAttempt r phase).registry = o.registry := rfl

@[grind =] theorem setAttempt_attempt (s : Role) :
    (o.setAttempt r phase).attempt s = if s = r then phase else o.attempt s :=
  Function.update_apply ..

@[simp, grind =] theorem setMount_record : (o.setMount n c).record = o.record := rfl
@[simp, grind =] theorem setMount_gate : (o.setMount n c).gate = o.gate := rfl
@[simp, grind =] theorem setMount_attempt : (o.setMount n c).attempt = o.attempt := rfl
@[simp, grind =] theorem setMount_registry : (o.setMount n c).registry = o.registry := rfl

@[grind =] theorem setMount_mounts (m : Nat) :
    (o.setMount n c).mounts m = if m = n then some c else o.mounts m :=
  Function.update_apply ..

theorem setMount_self : (o.setMount n c).mounts n = some c :=
  Function.update_self ..

theorem setMount_ne {m : Nat} (h : m ≠ n) : (o.setMount n c).mounts m = o.mounts m :=
  Function.update_of_ne h ..

end updates

end Outline

/-! ## Moves -/

/-- The native event loop speaks: it calls the host, or returns. -/
def Input.fromLoop : Input → Bool
  | .callInit .. | .callDestroy | .loopReturned _ => true
  | _ => false

/-- What an attempt to unmount does to the outline. -/
inductive AttemptTurn (r : Role) : UnmountPhase → Input → Outline → Outline → Prop
  | pass {o : Outline} (free : o.gate = none) :
    AttemptTurn r .atGate .go o ({ o with gate := some r }.setAttempt r (some (.checking false)))
  | look {o : Outline} :
    AttemptTurn r (.checking false) .go o (o.setAttempt r (some (.checking true)))
  | claim {o : Outline} (mounted : o.record.state = .mounted) :
    AttemptTurn r (.checking true) .go o
      ({ o with record := { o.record with state := .unmounting } }.setAttempt r
        (some (.calling o.record.session o.record.mountpoint)))
  | refuse {o : Outline} (other : o.record.state ≠ .mounted) :
    AttemptTurn r (.checking true) .go o (o.setAttempt r (some (.leaving false)))
  | succeed {o : Outline} {session : Session} {mountpoint : Option String} :
    AttemptTurn r (.calling session mountpoint) (.answered true) o
      (o.setAttempt r (some (.leaving true)))
  | fail {o : Outline} {session : Session} {mountpoint : Option String} :
    AttemptTurn r (.calling session mountpoint) (.answered false) o
      (o.setAttempt r (some (.restoring mountpoint false)))
  | lookAgain {o : Outline} {mountpoint : Option String} :
    AttemptTurn r (.restoring mountpoint false) .go o
      (o.setAttempt r (some (.restoring mountpoint true)))
  | restore {o : Outline} {mountpoint : Option String} (unmounting : o.record.state = .unmounting) :
    AttemptTurn r (.restoring mountpoint true) .go o
      ({ o with record := { o.record with state := .mounted } }.setAttempt r
        (some (.leaving false)))
  | giveUp {o : Outline} {mountpoint : Option String} (other : o.record.state ≠ .unmounting) :
    AttemptTurn r (.restoring mountpoint true) .go o (o.setAttempt r (some (.leaving false)))
  | leave {o : Outline} {result : Bool} :
    AttemptTurn r (.leaving result) .go o ({ o with gate := none }.setAttempt r none)

/-- How the phase of a call to mount advances while nothing of the outline
    changes but the phase. -/
inductive Progress (setup : Setup) (c : MountCall) : MountPhase → Input → MountPhase → Prop
  | lockToClaim : Progress setup c (.claiming false) .go (.claiming true)
  | unprepared {error : HostError} :
    Progress setup c .preparing (.prepared (some error)) (.resetting (some error) false)
  | spoiled {arg : String}
    (nul : firstWithNul? (setup.settings.arguments c.mountpoint c.options) = some arg) :
    Progress setup c .preparing (.prepared none) (.resetting (some (.nulInArgument arg)) false)
  | prepared {mountpoint : Option String}
    (clean : firstWithNul? (setup.settings.arguments c.mountpoint c.options) = none) :
    Progress setup c .preparing (.prepared none) (.naming mountpoint false)
  | lockToName {mountpoint : Option String} :
    Progress setup c (.naming mountpoint false) .go (.naming mountpoint true)
  | callInit {session : Session} {connection : Option Connection} :
    Progress setup c .running (.callInit session connection) (.starting session false)
  | callDestroy : Progress setup c .running .callDestroy (.destroying none)
  | loopReturned {status : Int32} :
    Progress setup c .running (.loopReturned status) (.taking status false)
  | lockToStart {session : Session} :
    Progress setup c (.starting session false) .go (.starting session true)
  | arm {phase phase' : ArmPhase} {input : Input} (other : input.fromLoop = false) :
    Progress setup c (.arming phase) input (.arming phase')
  | armed {phase : ArmPhase} {input : Input} (other : input.fromLoop = false) :
    Progress setup c (.arming phase) input (.initializing none)
  | initialized : Progress setup c (.initializing none) .left .running
  | gone : Progress setup c (.destroying none) .left (.disarming false)
  | lockToDisarm : Progress setup c (.disarming false) .go (.disarming true)
  | disarmed : Progress setup c (.disarming true) .go (.closing false)
  | lockToClose : Progress setup c (.closing false) .go (.closing true)
  | lockToTake {status : Int32} :
    Progress setup c (.taking status false) .go (.taking status true)
  | took {status : Int32} {listener : Nat} :
    Progress setup c (.taking status true) .go (.joining status listener)
  | tookNone {status : Int32} :
    Progress setup c (.taking status true) .go (.gating status false)
  | joined {status : Int32} {listener : Nat} :
    Progress setup c (.joining status listener) .go (.gating status false)
  | lockToReset {error : Option HostError} :
    Progress setup c (.resetting error false) .go (.resetting error true)

/-- What a call to mount does to the outline by steps of its own. -/
inductive MountTurn (setup : Setup) (n : Nat) (c : MountCall) : Input → Outline → Outline → Prop
  | progress {o : Outline} {input : Input} {phase : MountPhase}
    (h : Progress setup c c.phase input phase) :
    MountTurn setup n c input o (o.setMount n { c with phase })
  | claim {o : Outline} (h : c.phase = .claiming true) (idle : o.record.state = .unmounted) :
    MountTurn setup n c .go o
      ({ o with record := { o.record with state := .mounting } }.setMount n
        { c with phase := .preparing })
  | refuse {o : Outline} (h : c.phase = .claiming true) (busy : o.record.state ≠ .unmounted) :
    MountTurn setup n c .go o
      (o.setMount n { c with phase := .returned (some .alreadyMounted) })
  | name {o : Outline} {mountpoint : Option String} (h : c.phase = .naming mountpoint true) :
    MountTurn setup n c .go o
      ({ o with record := { o.record with mountpoint } }.setMount n
        { c with phase := .registering })
  | enter {o : Outline} {token : Token} (h : c.phase = .registering)
    (fresh : o.registry.lookup token = none) :
    MountTurn setup n c (.allocated token) o
      ({ o with registry := o.registry.insert token setup.number }.setMount n
        { c with phase := .running, token := some token })
  | start {o : Outline} {session : Session} {phase : MountPhase}
    (h : c.phase = .starting session true)
    (hphase : phase = .arming (.registering false) ∨ phase = .initializing none) :
    MountTurn setup n c .go o
      ({ o with record := { o.record with state := .mounted, session } }.setMount n
        { c with phase })
  | close {o : Outline} (h : c.phase = .closing true) (mounted : o.record.state = .mounted) :
    MountTurn setup n c .go o
      ({ o with record := { o.record with state := .unmounting } }.setMount n
        { c with phase := .running })
  | closed {o : Outline} (h : c.phase = .closing true) (other : o.record.state ≠ .mounted) :
    MountTurn setup n c .go o (o.setMount n { c with phase := .running })
  | shut {o : Outline} {status : Int32} (h : c.phase = .gating status false)
    (free : o.gate = none) :
    MountTurn setup n c .go o
      ({ o with gate := some (.mount n) }.setMount n { c with phase := .gating status true })
  | reopen {o : Outline} {status : Int32} (h : c.phase = .gating status true) :
    MountTurn setup n c .go o
      ({ o with gate := none }.setMount n { c with phase := .releasing status })
  | release {o : Outline} {status : Int32} {token : Token} {error : Option HostError}
    (h : c.phase = .releasing status) (ht : c.token = some token)
    (herror : error = if status = 0 then none else some (.nativeFailure status)) :
    MountTurn setup n c .go o
      ({ o with registry := o.registry.erase token }.setMount n
        { c with phase := .resetting error false })
  | reset {o : Outline} {error : Option HostError} (h : c.phase = .resetting error true) :
    MountTurn setup n c .go o
      ({ o with record := .idle }.setMount n { c with phase := .returned error })

/-- While only the phase advances, no attempt is made within it. -/
theorem Progress.idle {c : MountCall} {input : Input} {phase phase' : MountPhase}
    (h : Progress setup c phase input phase') : phase.attempt? = none ∧ phase'.attempt? = none := by
  cases h <;> exact ⟨rfl, rfl⟩

/-- Nor is one made within the phase from which a call takes a turn of its own. -/
theorem MountTurn.idle {n : Nat} {c : MountCall} {input : Input} {o o' : Outline}
    (h : MountTurn setup n c input o o') : c.phase.attempt? = none := by
  cases h with
  | progress h => exact h.idle.1
  | claim h | refuse h | name h | enter h | start h | close h | closed h | shut h | reopen h
  | release h | reset h => rw [h]; rfl

/-- What a step does to the outline. A thread that begins an attempt is named by
    the label if it names a thread at all, and of a thread whose step the outline
    does not show it is known that it is a listener that makes no attempt. -/
inductive Move (setup : Setup) : Label → Outline → Outline → Prop
  | begin {o : Outline} {n : Nat} {mountpoint : String} {options : List String}
    (new : o.mounts n = none) :
    Move setup (.mount n mountpoint options) o
      (o.setMount n ⟨mountpoint, options, .claiming false, none⟩)
  | ask {o : Outline} {label : Label} {r : Role} (idle : o.attempt r = none)
    (own : ∀ s input, label = .act s input → s = r ∧ input.fromLoop = false) :
    Move setup label o (o.setAttempt r (some .atGate))
  | attempt {o o' : Outline} {r : Role} {phase : UnmountPhase} {input : Input}
    (h : o.attempt r = some phase) (turn : AttemptTurn r phase input o o') :
    Move setup (.act r input) o o'
  | mount {o o' : Outline} {n : Nat} {c : MountCall} {input : Input}
    (h : o.mounts n = some c) (idle : o.attempt (.mount n) = none)
    (turn : MountTurn setup n c input o o') :
    Move setup (.act (.mount n) input) o o'
  | still {o : Outline} {label : Label}
    (own : ∀ s input, label = .act s input → (∃ n, s = .listener n) ∧ o.attempt s = none) :
    Move setup label o o

/-! ## What a move leaves alone -/

theorem AttemptTurn.mounts_eq {r : Role} {phase : UnmountPhase} {input : Input} {o o' : Outline}
    (h : AttemptTurn r phase input o o') : o'.mounts = o.mounts := by
  cases h <;> rfl

theorem AttemptTurn.attempt_ne {r s : Role} {phase : UnmountPhase} {input : Input}
    {o o' : Outline} (h : AttemptTurn r phase input o o') (hsr : s ≠ r) :
    o'.attempt s = o.attempt s := by
  cases h <;> exact Function.update_of_ne hsr _ _

theorem AttemptTurn.registry_eq {r : Role} {phase : UnmountPhase} {input : Input}
    {o o' : Outline} (h : AttemptTurn r phase input o o') : o'.registry = o.registry := by
  cases h <;> rfl

/-- An attempt to unmount is not given what the native loop says. -/
theorem AttemptTurn.fromLoop {r : Role} {phase : UnmountPhase} {input : Input} {o o' : Outline}
    (h : AttemptTurn r phase input o o') : input.fromLoop = false := by
  cases h <;> rfl

theorem MountTurn.attempt_eq {n : Nat} {c : MountCall} {input : Input} {o o' : Outline}
    (h : MountTurn setup n c input o o') : o'.attempt = o.attempt := by
  cases h <;> rfl

theorem MountTurn.mounts_ne {n m : Nat} {c : MountCall} {input : Input} {o o' : Outline}
    (h : MountTurn setup n c input o o') (hmn : m ≠ n) : o'.mounts m = o.mounts m := by
  cases h <;> exact Outline.setMount_ne _ _ _ hmn

/-- A thread that makes an attempt goes on with it. -/
theorem Move.turn {r : Role} {input : Input} {phase : UnmountPhase} {o o' : Outline}
    (hmove : Move setup (.act r input) o o') (h : o.attempt r = some phase) :
    AttemptTurn r phase input o o' := by
  cases hmove with
  | ask idle own =>
    obtain ⟨rfl, -⟩ := own r input rfl
    exact absurd (idle.symm.trans h) (by simp)
  | attempt hold turn =>
    cases hold.symm.trans h
    exact turn
  | mount hc idle turn => cases idle.symm.trans h
  | still own => cases (own r input rfl).2.symm.trans h

/-- An attempt stays where it is, or it begins, or its thread goes on with it. -/
theorem Move.attempt_cases {label : Label} {o o' : Outline} {r : Role} {phase : UnmountPhase}
    (hmove : Move setup label o o') (h : o'.attempt r = some phase) :
    (o.attempt r = some phase ∧ ∀ input, label ≠ .act r input) ∨ phase = .atGate ∨
      ∃ old input, label = .act r input ∧ o.attempt r = some old ∧
        AttemptTurn r old input o o' := by
  cases hmove with
  | begin new => exact .inl ⟨h, fun _ => nofun⟩
  | @ask _ _ s idle own =>
    by_cases hrs : r = s
    · rw [Outline.setAttempt_attempt, if_pos hrs] at h
      cases h
      exact .inr (.inl rfl)
    · rw [Outline.setAttempt_attempt, if_neg hrs] at h
      exact .inl ⟨h, fun input heq => hrs (own r input heq).1⟩
  | @attempt _ _ s old input hold turn =>
    by_cases hrs : r = s
    · subst hrs
      exact .inr (.inr ⟨old, input, rfl, hold, turn⟩)
    · rw [turn.attempt_ne hrs] at h
      refine .inl ⟨h, fun input heq => ?_⟩
      cases heq
      exact hrs rfl
  | mount hc idle turn =>
    rw [turn.attempt_eq] at h
    refine .inl ⟨h, fun input heq => ?_⟩
    cases heq
    exact absurd (idle.symm.trans h) (by simp)
  | still own =>
    refine .inl ⟨h, fun input heq => ?_⟩
    exact absurd ((own r input heq).2.symm.trans h) (by simp)

/-- If the step is one of the call to mount, then one of the attempt to unmount
    that is made within the call. -/
def AttemptOf (n : Nat) (label : Label) (o o' : Outline) : Prop :=
  ∀ input, label = .act (.mount n) input → input.fromLoop = false ∧
    ((o.attempt (.mount n)).isSome ∨ (o'.attempt (.mount n)).isSome)

/-- A call to mount stays where it is unless it takes a turn of its own. -/
theorem Move.call_cases {label : Label} {o o' : Outline} {n : Nat} {c : MountCall}
    (hmove : Move setup label o o') (hc : o.mounts n = some c) :
    (o'.mounts n = some c ∧ AttemptOf n label o o') ∨
      ∃ input, label = .act (.mount n) input ∧ o.attempt (.mount n) = none ∧
        MountTurn setup n c input o o' := by
  cases hmove with
  | @begin _ m _ _ new =>
    refine .inl ⟨?_, fun _ => nofun⟩
    rw [Outline.setMount_ne]
    · exact hc
    · intro heq
      subst heq
      exact absurd (new.symm.trans hc) (by simp)
  | ask idle own =>
    -- The step may be one of the call, whose implementation then asks to unmount.
    refine .inl ⟨hc, fun input heq => ?_⟩
    obtain ⟨rfl, hinput⟩ := own _ input heq
    exact ⟨hinput, .inr (by rw [Outline.setAttempt_attempt, if_pos rfl]; rfl)⟩
  | attempt hold turn =>
    refine .inl ⟨(congrFun turn.mounts_eq n).trans hc, fun input heq => ?_⟩
    cases heq
    exact ⟨turn.fromLoop, .inl (by rw [hold]; rfl)⟩
  | @mount _ _ m d input hd idle turn =>
    by_cases hnm : n = m
    · subst hnm
      cases hc.symm.trans hd
      exact .inr ⟨input, rfl, idle, turn⟩
    · refine .inl ⟨(turn.mounts_ne hnm).trans hc, fun _ heq => ?_⟩
      cases heq
      exact absurd rfl hnm
  | still own =>
    refine .inl ⟨hc, fun input heq => ?_⟩
    obtain ⟨⟨_, hlistener⟩, -⟩ := own _ input heq
    cases hlistener

/-- A call to mount begins with its own label, waiting for the record. -/
theorem Move.new_call {label : Label} {o o' : Outline} {n : Nat} {c : MountCall}
    (hmove : Move setup label o o') (hnew : o.mounts n = none) (hc : o'.mounts n = some c) :
    ∃ mountpoint options, label = .mount n mountpoint options ∧
      c = ⟨mountpoint, options, .claiming false, none⟩ := by
  -- A call that a step leaves as it was did not begin in it.
  have hold {m : Nat} (hsame : o'.mounts m = o.mounts m) (hnm : n = m) : False := by
    subst hnm
    exact absurd (hnew.symm.trans (hsame.symm.trans hc)) (by simp)
  cases hmove with
  | @begin _ m mountpoint options new =>
    by_cases hnm : n = m
    · subst hnm
      rw [Outline.setMount_self] at hc
      cases hc
      exact ⟨mountpoint, options, rfl, rfl⟩
    · exact (hold (Outline.setMount_ne _ _ _ hnm) rfl).elim
  | attempt h turn => exact (hold (congrFun turn.mounts_eq n) rfl).elim
  | @mount _ _ m d _ hd idle turn =>
    have hnm : n ≠ m := by
      intro heq
      subst heq
      exact absurd (hnew.symm.trans hd) (by simp)
    exact (hold (turn.mounts_ne hnm) rfl).elim
  | _ => exact (hold rfl rfl).elim

end HostedFs.Host
