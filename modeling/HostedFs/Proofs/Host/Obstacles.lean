import HostedFs.Proofs.Host.Gate
import HostedFs.Proofs.Host.Locks
import Mathlib.Logic.Relation

/-! # What threads wait for

    A thread is blocked by a lock, by the gate, by a listener that has not yet said
    whether it is ready, or by one that has not ended. There is a thread in its way
    then, and that one is never blocked by anything of the same kind or of a higher
    rank. So no threads wait for each other in a circle.

    * `obstacle?`: what a thread has to wait for where it is.
    * `Blocked`, `WaitsFor`: it does have to wait, and for whom.
    * `rank_lt_of_waitsFor`: the order in which obstacles are met.
    * `waitsFor_acyclic`: nobody waits for itself, however indirectly.
-/

namespace HostedFs.Host

variable {setup : Setup}

/-! ## Obstacles -/

/-- What can block a thread. -/
inductive Obstacle
  | lock (lock : Lock)
  /-- The gate that every attempt to unmount passes. -/
  | gate
  /-- A listener that has not said whether it is ready. -/
  | start (listener : Nat)
  /-- A listener that has not ended. -/
  | exit (listener : Nat)
  deriving DecidableEq, Repr

/-- The lock that is waited for while a listener is armed. -/
def ArmPhase.waits? : ArmPhase → Option Lock
  | .registering held | .abandoning _ _ held => bif held then none else some .bridge
  | .storing _ held => bif held then none else some .place
  | _ => none

/-- The lock that a call to mount waits for in the phase. -/
def MountPhase.waits? : MountPhase → Option Lock
  | .claiming held | .naming _ held | .starting _ held | .closing held | .resetting _ held =>
    bif held then none else some .record
  | .disarming held | .taking _ held => bif held then none else some .place
  | .arming phase => phase.waits?
  | _ => none

/-- What has to be out of the way before a phase is left. -/
def UnmountPhase.obstacle? : UnmountPhase → Option Obstacle
  | .atGate => some .gate
  | .checking held | .restoring _ held => bif held then none else some (.lock .record)
  | _ => none

def UnmountCall.obstacle? : UnmountCall → Option Obstacle
  | .running phase => phase.obstacle?
  | .finished _ => none

def ArmPhase.obstacle? : ArmPhase → Option Obstacle
  | .awaiting n => some (.start n)
  | .joining n _ => some (.exit n)
  | phase => phase.waits?.map .lock

def MountPhase.obstacle? : MountPhase → Option Obstacle
  | .arming phase => phase.obstacle?
  | .initializing call | .destroying call => call.bind UnmountPhase.obstacle?
  | .joining _ n => some (.exit n)
  | .gating _ held => bif held then none else some .gate
  | phase => phase.waits?.map .lock

def ListenerPhase.obstacle? : ListenerPhase → Option Obstacle
  | .calling phase => phase.obstacle?
  | .closing held => bif held then none else some (.lock .bridge)
  | _ => none

/-- What a thread has to wait for where it is. -/
def obstacle? (host : Host) : Role → Option Obstacle
  | .mount n => (host.mounts n).bind fun c => c.phase.obstacle?
  | .unmount n => (host.unmounts n).bind UnmountCall.obstacle?
  | .listener n => (host.listeners n).bind fun l => l.phase.obstacle?

/-- An obstacle is out of the way. -/
def Obstacle.Cleared (setup : Setup) (w : World) : Obstacle → Prop
  | .lock kept => w.holder setup kept = none
  | .gate => w.host.gate = none
  | .start n => ∃ l said, w.host.listeners n = some l ∧ l.ready = some said
  | .exit n => ∃ l, w.host.listeners n = some l ∧ l.phase = .exited

/-- A thread is in the way of others. -/
def Obstacle.KeptBy (setup : Setup) (w : World) (r : Role) : Obstacle → Prop
  | .lock kept => w.holder setup kept = some (setup.number, r)
  | .gate => w.host.gate = some r
  | .start n => r = .listener n ∧ ∃ l, w.host.listeners n = some l ∧ l.ready = none
  | .exit n => r = .listener n ∧ ∃ l, w.host.listeners n = some l ∧ l.phase ≠ .exited

/-- A thread cannot go on for what is in its way. -/
def Blocked (setup : Setup) (w : World) (r : Role) : Prop :=
  ∃ o, obstacle? w.host r = some o ∧ ¬ o.Cleared setup w

/-- A thread waits for another, which is in its way. -/
def WaitsFor (setup : Setup) (w : World) (r s : Role) : Prop :=
  ∃ o, obstacle? w.host r = some o ∧ o.KeptBy setup w s

/-! ## Where threads wait -/

theorem UnmountPhase.obstacle?_of_holds {phase : UnmountPhase} {lock : Lock}
    (h : phase.holds? = some lock) : phase.obstacle? = none := by
  cases phase with
  | checking held | restoring _ held => cases held <;> first | rfl | cases h
  | _ => cases h

theorem ArmPhase.obstacle?_of_holds {phase : ArmPhase} {lock : Lock}
    (h : phase.holds? = some lock) : phase.obstacle? = none := by
  cases phase with
  | registering held | abandoning _ _ held | storing _ held =>
    cases held <;> first | rfl | cases h
  | _ => cases h

theorem MountPhase.obstacle?_of_holds {phase : MountPhase} {lock : Lock}
    (h : phase.holds? = some lock) : phase.obstacle? = none := by
  cases phase with
  | arming phase => exact ArmPhase.obstacle?_of_holds h
  | initializing call | destroying call =>
    obtain ⟨phase, rfl, hphase⟩ := Option.bind_eq_some_iff.mp h
    exact UnmountPhase.obstacle?_of_holds hphase
  | claiming held | naming _ held | starting _ held | closing held | resetting _ held
  | disarming held | taking _ held => cases held <;> first | rfl | cases h
  | _ => cases h

/-- A thread that holds a lock waits for nothing. -/
theorem obstacle?_of_holds {host : Host} {r : Role} {lock : Lock}
    (h : holds? host r = some lock) : obstacle? host r = none := by
  cases r with
  | mount n =>
    obtain ⟨c, hc, hheld⟩ := Option.bind_eq_some_iff.mp h
    simp [obstacle?, hc, MountPhase.obstacle?_of_holds hheld]
  | unmount n =>
    obtain ⟨call, hcall, hheld⟩ := Option.bind_eq_some_iff.mp h
    cases call with
    | finished result => cases hheld
    | running phase =>
      simp [obstacle?, hcall, UnmountCall.obstacle?, UnmountPhase.obstacle?_of_holds hheld]
  | listener n =>
    obtain ⟨l, hl, hheld⟩ := Option.bind_eq_some_iff.mp h
    cases hp : l.phase with
    | calling phase =>
      rw [hp] at hheld
      simp [obstacle?, hl, hp, ListenerPhase.obstacle?, UnmountPhase.obstacle?_of_holds hheld]
    | closing held =>
      cases held with
      | false => simp [hp, ListenerPhase.holds?] at hheld
      | true => simp [obstacle?, hl, hp, ListenerPhase.obstacle?]
    | _ => simp [hp, ListenerPhase.holds?] at hheld

/-- A thread that makes an attempt waits for what the attempt waits for. -/
theorem obstacle?_of_attempt {host : Host} {r : Role} {phase : UnmountPhase}
    (h : attempt? host r = some phase) : obstacle? host r = phase.obstacle? := by
  cases attempts_of_attempt? h with
  | mount hc called hp => cases called <;> simp [obstacle?, hc, hp, MountPhase.obstacle?]
  | unmount hcall => simp [obstacle?, hcall, UnmountCall.obstacle?]
  | listener hl hp => simp [obstacle?, hl, hp, ListenerPhase.obstacle?]

/-! ## Order -/

/-- Whoever is in the way of an obstacle is blocked at most by one of a lower rank. -/
def Obstacle.rank : Obstacle → Nat
  | .lock _ => 1
  | .gate => 2
  | .start _ | .exit _ => 3

/-- The rank of what a thread waits for. -/
def rank (host : Host) (r : Role) : Nat :=
  (obstacle? host r).elim 0 Obstacle.rank

theorem UnmountPhase.rank_le (phase : UnmountPhase) : phase.obstacle?.elim 0 Obstacle.rank ≤ 2 := by
  cases phase with
  | checking held | restoring _ held => cases held <;> simp [obstacle?, Obstacle.rank]
  | _ => simp [obstacle?, Obstacle.rank]

/-- Past the gate only the record is waited for. -/
theorem UnmountPhase.rank_lt_of_past_gate {phase : UnmountPhase} (h : phase ≠ .atGate) :
    phase.obstacle?.elim 0 Obstacle.rank < 2 := by
  cases phase with
  | atGate => exact absurd rfl h
  | checking held | restoring _ held => cases held <;> simp [obstacle?, Obstacle.rank]
  | _ => simp [obstacle?]

/-- A listener waits for nothing that a listener is in the way of. -/
theorem rank_listener_lt (host : Host) (n : Nat) : rank host (.listener n) < 3 := by
  cases hl : host.listeners n with
  | none => simp [rank, obstacle?, hl]
  | some l =>
    cases hp : l.phase with
    | calling phase =>
      simpa [rank, obstacle?, hl, hp, ListenerPhase.obstacle?] using
        Nat.lt_succ_of_le phase.rank_le
    | closing held =>
      cases held <;> simp [rank, obstacle?, hl, hp, ListenerPhase.obstacle?, Obstacle.rank]
    | _ => simp [rank, obstacle?, hl, hp, ListenerPhase.obstacle?]

section order

variable {w : World} (hlocked : Locked setup w) (hguarded : Guarded w.outline)

include hlocked hguarded

/-- Whoever is waited for waits for something of a lower rank, or for nothing. -/
theorem rank_lt_of_waitsFor {r s : Role} (h : WaitsFor setup w r s) :
    rank w.host s < rank w.host r := by
  obtain ⟨o, ho, hkept⟩ := h
  have hr : rank w.host r = o.rank := by rw [rank, ho, Option.elim_some]
  rw [hr]
  cases o with
  | lock lock =>
    obtain ⟨t, heq, hholds⟩ := hlocked lock _ hkept
    cases heq
    simp [rank, obstacle?_of_holds hholds, Obstacle.rank]
  | gate =>
    rcases hguarded.held s hkept with ⟨phase, hattempt, hpast⟩ | ⟨n, c, status, rfl, hc, hphase⟩
    · rw [rank, obstacle?_of_attempt hattempt]
      exact UnmountPhase.rank_lt_of_past_gate hpast
    · have hcall := mounts_of_outline hc (by rw [hphase]; rfl)
      simp [rank, obstacle?, hcall, hphase, MountPhase.obstacle?, Obstacle.rank]
  | start n | exit n =>
    obtain ⟨rfl, -⟩ := hkept
    exact rank_listener_lt w.host n

/-- Nobody waits for itself, however indirectly. -/
theorem waitsFor_acyclic (r : Role) : ¬ Relation.TransGen (WaitsFor setup w) r r := by
  have hless {s : Role} (h : Relation.TransGen (WaitsFor setup w) r s) :
      rank w.host s < rank w.host r := by
    induction h with
    | single h => exact rank_lt_of_waitsFor hlocked hguarded h
    | tail _ h ih => exact Nat.lt_trans (rank_lt_of_waitsFor hlocked hguarded h) ih
  exact fun h => Nat.lt_irrefl _ (hless h)

end order

/-! ## Listeners in the way -/

theorem UnmountPhase.obstacle?_cases (phase : UnmountPhase) :
    phase.obstacle? = none ∨ phase.obstacle? = some .gate ∨
      phase.obstacle? = some (.lock .record) := by
  cases phase with
  | checking held | restoring _ held => cases held <;> simp [obstacle?]
  | _ => simp [obstacle?]

/-- Only calls to mount wait for listeners. -/
theorem mount_of_obstacle {host : Host} {r : Role} {o : Obstacle} (h : obstacle? host r = some o)
    {n : Nat} (hn : o = .start n ∨ o = .exit n) :
    ∃ m c, r = .mount m ∧ host.mounts m = some c := by
  cases r with
  | mount m =>
    obtain ⟨c, hc, -⟩ := Option.bind_eq_some_iff.mp h
    exact ⟨m, c, rfl, hc⟩
  | unmount m =>
    obtain ⟨call, hcall, h⟩ := Option.bind_eq_some_iff.mp h
    cases call with
    | finished result => cases h
    | running phase =>
      -- An attempt waits for the gate or for a lock.
      have hphase : phase.obstacle? = some o := h
      rcases phase.obstacle?_cases with hnone | hgate | hlock <;> grind
  | listener m =>
    obtain ⟨l, hl, h⟩ := Option.bind_eq_some_iff.mp h
    cases hp : l.phase with
    | calling phase =>
      have hphase : phase.obstacle? = some o := by rw [← h, hp]; rfl
      rcases phase.obstacle?_cases with hnone | hgate | hlock <;> grind
    | closing held =>
      rw [hp] at h
      cases held <;> cases h
      rcases hn with hn | hn <;> cases hn
    | _ =>
      rw [hp] at h
      cases h

theorem MountPhase.obstacle?_start {phase : MountPhase} {n : Nat}
    (h : phase.obstacle? = some (.start n)) : phase = .arming (.awaiting n) := by
  cases phase with
  | arming phase =>
    cases phase with
    | awaiting m =>
      cases h
      rfl
    | registering held | abandoning _ _ held | storing _ held => cases held <;> cases h
    | _ => cases h
  | initializing call | destroying call =>
    obtain ⟨phase, rfl, hphase⟩ := Option.bind_eq_some_iff.mp h
    rcases phase.obstacle?_cases with hnone | hgate | hlock <;> grind
  | claiming held | naming _ held | starting _ held | closing held | resetting _ held
  | disarming held | taking _ held | gating _ held => cases held <;> cases h
  | _ => cases h

theorem MountPhase.obstacle?_exit {phase : MountPhase} {n : Nat}
    (h : phase.obstacle? = some (.exit n)) :
    (∃ status, phase = .joining status n) ∨ ∃ error, phase = .arming (.joining n error) := by
  cases phase with
  | arming phase =>
    cases phase with
    | joining m error =>
      cases h
      exact .inr ⟨error, rfl⟩
    | registering held | abandoning _ _ held | storing _ held => cases held <;> cases h
    | _ => cases h
  | joining status m =>
    cases h
    exact .inl ⟨status, rfl⟩
  | initializing call | destroying call =>
    obtain ⟨phase, rfl, hphase⟩ := Option.bind_eq_some_iff.mp h
    rcases phase.obstacle?_cases with hnone | hgate | hlock <;> grind
  | claiming held | naming _ held | starting _ held | closing held | resetting _ held
  | disarming held | taking _ held | gating _ held => cases held <;> cases h
  | _ => cases h

section attended

variable {w : World} (hattended : Attended w)

include hattended

/-- The listener whose word is waited for is there. -/
theorem listener_of_start {r : Role} {n : Nat} (h : obstacle? w.host r = some (.start n)) :
    ∃ l, w.host.listeners n = some l := by
  obtain ⟨m, c, rfl, hc⟩ := mount_of_obstacle h (.inl rfl)
  have hcalls := hattended.calls m c hc
  rw [obstacle?, hc, Option.bind_some] at h
  rw [MountPhase.obstacle?_start h] at hcalls
  exact hcalls

/-- The listener whose end is waited for is there, and will end. -/
theorem listener_of_exit {r : Role} {n : Nat} (h : obstacle? w.host r = some (.exit n)) :
    ∃ l, w.host.listeners n = some l ∧
      (l.stopping ∨ ∃ error, l.ready = some (.error error)) := by
  obtain ⟨m, c, rfl, hc⟩ := mount_of_obstacle h (.inr rfl)
  have hcalls := hattended.calls m c hc
  rw [obstacle?, hc, Option.bind_some] at h
  rcases MountPhase.obstacle?_exit h with ⟨status, hphase⟩ | ⟨error, hphase⟩
  · rw [hphase] at hcalls
    obtain ⟨l, hl, hstopping⟩ := hcalls
    exact ⟨l, hl, .inl hstopping⟩
  · rw [hphase] at hcalls
    obtain ⟨l, said, hl, hsaid⟩ := hcalls
    exact ⟨l, hl, .inr ⟨said, hsaid⟩⟩

/-- A thread is blocked just when there is one in its way. -/
theorem blocked_iff_waitsFor (hlocked : Locked setup w) {r : Role} :
    Blocked setup w r ↔ ∃ s, WaitsFor setup w r s := by
  constructor
  · intro h
    obtain ⟨o, ho, hstands⟩ := h
    cases o with
    | lock lock =>
      -- By `Locked` whoever holds the lock is a thread of this host.
      obtain ⟨holder, hholder⟩ := Option.ne_none_iff_exists'.mp hstands
      obtain ⟨s, rfl, -⟩ := hlocked lock holder hholder
      exact ⟨s, _, ho, hholder⟩
    | gate =>
      obtain ⟨s, hs⟩ := Option.ne_none_iff_exists'.mp hstands
      exact ⟨s, _, ho, hs⟩
    | start n =>
      -- By `Attended` the listener is there, and it has not said whether it is ready.
      obtain ⟨l, hl⟩ := listener_of_start hattended ho
      refine ⟨.listener n, _, ho, rfl, l, hl, ?_⟩
      cases hready : l.ready with
      | none => rfl
      | some said => exact absurd ⟨l, said, hl, hready⟩ hstands
    | exit n =>
      obtain ⟨l, hl, -⟩ := listener_of_exit hattended ho
      exact ⟨.listener n, _, ho, rfl, l, hl, fun hexited => hstands ⟨l, hl, hexited⟩⟩
  · intro h
    obtain ⟨s, o, ho, hkept⟩ := h
    refine ⟨o, ho, fun hcleared => ?_⟩
    cases o with
    | lock lock => exact Option.some_ne_none _ (hkept.symm.trans hcleared)
    | gate => exact Option.some_ne_none _ (hkept.symm.trans hcleared)
    | start n =>
      obtain ⟨-, l, hl, hnone⟩ := hkept
      obtain ⟨k, said, hk, hsaid⟩ := hcleared
      cases hl.symm.trans hk
      exact Option.some_ne_none _ (hsaid.symm.trans hnone)
    | exit n =>
      obtain ⟨-, l, hl, hgoing⟩ := hkept
      obtain ⟨k, hk, hexited⟩ := hcleared
      cases hl.symm.trans hk
      exact hgoing hexited

end attended

end HostedFs.Host
