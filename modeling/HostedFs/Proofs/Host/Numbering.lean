import HostedFs.Proofs.Host.Deeds

/-! # Numbers of listeners

    A host numbers its listeners as it starts them, so the next number is that
    of no listener. Only the start of a listener changes the next number.

    * `Numbered`: the next number and all after it are free.
    * `numbered_step`: every step of a host keeps this.
-/

namespace HostedFs.Host

variable {setup : Setup}

/-- Listeners are numbered in the order in which they are started. -/
def Numbered (w : World) : Prop :=
  ∀ n, w.host.nextListener ≤ n → w.host.listeners n = none

/-! ## Updates -/

/-- The numbers of the listeners stay as they are. -/
theorem Numbered.of_eq {w w' : World} (hw : Numbered w)
    (hlisteners : w'.host.listeners = w.host.listeners)
    (hnext : w'.host.nextListener = w.host.nextListener) : Numbered w' := by
  intro n hn
  rw [hlisteners]
  exact hw n (hnext ▸ hn)

theorem numbered_putListener {w : World} {n : Nat} {l l' : Listener} (hw : Numbered w)
    (h : w.host.listeners n = some l) : Numbered (w.putListener n l') := by
  intro m hm
  have hne : m ≠ n := by
    intro heq
    subst heq
    rw [hw m hm] at h
    cases h
  exact (if_neg hne).trans (hw m hm)

theorem numbered_stopListener {w : World} (hw : Numbered w) (n : Nat) :
    Numbered (w.stopListener n) := by
  unfold World.stopListener
  cases h : w.host.listeners n with
  | none => exact hw
  | some l => exact numbered_putListener hw h

theorem numbered_stopPlaced {w : World} (hw : Numbered w) : Numbered w.stopPlaced := by
  unfold World.stopPlaced
  split
  · exact numbered_stopListener hw _
  · exact hw

/-! ## Steps -/

theorem unmountStep_listeners {r : Role} {phase : UnmountPhase} {input : Input} {w w' : World}
    {call : UnmountCall} {events : List Event}
    (h : unmountStep r phase input w = some (call, w', events)) :
    w'.host.listeners = w.host.listeners ∧ w'.host.nextListener = w.host.nextListener := by
  cases unmountStep_deed h with
  | pass lock =>
    obtain ⟨-, rfl⟩ := World.lockGate_eq_some_iff.mp lock
    exact ⟨rfl, rfl⟩
  | look lock | lookAgain lock =>
    obtain ⟨-, rfl⟩ := World.lockRecord_eq_some_iff.mp lock
    exact ⟨rfl, rfl⟩
  | _ => exact ⟨rfl, rfl⟩

theorem unmountStep_numbered {r : Role} {phase : UnmountPhase} {input : Input} {w w' : World}
    {call : UnmountCall} {events : List Event} (hw : Numbered w)
    (h : unmountStep r phase input w = some (call, w', events)) : Numbered w' :=
  hw.of_eq (unmountStep_listeners h).1 (unmountStep_listeners h).2

theorem armStep_numbered {r : Role} {phase : ArmPhase} {input : Input} {w w' : World}
    {arming : Arming} {events : List Event} (hw : Numbered w)
    (h : armStep setup r phase input w = some (arming, w', events)) : Numbered w' := by
  cases armStep_deed h with
  | lockBridge takes lock =>
    obtain ⟨-, rfl⟩ := World.lockBridge_eq_some_iff.mp lock
    exact hw
  | lockListener lock =>
    obtain ⟨-, rfl⟩ := World.lockListener_eq_some_iff.mp lock
    exact hw
  | spawn =>
    -- The number of the new listener was the next one.
    intro m hm
    have hm' : w.host.nextListener + 1 ≤ m := hm
    exact (if_neg (by omega)).trans (hw m (by omega))
  | store =>
    have hv : Numbered w.stopPlaced := numbered_stopPlaced hw
    exact hv
  | _ => exact hw

theorem mountStep_numbered {n : Nat} {c : MountCall} {input : Input} {w w' : World}
    {events : List Event} (hw : Numbered w)
    (hstep : mountStep setup n c input w = some (w', events)) : Numbered w' := by
  obtain ⟨v, c', rfl, deed⟩ := mountStep_deed hstep
  cases deed with
  | lockRecord takes lock =>
    obtain ⟨-, rfl⟩ := World.lockRecord_eq_some_iff.mp lock
    exact hw
  | lockListener takes lock =>
    obtain ⟨-, rfl⟩ := World.lockListener_eq_some_iff.mp lock
    exact hw
  | shut h lock =>
    obtain ⟨-, rfl⟩ := World.lockGate_eq_some_iff.mp lock
    exact hw
  | arm h arms =>
    have hv : Numbered v := armStep_numbered hw arms
    exact hv
  | attempt called h attempts =>
    have hv : Numbered v := unmountStep_numbered hw attempts
    exact hv
  | disarm => exact numbered_stopPlaced hw
  | take => exact numbered_stopListener hw _
  | _ => exact hw

theorem listenerStep_numbered {n : Nat} {l : Listener} {input : Input} {w w' : World}
    {events : List Event} (hw : Numbered w) (hl : w.host.listeners n = some l)
    (hstep : listenerStep setup n l input w = some (w', events)) : Numbered w' := by
  obtain ⟨v, l', rfl, deed⟩ := listenerStep_deed hstep
  cases deed with
  | attempt h attempts | unmounted h attempts | refused h attempts =>
    have hlv : v.host.listeners n = some l := by
      rw [(unmountStep_listeners attempts).1, hl]
    exact numbered_putListener (unmountStep_numbered hw attempts) hlv
  | lockBridge h lock =>
    obtain ⟨-, rfl⟩ := World.lockBridge_eq_some_iff.mp lock
    exact numbered_putListener hw hl
  | _ => exact numbered_putListener hw hl

theorem numbered_step {label : Label} {w w' : World} {events : List Event} (hw : Numbered w)
    (h : step setup label w = some (w', events)) : Numbered w' := by
  cases step_deed h with
  | mounting known goes => exact mountStep_numbered hw goes
  | unmounting known goes =>
    have hv := unmountStep_numbered hw goes
    exact hv
  | listening known goes => exact listenerStep_numbered hw known goes
  | mount | unmount | deliver | ignore => exact hw

end HostedFs.Host
