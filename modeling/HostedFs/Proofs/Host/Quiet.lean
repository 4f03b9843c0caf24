import HostedFs.Proofs.Host.Ownership

/-! # Hosts that stay unmounted

    The record says `mounted` after the start of a filesystem, and after an
    attempt to unmount that failed. This module says when neither can happen.

    * `Claiming`: an attempt has claimed the mount and may still put the record
      back.
    * `Move.claiming_cases`, `Move.mounted_cases`: how an attempt comes to claim
      while the host is not mounted, and how the host comes to be mounted.
    * `Quiet`: every attempt that may put the record back is about to succeed.
    * `Sealed`: no attempt may put the record back.
    * `quiet_move`, `sealed_move`: both last until a filesystem is started.
-/

namespace HostedFs.Host

variable {setup : Setup}

/-- An attempt to unmount has claimed the mount, and does not know yet that the
    native side did its part. -/
def UnmountPhase.claims : UnmountPhase → Bool
  | .calling .. | .restoring .. => true
  | _ => false

/-- A thread makes an attempt that has claimed the mount. -/
def Claiming (o : Outline) (r : Role) : Prop :=
  ∃ phase, o.attempt r = some phase ∧ phase.claims

/-! ## Starts -/

/-- The step starts a filesystem. -/
def Starts (label : Label) (o : Outline) : Prop :=
  ∃ n c session, label = .act (.mount n) .go ∧ o.mounts n = some c ∧
    c.phase = .starting session true

/-- A filesystem was started. -/
def Started (events : List Event) : Prop :=
  ∃ mountpoint granted, .mounted mountpoint granted ∈ events

theorem started_append {early late : List Event} :
    Started (early ++ late) ↔ Started early ∨ Started late := by
  simp only [Started, List.mem_append, exists_or]

/-- The start of a filesystem is reported. -/
theorem started_of_starts {label : Label} {w w' : World} {events : List Event}
    (hstart : Starts label w.outline) (h : step setup label w = some (w', events)) :
    Started events := by
  obtain ⟨n, c, session, rfl, hc, hphase⟩ := hstart
  have hcall := mounts_of_outline hc (by rw [hphase]; rfl)
  simp only [step, hcall, mountStep, hphase, Option.bind_eq_bind, Option.bind_some,
    Option.some.injEq, Prod.mk.injEq] at h
  obtain ⟨-, rfl⟩ := h
  exact ⟨_, _, List.mem_singleton_self _⟩

/-- Only the owner of a host starts its filesystem. -/
theorem not_starts_of_owner {label : Label} {o : Outline} (ho : Owned o) {n : Nat} {c : MountCall}
    (hc : o.mounts n = some c) (howns : c.phase.owns)
    (hphase : ∀ session, c.phase ≠ .starting session true) : ¬ Starts label o := by
  intro hstarts
  obtain ⟨m, d, session, -, hd, hstarting⟩ := hstarts
  obtain rfl := ho.unique n m c d hc hd howns (by rw [hstarting]; rfl)
  cases hc.symm.trans hd
  exact hphase session hstarting

/-! ## Moves while the host is not mounted -/

/-- While the host is not mounted, no attempt claims it: one that claims did so
    before. -/
theorem Move.claiming_cases {label : Label} {o o' : Outline} {r : Role} {phase : UnmountPhase}
    (hmove : Move setup label o o') (hstate : o.record.state ≠ .mounted)
    (h : o'.attempt r = some phase) (hclaims : phase.claims) :
    (o.attempt r = some phase ∧ ∀ input, label ≠ .act r input) ∨
      (∃ session mountpoint, label = .act r (.answered false) ∧
        o.attempt r = some (.calling session mountpoint)) ∨
      ∃ mountpoint, label = .act r .go ∧ o.attempt r = some (.restoring mountpoint false) := by
  rcases hmove.attempt_cases h with hsame | rfl | ⟨old, input, rfl, hold, turn⟩
  · exact .inl hsame
  · cases hclaims
  · cases turn with
    | claim mounted => exact absurd mounted hstate
    | fail => exact .inr (.inl ⟨_, _, rfl, hold⟩)
    | lookAgain => exact .inr (.inr ⟨_, rfl, hold⟩)
    | _ =>
      rw [Outline.setAttempt_attempt, if_pos rfl] at h
      cases h <;> cases hclaims

theorem Move.claiming_back {label : Label} {o o' : Outline} {r : Role}
    (hmove : Move setup label o o') (hstate : o.record.state ≠ .mounted) (h : Claiming o' r) :
    Claiming o r := by
  obtain ⟨phase, hphase, hclaims⟩ := h
  rcases hmove.claiming_cases hstate hphase hclaims with
    ⟨hsame, -⟩ | ⟨session, mountpoint, -, hold⟩ | ⟨mountpoint, -, hold⟩
  · exact ⟨phase, hsame, hclaims⟩
  · exact ⟨_, hold, rfl⟩
  · exact ⟨_, hold, rfl⟩

/-- A host comes to be mounted by the start of a filesystem, or by an attempt
    that puts the record back. -/
theorem Move.mounted_cases {label : Label} {o o' : Outline} (hmove : Move setup label o o')
    (hstate : o.record.state ≠ .mounted) (h : o'.record.state = .mounted) :
    Starts label o ∨
      ∃ r mountpoint, label = .act r .go ∧ o.attempt r = some (.restoring mountpoint true) ∧
        o.record.state = .unmounting := by
  cases hmove with
  | attempt hold turn =>
    cases turn with
    | restore unmounting => exact .inr ⟨_, _, rfl, hold, unmounting⟩
    | claim mounted => exact absurd mounted hstate
    | _ => exact absurd h hstate
  | mount hc idle turn =>
    cases turn with
    | start hphase hnext => exact .inl ⟨_, _, _, rfl, hc, hphase⟩
    | claim _ _ | close _ _ | reset _ => cases h
    | _ => exact absurd h hstate
  | _ => exact absurd h hstate

/-- A host that is not mounted does not come to be unmounting. -/
theorem Move.unmounting_back {label : Label} {o o' : Outline} (hmove : Move setup label o o')
    (hstate : o.record.state ≠ .mounted) (h : o'.record.state = .unmounting) :
    o.record.state = .unmounting := by
  cases hmove with
  | attempt hold turn =>
    cases turn with
    | claim mounted => exact absurd mounted hstate
    | restore unmounting => exact unmounting
    | _ => exact h
  | mount hc idle turn =>
    cases turn with
    | close _ mounted => exact absurd mounted hstate
    | claim _ _ | start _ _ | reset _ => cases h
    | _ => exact h
  | _ => exact h

/-! ## Quiet hosts -/

/-- Nothing puts the record back to mounted: the host is not mounted, and while
    it is unmounting, every attempt that has claimed it is asking the native
    side and is not told, in what is still to come, that this failed. -/
structure Quiet (after : List Label) (o : Outline) : Prop where
  notMounted : o.record.state ≠ .mounted
  obliged : o.record.state = .unmounting → ∀ r phase, o.attempt r = some phase → phase.claims →
    (∃ session mountpoint, phase = .calling session mountpoint) ∧
      (inputs r after).head? ≠ some (.answered false)

theorem quiet_move {label : Label} {after : List Label} {o o' : Outline}
    (ho : Quiet (label :: after) o) (hmove : Move setup label o o') (hstart : ¬ Starts label o) :
    Quiet after o' := by
  constructor
  · intro hmounted
    rcases hmove.mounted_cases ho.notMounted hmounted with hstarts | ⟨r, mountpoint, -, hr, hstate⟩
    · exact hstart hstarts
    · -- Whoever puts the record back is past asking the native side.
      obtain ⟨⟨_, _, hcalling⟩, -⟩ := ho.obliged hstate r _ hr rfl
      cases hcalling
  · intro hstate r phase hphase hclaims
    -- An attempt that claims now did so before, has just called the native side, or was refused.
    have hbefore := hmove.unmounting_back ho.notMounted hstate
    rcases hmove.claiming_cases ho.notMounted hphase hclaims with
      ⟨hsame, hother⟩ | ⟨session, mountpoint, rfl, hold⟩ | ⟨mountpoint, rfl, hold⟩
    · have hobliged := ho.obliged hbefore r phase hsame hclaims
      rwa [inputs_cons_of_ne hother] at hobliged
    · -- It would be told that it failed.
      have hobliged := (ho.obliged hbefore r _ hold rfl).2
      rw [inputs_act_self] at hobliged
      exact absurd rfl hobliged
    · obtain ⟨⟨_, _, hcalling⟩, -⟩ := ho.obliged hbefore r _ hold rfl
      cases hcalling

/-! ## Sealed hosts -/

/-- The host is not mounted, and no attempt has claimed it. -/
structure Sealed (o : Outline) : Prop where
  notMounted : o.record.state ≠ .mounted
  unclaimed : ∀ r, ¬ Claiming o r

theorem Sealed.quiet {o : Outline} (h : Sealed o) (after : List Label) : Quiet after o where
  notMounted := h.notMounted
  obliged _ r phase hphase hclaims := absurd ⟨phase, hphase, hclaims⟩ (h.unclaimed r)

theorem sealed_move {label : Label} {o o' : Outline} (ho : Sealed o)
    (hmove : Move setup label o o') (hstart : ¬ Starts label o) : Sealed o' where
  notMounted := (quiet_move (ho.quiet [label]) hmove hstart).notMounted
  unclaimed r h := ho.unclaimed r (hmove.claiming_back ho.notMounted h)

end HostedFs.Host
