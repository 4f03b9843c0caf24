import HostedFs.Proofs.Host.Simulation

/-! # Who owns a host

    A call to mount owns the host from the step that claims it to the step that
    makes its record idle again.

    * `Owned`: one call at most owns the host, one does unless the record is
      idle, and the record is idle exactly while it says that nothing is mounted.
    * `owned_run`: this is so after every run.
    * `returned_move`: a call that has returned does nothing more.
-/

namespace HostedFs.Host

variable {setup : Setup}

/-- A call to mount owns the host. -/
def MountPhase.owns : MountPhase → Bool
  | .claiming _ | .returned _ => false
  | _ => true

theorem MountCall.outer_owns (c : MountCall) : c.outer.phase.owns = c.phase.owns := by
  obtain ⟨mountpoint, options, phase, token⟩ := c
  cases phase <;> rfl

/-- The relation of a record to the calls that own its host. -/
structure Owned (o : Outline) : Prop where
  unique : ∀ n m c d, o.mounts n = some c → o.mounts m = some d → c.phase.owns → d.phase.owns →
    n = m
  busy : ∀ n c, o.mounts n = some c → c.phase.owns → o.record.state ≠ .unmounted
  occupied : o.record.state ≠ .unmounted → ∃ n c, o.mounts n = some c ∧ c.phase.owns
  idle : o.record.state = .unmounted → o.record = .idle

theorem owned_start (registry : Registry Nat) : Owned (.start registry) where
  unique _ _ _ _ h := by cases h
  busy _ _ h := by cases h
  occupied h := absurd rfl h
  idle _ := rfl

/-! ## Moves -/

theorem Progress.owns_eq {c : MountCall} {phase phase' : MountPhase} {input : Input}
    (h : Progress setup c phase input phase') : phase'.owns = phase.owns := by
  cases h <;> rfl

/-- An attempt to unmount moves the record between mounted and unmounting, and
    leaves it otherwise. -/
theorem AttemptTurn.record_cases {r : Role} {phase : UnmountPhase} {input : Input}
    {o o' : Outline} (h : AttemptTurn r phase input o o') :
    o'.record = o.record ∨
      (o.record.state = .mounted ∧ o'.record = { o.record with state := .unmounting }) ∨
      (o.record.state = .unmounting ∧ o'.record = { o.record with state := .mounted }) := by
  cases h with
  | claim mounted => exact .inr (.inl ⟨mounted, rfl⟩)
  | restore unmounting => exact .inr (.inr ⟨unmounting, rfl⟩)
  | _ => exact .inl rfl

theorem AttemptTurn.unmounted_iff {r : Role} {phase : UnmountPhase} {input : Input}
    {o o' : Outline} (h : AttemptTurn r phase input o o') :
    o'.record.state = .unmounted ↔ o.record.state = .unmounted := by
  rcases h.record_cases with hrecord | ⟨hstate, hrecord⟩ | ⟨hstate, hrecord⟩
  · rw [hrecord]
  · simp [hrecord, hstate]
  · simp [hrecord, hstate]

theorem owned_attempt {r : Role} {phase : UnmountPhase} {input : Input} {o o' : Outline}
    (ho : Owned o) (turn : AttemptTurn r phase input o o') : Owned o' := by
  have hmounts : o'.mounts = o.mounts := turn.mounts_eq
  have hstate := turn.unmounted_iff
  constructor
  · rw [hmounts]
    exact ho.unique
  · rw [hmounts]
    intro n c hc howns
    rw [Ne, hstate]
    exact ho.busy n c hc howns
  · rw [hmounts, Ne, hstate]
    exact ho.occupied
  · intro hidle
    have hbefore := hstate.mp hidle
    rcases turn.record_cases with hrecord | ⟨hother, -⟩ | ⟨hother, -⟩
    · rw [hrecord]
      exact ho.idle hbefore
    · exact absurd (hbefore.symm.trans hother) (by simp)
    · exact absurd (hbefore.symm.trans hother) (by simp)

theorem owned_claim {n : Nat} {c' : MountCall} {o : Outline} (ho : Owned o)
    (hunmounted : o.record.state = .unmounted) (howns : c'.phase.owns) :
    Owned ({ o with record := { o.record with state := .mounting } }.setMount n c') := by
  -- Nobody owned the host before.
  have hnobody : ∀ m d, o.mounts m = some d → ¬ d.phase.owns :=
    fun m d hd hdowns => ho.busy m d hd hdowns hunmounted
  have honly : ∀ m d, (o.setMount n c').mounts m = some d → d.phase.owns → m = n := by
    intro m d hd hdowns
    by_contra hmn
    rw [Outline.setMount_mounts, if_neg hmn] at hd
    exact hnobody m d hd hdowns
  constructor
  · intro m k d e hd he hdowns heowns
    exact (honly m d hd hdowns).trans (honly k e he heowns).symm
  · intro _ _ _ _ hstate
    cases hstate
  · intro _
    exact ⟨n, c', by rw [Outline.setMount_mounts, if_pos rfl], howns⟩
  · intro hstate
    cases hstate

section calls

variable {n : Nat} {c : MountCall} {o : Outline} (ho : Owned o) (h : o.mounts n = some c)

include ho h

/-- A call that goes on as an owner, or as none, leaves the ownership. -/
theorem owned_setMount {c' : MountCall} {record : MountRecord} {registry : Registry Nat}
    {gate : Option Role} (howns : c'.phase.owns = c.phase.owns)
    (hstate : record.state = .unmounted ↔ o.record.state = .unmounted)
    (hidle : o.record.state = .unmounted → record = o.record) :
    Owned ({ o with record, registry, gate }.setMount n c') := by
  -- Every call of the new outline was there, as an owner or not.
  have hback : ∀ m d, (o.setMount n c').mounts m = some d →
      ∃ e, o.mounts m = some e ∧ d.phase.owns = e.phase.owns := by
    intro m d hd
    by_cases hmn : m = n
    · rw [Outline.setMount_mounts, if_pos hmn] at hd
      cases hd
      exact ⟨c, hmn ▸ h, howns⟩
    · rw [Outline.setMount_mounts, if_neg hmn] at hd
      exact ⟨d, hd, rfl⟩
  constructor
  · intro m k d e hd he hdowns heowns
    obtain ⟨d', hd', hdeq⟩ := hback m d hd
    obtain ⟨e', he', heeq⟩ := hback k e he
    exact ho.unique m k d' e' hd' he' (hdeq ▸ hdowns) (heeq ▸ heowns)
  · intro m d hd hdowns
    obtain ⟨d', hd', hdeq⟩ := hback m d hd
    exact hstate.not.mpr (ho.busy m d' hd' (hdeq ▸ hdowns))
  · intro hbusy
    obtain ⟨m, d, hd, hdowns⟩ := ho.occupied (hstate.not.mp hbusy)
    by_cases hmn : m = n
    · subst hmn
      cases h.symm.trans hd
      exact ⟨m, c', by rw [Outline.setMount_mounts, if_pos rfl], howns ▸ hdowns⟩
    · exact ⟨m, d, by rw [Outline.setMount_mounts, if_neg hmn]; exact hd, hdowns⟩
  · intro hunmounted
    have hbefore := hstate.mp hunmounted
    show record = .idle
    -- A record that says `unmounted` is the one from before the step.
    rw [hidle hbefore]
    exact ho.idle hbefore

theorem owned_reset {c' : MountCall} (howned : c.phase.owns) (howns : c'.phase.owns = false) :
    Owned ({ o with record := .idle }.setMount n c') := by
  -- The call was the only owner, and is none any more.
  have hnobody : ∀ m d, (o.setMount n c').mounts m = some d → d.phase.owns = false := by
    intro m d hd
    by_cases hmn : m = n
    · rw [Outline.setMount_mounts, if_pos hmn] at hd
      cases hd
      exact howns
    · rw [Outline.setMount_mounts, if_neg hmn] at hd
      by_contra hdowns
      exact hmn (ho.unique m n d c hd h (by simpa using hdowns) howned)
  constructor
  · intro m k d e hd _ hdowns _
    rw [hnobody m d hd] at hdowns
    cases hdowns
  · intro m d hd hdowns
    rw [hnobody m d hd] at hdowns
    cases hdowns
  · intro hbusy
    exact absurd rfl hbusy
  · intro _
    rfl

theorem owned_mount {input : Input} {o' : Outline} (turn : MountTurn setup n c input o o') :
    Owned o' := by
  cases turn with
  | progress hprogress => exact owned_setMount ho h hprogress.owns_eq .rfl (fun _ => rfl)
  -- The one turn by which a call comes to own the host.
  | claim hphase idle => exact owned_claim ho idle rfl
  | refuse hphase busy => exact owned_setMount ho h (by rw [hphase]; rfl) .rfl (fun _ => rfl)
  | name hphase =>
    -- An owner may change the record, since the record does not say `unmounted`.
    have hbusy := ho.busy n c h (by rw [hphase]; rfl)
    exact owned_setMount ho h (by rw [hphase]; rfl) .rfl (fun hidle => absurd hidle hbusy)
  | enter hphase fresh => exact owned_setMount ho h (by rw [hphase]; rfl) .rfl (fun _ => rfl)
  | start hphase hnext =>
    have hbusy := ho.busy n c h (by rw [hphase]; rfl)
    refine owned_setMount ho h ?_ ?_ (fun hidle => absurd hidle hbusy)
    · rcases hnext with hnext | hnext <;> rw [hphase, hnext] <;> rfl
    · simp [hbusy]
  | close hphase mounted =>
    have hbusy := ho.busy n c h (by rw [hphase]; rfl)
    refine owned_setMount ho h (by rw [hphase]; rfl) ?_ (fun hidle => absurd hidle hbusy)
    simp [hbusy]
  | closed hphase other => exact owned_setMount ho h (by rw [hphase]; rfl) .rfl (fun _ => rfl)
  | shut hphase free => exact owned_setMount ho h (by rw [hphase]; rfl) .rfl (fun _ => rfl)
  | reopen hphase => exact owned_setMount ho h (by rw [hphase]; rfl) .rfl (fun _ => rfl)
  | release hphase htoken herror =>
    exact owned_setMount ho h (by rw [hphase]; rfl) .rfl (fun _ => rfl)
  | reset hphase => exact owned_reset ho h (by rw [hphase]; rfl) rfl

end calls

theorem owned_begin {n : Nat} {c : MountCall} {o : Outline} (ho : Owned o)
    (new : o.mounts n = none) (howns : c.phase.owns = false) : Owned (o.setMount n c) := by
  -- An owner is not the call that has just begun.
  have hback : ∀ m d, (o.setMount n c).mounts m = some d → d.phase.owns → o.mounts m = some d := by
    intro m d hd hdowns
    by_cases hmn : m = n
    · rw [Outline.setMount_mounts, if_pos hmn] at hd
      cases hd
      rw [howns] at hdowns
      cases hdowns
    · rw [Outline.setMount_mounts, if_neg hmn] at hd
      exact hd
  constructor
  · intro m k d e hd he hdowns heowns
    exact ho.unique m k d e (hback m d hd hdowns) (hback k e he heowns) hdowns heowns
  · intro m d hd hdowns
    exact ho.busy m d (hback m d hd hdowns) hdowns
  · intro hbusy
    obtain ⟨m, d, hd, hdowns⟩ := ho.occupied hbusy
    refine ⟨m, d, ?_, hdowns⟩
    rw [Outline.setMount_mounts, if_neg]
    · exact hd
    · intro heq
      subst heq
      exact absurd (new.symm.trans hd) (by simp)
  · exact ho.idle

theorem owned_move {label : Label} {o o' : Outline} (ho : Owned o) (h : Move setup label o o') :
    Owned o' := by
  cases h with
  | begin new => exact owned_begin ho new rfl
  | ask idle own => exact ⟨ho.unique, ho.busy, ho.occupied, ho.idle⟩
  | attempt h turn => exact owned_attempt ho turn
  | mount h idle turn => exact owned_mount ho h turn
  | still own => exact ho

/-! ## The end of a call -/

theorem MountTurn.not_returned {n : Nat} {c : MountCall} {input : Input} {o o' : Outline}
    (h : MountTurn setup n c input o o') (error : Option HostError) :
    c.phase ≠ .returned error := by
  intro hreturned
  cases h with
  | progress hprogress =>
    rw [hreturned] at hprogress
    cases hprogress
  | _ hphase => cases hreturned.symm.trans hphase

/-- A call that has returned does nothing more. -/
theorem returned_move {label : Label} {o o' : Outline} {n : Nat} {c : MountCall}
    {error : Option HostError} (h : o.mounts n = some c) (hreturned : c.phase = .returned error)
    (hmove : Move setup label o o') : o'.mounts n = some c := by
  rcases hmove.call_cases h with ⟨hsame, -⟩ | ⟨input, -, -, turn⟩
  · exact hsame
  · exact absurd hreturned (turn.not_returned error)

/-! ## The record of an owned host -/

/-- The owner of a host takes a turn of its own, or it stays where it is, the
    registry does, too, and the record changes by attempts to unmount alone. -/
theorem Move.owner_cases {label : Label} {o o' : Outline} {n : Nat} {c : MountCall}
    (hmove : Move setup label o o') (ho : Owned o) (hc : o.mounts n = some c)
    (howns : c.phase.owns) :
    (o'.mounts n = some c ∧ AttemptOf n label o o' ∧ o'.registry = o.registry ∧
      (o'.record = o.record ∨
        (o.record.state = .mounted ∧ o'.record = { o.record with state := .unmounting }) ∨
        (o.record.state = .unmounting ∧ o'.record = { o.record with state := .mounted }))) ∨
      ∃ input, label = .act (.mount n) input ∧ o.attempt (.mount n) = none ∧
        MountTurn setup n c input o o' := by
  rcases hmove.call_cases hc with ⟨hsame, hlabel⟩ | hturn
  · cases hmove with
    | attempt hold turn => exact .inl ⟨hsame, hlabel, turn.registry_eq, turn.record_cases⟩
    | @mount _ _ m d input hd idle turn =>
      by_cases hnm : n = m
      · subst hnm
        cases hc.symm.trans hd
        exact .inr ⟨input, rfl, idle, turn⟩
      · have hunowned : d.phase.owns = false := by
          by_contra hdowns
          exact hnm (ho.unique n m c d hc hd howns (by simpa using hdowns))
        refine .inl ⟨hsame, hlabel, ?_⟩
        -- A call that does not own the host claims it in vain.
        cases turn with
        | progress | refuse | closed | shut | reopen => exact ⟨rfl, .inl rfl⟩
        | claim _ idle => exact absurd idle (ho.busy n c hc howns)
        | _ hphase =>
          rw [hphase] at hunowned
          cases hunowned
    | _ => exact .inl ⟨hsame, hlabel, rfl, .inl rfl⟩
  · exact .inr hturn

/-! ## Runs -/

theorem owned_run {p : Process} {labels : List Label} {w : World} {events : List Event}
    (h : run setup labels ⟨p, {}⟩ = some (w, events)) : Owned w.outline :=
  outline_induction (P := fun _ o => Owned o) (owned_start p.registry)
    (fun _ _ _ _ _ _ _ hv _ hmove => owned_move hv hmove) h

end HostedFs.Host
