import HostedFs.Proofs.Host.Gate
import HostedFs.Proofs.Host.Quiet

/-! # The record after the end of a filesystem

    When the native side ends a filesystem, the record leaves `mounted`. An
    attempt to unmount that had claimed the mount before may still fail, and
    then it puts the record back, though there is nothing left to unmount. This
    module shows that nothing else brings the record back to `mounted` before a
    filesystem is started again.

    * `MountedWithin`: in the course of a run, the record says `mounted`.
    * `RestoredWithin`: in the course of a run, an attempt that had claimed the
      mount at its beginning puts the record back.
    * `mounted_after_end_iff`: the one happens exactly when the other does, and
      while it does not, nobody goes on to the native side.
-/

namespace HostedFs.Host

variable {setup : Setup}

/-- In the course of a run, the record says that the host is mounted. -/
def MountedWithin (setup : Setup) (v : World) (after : List Label) : Prop :=
  ∃ l x events, l <+: after ∧ run setup l v = some (x, events) ∧ x.host.record.state = .mounted

/-- In the course of a run, an attempt that has claimed the mount at its
    beginning fails and puts the record back. -/
def RestoredWithin (setup : Setup) (v : World) (after : List Label) : Prop :=
  ∃ r l x events mountpoint, l ++ [.act r .go] <+: after ∧
    run setup l v = some (x, events) ∧ Claiming v.outline r ∧
    attempt? x.host r = some (.restoring mountpoint true)

theorem RestoredWithin.of_append {v : World} {l after : List Label}
    (h : RestoredWithin setup v l) (hl : l <+: after) : RestoredWithin setup v after := by
  obtain ⟨r, l', x, events, mountpoint, hl', hrest⟩ := h
  exact ⟨r, l', x, events, mountpoint, hl'.trans hl, hrest⟩

/-! ## No other way back -/

/-- While the record was not put back, the host is not mounted, and whoever has
    claimed the mount had done so at the beginning. -/
theorem restored_or_not_mounted {p : Process} {before after : List Label} {v w : World}
    {early late : List Event} (hbefore : run setup before ⟨p, {}⟩ = some (v, early))
    (hstate : v.host.record.state ≠ .mounted) (hafter : run setup after v = some (w, late))
    (hno : ¬ Started late) :
    (v.host.record.state = .unmounting ∧ RestoredWithin setup v after) ∨
      (w.outline.record.state ≠ .mounted ∧
        (w.outline.record.state = .unmounting → v.host.record.state = .unmounting) ∧
        ∀ r, Claiming w.outline r → Claiming v.outline r) := by
  refine induction_from hbefore (P := fun after w late => ¬ Started late →
      (v.host.record.state = .unmounting ∧ RestoredWithin setup v after) ∨
      (w.outline.record.state ≠ .mounted ∧
        (w.outline.record.state = .unmounting → v.host.record.state = .unmounting) ∧
        ∀ r, Claiming w.outline r → Claiming v.outline r)) ?_ ?_ hafter hno
  · exact fun _ => .inr ⟨hstate, id, fun _ => id⟩
  · intro after x mid label y told hrun ih hstep hmove hno
    rw [started_append, not_or] at hno
    -- Once the record was put back, there is nothing more to show.
    rcases ih hno.1 with ⟨hunmounting, hrestored⟩ | ⟨hnot, hunmounting, hclaiming⟩
    · exact .inl ⟨hunmounting, hrestored.of_append (List.prefix_append ..)⟩
    · by_cases hmounted : y.outline.record.state = .mounted
      · rcases hmove.mounted_cases hnot hmounted with hstarts | ⟨r, mountpoint, rfl, hr, hx⟩
        · exact absurd (started_of_starts hstarts hstep) hno.2
        · obtain ⟨u, events, rest, hfirst, hsuffix, -⟩ := run_append.mp hrun
          cases hbefore.symm.trans hfirst
          exact .inl ⟨hunmounting hx, r, after, x, _, mountpoint, List.prefix_refl _, hsuffix,
            hclaiming r ⟨_, hr, rfl⟩, hr⟩
      · exact .inr ⟨hmounted, fun hy => hunmounting (hmove.unmounting_back hnot hy),
          fun r hr => hclaiming r (hmove.claiming_back hnot hr)⟩

/-! ## The way back -/

/-- A call runs its event loop, or has yet to pass the gate after it. -/
def MountPhase.beforeGate : MountPhase → Bool
  | .running | .starting .. | .arming _ | .initializing _ | .destroying _ | .disarming _
  | .closing _ | .taking .. | .joining .. | .gating _ false => true
  | _ => false

theorem MountPhase.owns_of_beforeGate {phase : MountPhase} (h : phase.beforeGate) : phase.owns := by
  cases phase with
  | claiming | returned => cases h
  | _ => rfl

theorem Progress.beforeGate {c : MountCall} {phase phase' : MountPhase} {input : Input}
    (h : Progress setup c phase input phase') (hphase : phase.beforeGate) : phase'.beforeGate := by
  cases h <;> first | rfl | exact hphase

/-- A call leaves its loop and what follows it only through the gate. -/
theorem MountTurn.beforeGate {n : Nat} {c : MountCall} {input : Input} {o o' : Outline}
    (h : MountTurn setup n c input o o') (hphase : c.phase.beforeGate) :
    (∃ c', o'.mounts n = some c' ∧ c'.phase.beforeGate) ∨ o.gate = none := by
  cases h with
  | progress hprogress => exact .inl ⟨_, Outline.setMount_self .., hprogress.beforeGate hphase⟩
  | start _ hnext =>
    exact .inl ⟨_, Outline.setMount_self .., by rcases hnext with rfl | rfl <;> rfl⟩
  | close | closed => exact .inl ⟨_, Outline.setMount_self .., rfl⟩
  | shut _ free => exact .inr free
  | _ h =>
    rw [h] at hphase
    cases hphase

/-- A host that is unmounting stays so until it is mounted again or its owner
    makes the record idle. -/
theorem Move.unmounting_cases {label : Label} {o o' : Outline} (hmove : Move setup label o o')
    (h : o.record.state = .unmounting) :
    o'.record.state = .mounted ∨ o'.record.state = .unmounting ∨
      ∃ n c error, o.mounts n = some c ∧ c.phase = .resetting error true := by
  cases hmove with
  | attempt hold turn =>
    rcases turn.record_cases with hrecord | ⟨hmounted, -⟩ | ⟨-, hrecord⟩
    · exact .inr (.inl (hrecord ▸ h))
    · exact absurd (h.symm.trans hmounted) (by simp)
    · exact .inl (by rw [hrecord])
  | mount hc idle turn =>
    cases turn with
    | claim _ idle => cases h.symm.trans idle
    | start => exact .inl rfl
    | close => exact .inr (.inl rfl)
    | reset hphase => exact .inr (.inr ⟨_, _, _, hc, hphase⟩)
    | _ => exact .inr (.inl h)
  | _ => exact .inr (.inl h)

/-- While a thread holds on to its claim, the host is unmounting and its owner
    has yet to pass the gate. -/
structure Clung (n : Nat) (r : Role) (o : Outline) : Prop where
  unmounting : o.record.state = .unmounting
  claiming : Claiming o r
  owner : ∃ c, o.mounts n = some c ∧ c.phase.beforeGate

theorem clung_move {n : Nat} {r : Role} {label : Label} {o o' : Outline} (ho : Owned o)
    (hguard : Guarded o) (hmove : Move setup label o o') (h : Clung n r o)
    (hmounted : o'.record.state ≠ .mounted) (hclaiming : Claiming o' r) : Clung n r o' := by
  obtain ⟨c, hc, hphase⟩ := h.owner
  have howns := MountPhase.owns_of_beforeGate hphase
  -- A claim is made past the gate, so its thread holds that.
  have hheld : o.gate = some r := by
    obtain ⟨phase, hr, hclaims⟩ := h.claiming
    refine hguard.attempt r phase hr ?_
    intro heq
    subst heq
    cases hclaims
  refine ⟨?_, hclaiming, ?_⟩
  · rcases hmove.unmounting_cases h.unmounting with hstate | hstate | ⟨m, d, error, hd, hresets⟩
    · exact absurd hstate hmounted
    · exact hstate
    · -- The owner is still before the gate.
      obtain rfl := ho.unique n m c d hc hd howns (by rw [hresets]; rfl)
      cases hc.symm.trans hd
      rw [hresets] at hphase
      cases hphase
  · rcases hmove.call_cases hc with ⟨hsame, -⟩ | ⟨input, -, -, turn⟩
    · exact ⟨c, hsame, hphase⟩
    · rcases turn.beforeGate hphase with howner | hfree
      · exact howner
      · exact absurd (hfree.symm.trans hheld) (by simp)

/-- As long as a thread holds on to its claim, or has given it up, the record says
    `mounted` only by a failure of its own. -/
theorem clung_run {p : Process} {before after : List Label} {v w : World}
    {early late : List Event} {n : Nat} {r : Role}
    (hbefore : run setup before ⟨p, {}⟩ = some (v, early)) (hclung : Clung n r v.outline)
    (hafter : run setup after v = some (w, late)) :
    MountedWithin setup v after ∨ ¬ Claiming w.outline r ∨ Clung n r w.outline := by
  refine induction_from hbefore (P := fun after w _ => MountedWithin setup v after ∨
      ¬ Claiming w.outline r ∨ Clung n r w.outline) (.inr (.inr hclung)) ?_ hafter
  intro after x mid label y told hrun ih hstep hmove
  -- Induction over the run after the claim. Once the record has said `mounted` nothing is left
  -- to prove; otherwise look at the record before and after the step.
  obtain ⟨u, events, rest, hfirst, hsuffix, -⟩ := run_append.mp hrun
  cases hbefore.symm.trans hfirst
  have hlonger : run setup (after ++ [label]) v = some (y, rest ++ told) :=
    run_concat.mpr ⟨x, rest, told, hsuffix, hstep, rfl⟩
  rcases ih with ⟨l, z, late, hl, hz, hmounted⟩ | hrest
  · exact .inl ⟨l, z, late, hl.trans (List.prefix_append ..), hz, hmounted⟩
  · by_cases hx : x.host.record.state = .mounted
    · exact .inl ⟨after, x, rest, List.prefix_append .., hsuffix, hx⟩
    · by_cases hy : y.host.record.state = .mounted
      · exact .inl ⟨_, y, _, List.prefix_refl _, hlonger, hy⟩
      · by_cases hclaiming : Claiming y.outline r
        · rcases hrest with hunclaimed | hclung
          · exact absurd (hmove.claiming_back hx hclaiming) hunclaimed
          · -- Before the step it did not say so, and now it does while `r` still claims: this is
            -- the step that puts the record back.
            exact .inr (.inr (clung_move (owned_run hrun) (guarded_run hrun) hmove hclung hy
              hclaiming))
        · exact .inr (.inl hclaiming)

/-! ## The step that ends a filesystem -/

/-- After the end of a filesystem the host is not mounted, and its owner runs its
    event loop again. -/
theorem ended {n : Nat} {c : MountCall} {u v : World} {told : List Event}
    (hc : u.host.mounts n = some c) (hphase : c.phase = .closing true)
    (h : step setup (.act (.mount n) .go) u = some (v, told)) :
    v.host.record.state ≠ .mounted ∧ v.host.mounts n = some { c with phase := .running } := by
  simp only [step, hc, mountStep, hphase, Option.bind_eq_bind, Option.bind_some,
    Option.some.injEq, Prod.mk.injEq] at h
  obtain ⟨rfl, -⟩ := h
  constructor
  · by_cases hs : u.host.record.state = .mounted
    · simp [World.putMount, World.unlockRecord, World.setRecord, hs]
    · simp [World.putMount, World.unlockRecord, World.setRecord, hs]
  · simp [World.putMount]

/-- After `on_destroy` has told the record of the end, and with no filesystem `Started` since, the
    record comes to say `mounted` (`MountedWithin`) exactly when an attempt that had claimed the
    mount before fails and puts the record back (`RestoredWithin`). While it does not, every
    attempt that looks at the record is refused, and `sessionToNotify` gives nobody to be told of
    a change. -/
theorem mounted_after_end_iff {p : Process} {before after : List Label} {u v w : World}
    {early told late : List Event} {n : Nat} {c : MountCall}
    (hbefore : run setup before ⟨p, {}⟩ = some (u, early)) (hc : u.host.mounts n = some c)
    (hphase : c.phase = .closing true) (hend : step setup (.act (.mount n) .go) u = some (v, told))
    (hafter : run setup after v = some (w, late)) (hno : ¬ Started late) :
    (MountedWithin setup v after ↔
      v.host.record.state = .unmounting ∧ RestoredWithin setup v after) ∧
    (¬ MountedWithin setup v after → ∀ l x events, l <+: after →
      run setup l v = some (x, events) →
      (∀ r, attempt? x.host r = some (.checking true) →
        ∃ x' more, step setup (.act r .go) x = some (x', more) ∧
          attempt? x'.host r = some (.leaving false) ∧ x'.host.record = x.host.record) ∧
      ∀ path, x.host.record.sessionToNotify path = none) := by
  have hv : run setup (before ++ [.act (.mount n) .go]) ⟨p, {}⟩ = some (v, early ++ told) :=
    run_concat.mpr ⟨u, early, told, hbefore, hend, rfl⟩
  obtain ⟨hstate, hloop⟩ := ended hc hphase hend
  refine ⟨⟨?_, ?_⟩, ?_⟩
  · intro hwithin
    obtain ⟨l, x, events, ⟨rest, rfl⟩, hx, hmounted⟩ := hwithin
    obtain ⟨y, mid, more, hy, -, rfl⟩ := run_append.mp hafter
    cases hx.symm.trans hy
    rw [started_append, not_or] at hno
    rcases restored_or_not_mounted hv hstate hx hno.1 with ⟨hunmounting, hrestored⟩ | ⟨hnot, -⟩
    · exact ⟨hunmounting, hrestored.of_append (List.prefix_append ..)⟩
    · exact absurd hmounted hnot
  · intro hback
    obtain ⟨hunmounting, hwithin⟩ := hback
    obtain ⟨r, l, x, events, mountpoint, ⟨rest, rfl⟩, hx, hclaiming, hr⟩ := hwithin
    -- Up to its failure the thread holds on to its claim.
    have hclung : Clung n r v.outline :=
      ⟨hunmounting, hclaiming, _, outline_mounts hloop, rfl⟩
    rcases clung_run hv hclung hx with ⟨l', y, mid, hl', hy, hmounted⟩ | hunclaimed | hclung'
    · exact ⟨l', y, mid, hl'.trans (List.prefix_append_of_prefix (List.prefix_append ..)), hy,
        hmounted⟩
    · exact absurd ⟨_, hr, rfl⟩ hunclaimed
    · -- The next step puts the record back.
      obtain ⟨y, mid, more, hy, -, -⟩ := run_append.mp hafter
      obtain ⟨x', early', late', hx', hstep, rfl⟩ := run_concat.mp hy
      cases hx.symm.trans hx'
      have hxrun : run setup ((before ++ [.act (.mount n) .go]) ++ l) ⟨p, {}⟩ = some (x, _) :=
        run_append.mpr ⟨v, _, _, hv, hx, rfl⟩
      have turn := (step_move (numbered_run hxrun) hstep).turn hr
      refine ⟨l ++ [.act r .go], y, _, List.prefix_append .., hy, ?_⟩
      show y.outline.record.state = .mounted
      generalize y.outline = o' at turn
      cases turn with
      | restore => rfl
      | giveUp other => exact absurd hclung'.unmounting other
  · intro hnever l x events hl hx
    have hnot : x.host.record.state ≠ .mounted := fun hmounted =>
      hnever ⟨l, x, events, hl, hx, hmounted⟩
    refine ⟨fun r hr => refused_of_not_mounted hr hnot, fun path => ?_⟩
    simp [MountRecord.sessionToNotify, hnot]

/-! ## An attempt that fails after the end -/

/-- An attempt to unmount is under way, and the filesystem is about to end. -/
def untilEnd : List Label :=
  mounting 0 ++ .unmount 0 :: steps (.unmount 0) [.go, .go, .go] ++
    steps (.mount 0) [.callDestroy, .left, .go, .go, .go]

/-- The attempt fails and puts the record back. -/
def failing : List Label :=
  steps (.unmount 0) [.answered false, .go, .go]

/-- It gives the gate back, and another attempt passes and looks at the record. -/
def asking : List Label :=
  steps (.unmount 0) [.go] ++ .unmount 1 :: steps (.unmount 1) [.go, .go, .go]

theorem failing_run : ∃ u c early v told w late, run plain untilEnd ⟨{}, {}⟩ = some (u, early) ∧
    u.host.mounts 0 = some c ∧ c.phase = .closing true ∧
    step plain (.act (.mount 0) .go) u = some (v, told) ∧
    run plain failing v = some (w, late) ∧ ¬ Started late ∧ w.host.record.state = .mounted ∧
    (run plain asking w).map (fun m => (attempt? m.1.host (.unmount 1), m.2)) =
      some (some (.calling ⟨4096⟩ (some "/m")), [.unmounting (some "/m")]) := by
  -- Until `on_destroy` has the lock of the record.
  have hend : ((run plain untilEnd ⟨{}, {}⟩).map fun m =>
      (m.1.host.mounts 0).map MountCall.phase) = some (some (.closing true)) := by
    decide +kernel
  obtain ⟨⟨u, early⟩, hu, hphase⟩ := Option.map_eq_some_iff.mp hend
  obtain ⟨c, hc, hcphase⟩ := Option.map_eq_some_iff.mp hphase
  have hstep : ((run plain untilEnd ⟨{}, {}⟩).bind fun m =>
      step plain (.act (.mount 0) .go) m.1).isSome := by
    decide +kernel
  rw [hu, Option.bind_some, Option.isSome_iff_exists] at hstep
  obtain ⟨⟨v, told⟩, hv⟩ := hstep
  -- The attempt that was under way fails afterwards, and the record says `mounted` again.
  have hfail : (((run plain untilEnd ⟨{}, {}⟩).bind fun m =>
      step plain (.act (.mount 0) .go) m.1).bind fun m => run plain failing m.1).map
        (fun m => (m.2, m.1.host.record.state)) =
      some ([.unmountFailed (some "/m")], .mounted) := by
    decide +kernel
  simp only [hu, hv, Option.bind_some, Option.map_eq_some_iff, Prod.mk.injEq] at hfail
  obtain ⟨⟨w, late⟩, hw, rfl, hmounted⟩ := hfail
  -- So a later attempt is taken up, and asks the native side once more.
  have hask : ((((run plain untilEnd ⟨{}, {}⟩).bind fun m =>
      step plain (.act (.mount 0) .go) m.1).bind fun m => run plain failing m.1).bind fun m =>
        run plain asking m.1).map (fun m => (attempt? m.1.host (.unmount 1), m.2)) =
      some (some (.calling ⟨4096⟩ (some "/m")), [.unmounting (some "/m")]) := by
    decide +kernel
  simp only [hu, hv, hw, Option.bind_some] at hask
  exact ⟨u, c, early, v, told, w, _, hu, hc, hcphase, hv, hw, by simp [Started], hmounted, hask⟩

/-- The record says `mounted` again after the end of the filesystem, with none
    started since, and another attempt asks the native side to unmount. -/
theorem mounted_again_without_start :
    ∃ u c early v told w late x, run plain untilEnd ⟨{}, {}⟩ = some (u, early) ∧
      u.host.mounts 0 = some c ∧ c.phase = .closing true ∧
      step plain (.act (.mount 0) .go) u = some (v, told) ∧
      run plain failing v = some (w, late) ∧ ¬ Started late ∧ w.host.record.state = .mounted ∧
      run plain asking w = some (x, [.unmounting (some "/m")]) ∧
      attempt? x.host (.unmount 1) = some (.calling ⟨4096⟩ (some "/m")) := by
  obtain ⟨u, c, early, v, told, w, late, hu, hc, hphase, hv, hw, hno, hmounted, hask⟩ := failing_run
  simp only [Option.map_eq_some_iff, Prod.mk.injEq] at hask
  obtain ⟨⟨x, more⟩, hx, hcalling, rfl⟩ := hask
  exact ⟨u, c, early, v, told, w, late, x, hu, hc, hphase, hv, hw, hno, hmounted, hx, hcalling⟩

theorem mounted_after_end_iff_failing :
    ∃ u c early v told w late, run plain untilEnd ⟨{}, {}⟩ = some (u, early) ∧
      u.host.mounts 0 = some c ∧ c.phase = .closing true ∧
      step plain (.act (.mount 0) .go) u = some (v, told) ∧
      run plain failing v = some (w, late) ∧ ¬ Started late ∧
      v.host.record.state = .unmounting ∧ RestoredWithin plain v failing := by
  obtain ⟨u, c, early, v, told, w, late, hu, hc, hphase, hv, hw, hno, hmounted, -⟩ := failing_run
  refine ⟨u, c, early, v, told, w, late, hu, hc, hphase, hv, hw, hno, ?_⟩
  exact (mounted_after_end_iff hu hc hphase hv hw hno).1.mp
    ⟨failing, w, late, List.prefix_refl _, hw, hmounted⟩

end HostedFs.Host
