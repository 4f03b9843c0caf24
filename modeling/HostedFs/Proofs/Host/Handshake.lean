import HostedFs.Proofs.Host.Gate
import HostedFs.Proofs.Host.Quiet

/-! # The handshake between unmounting and the end of a mount

    A call to mount passes the gate before it takes its token back. This module
    shows that nobody is then asking the native side to unmount, and that nobody
    begins to, until a filesystem is started again.

    It rests on the native side: it ends a filesystem before its loop returns
    (`Orderly`), and where an attempt to unmount has claimed the mount by the
    time the end of the filesystem reaches the record, it does not fail it
    (`Obliging`).

    * `Settling`: what is known of the host at each phase of the call.
    * `settling_move`, `settling_run`: this is known after every run.
    * `no_unmount_after_release`: from the release of the token on, nobody is
      asking the native side to unmount.
-/

namespace HostedFs.Host

variable {setup : Setup}

/-! ## The native side -/

/-- A filesystem was started and not ended since. -/
def alive (given : List Input) : Bool :=
  given.foldl (fun running input =>
    match input with
    | .callInit .. => true
    | .callDestroy => false
    | _ => running) false

theorem alive_concat_of_not_fromLoop {input : Input} (h : input.fromLoop = false)
    (given : List Input) : alive (given ++ [input]) = alive given := by
  cases input with
  | callInit | callDestroy | loopReturned => cases h
  | _ => simp [alive]

theorem alive_inputs {r : Role} {label : Label}
    (h : ∀ input, label = .act r input → input.fromLoop = false) (given : List Input) :
    alive (given ++ inputs r [label]) = alive given := by
  rcases inputs_cases r label with ⟨input, rfl, hgiven⟩ | hgiven
  · rw [hgiven]
    exact alive_concat_of_not_fromLoop (h input rfl) given
  · rw [hgiven, List.append_nil]

/-- The native loop returns only once the filesystem it has started is ended. -/
def Orderly (given : List Input) : Prop :=
  ∀ before status after, given = before ++ .loopReturned status :: after → alive before = false

theorem Orderly.of_append {before after : List Input} (h : Orderly (before ++ after)) :
    Orderly before := by
  intro early status late heq
  subst heq
  exact h early status (late ++ after) (by simp)

/-- Whoever has claimed the mount when the end of its filesystem reaches the
    record is asking the native side, and is not told that this failed. -/
def Obliging (setup : Setup) (w₀ : World) (n : Nat) (labels : List Label) : Prop :=
  ∀ before after v early c, labels = before ++ .act (.mount n) .go :: after →
    run setup before w₀ = some (v, early) → v.host.mounts n = some c → c.phase = .closing true →
    ∀ r phase, attempt? v.host r = some phase → phase.claims →
      (∃ session mountpoint, phase = .calling session mountpoint) ∧
        (inputs r after).head? ≠ some (.answered false)

/-! ## The course of a mount -/

/-- What is known of the host while a call to mount is in a phase; `given` is
    what the call was given, `after` is what is still to come. -/
def Settling (after : List Label) (given : List Input) (o : Outline) : MountPhase → Prop
  | .preparing | .naming .. | .registering => Quiet after o
  | .running => alive given ∨ Quiet after o
  | .starting .. | .arming _ | .initializing _ => alive given
  | .taking .. | .joining .. | .gating _ false => Quiet after o
  | .gating _ true | .releasing _ => Sealed o
  | _ => True

/-- A step that leaves a call where it is leaves what is known of the host, too. -/
theorem settling_of_other {label : Label} {after : List Label} {given more : List Input}
    {o o' : Outline} {n : Nat} {c : MountCall} (ho : Owned o) (hc : o.mounts n = some c)
    (hmove : Move setup label o o') (hgiven : alive more = alive given)
    (h : Settling (label :: after) given o c.phase) : Settling after more o' c.phase := by
  -- No other call starts a filesystem while this one owns the host.
  have hquiet (howns : c.phase.owns) (hphase : ∀ session, c.phase ≠ .starting session true)
      (hbefore : Quiet (label :: after) o) : Quiet after o' :=
    quiet_move hbefore hmove (not_starts_of_owner ho hc howns hphase)
  have hsealed (howns : c.phase.owns) (hphase : ∀ session, c.phase ≠ .starting session true)
      (hbefore : Sealed o) : Sealed o' :=
    sealed_move hbefore hmove (not_starts_of_owner ho hc howns hphase)
  cases hp : c.phase with
  | preparing | naming | registering | taking | joining =>
    rw [hp] at h hquiet
    exact hquiet rfl (fun _ => nofun) h
  | running =>
    rw [hp] at h hquiet
    rcases h with halive | hbefore
    · exact .inl (hgiven ▸ halive)
    · exact .inr (hquiet rfl (fun _ => nofun) hbefore)
  | starting | arming | initializing =>
    rw [hp] at h
    exact hgiven.trans h
  | gating status held =>
    rw [hp] at h hquiet hsealed
    cases held
    · exact hquiet rfl (fun _ => nofun) h
    · exact hsealed rfl (fun _ => nofun) h
  | releasing =>
    rw [hp] at h hsealed
    exact hsealed rfl (fun _ => nofun) h
  | _ => trivial

/-- The end of a filesystem leaves the host quiet if the native side obliges. -/
theorem quiet_of_closing {after : List Label} {o o' : Outline}
    (hattempt : o'.attempt = o.attempt) (hstate : o'.record.state ≠ .mounted)
    (hobliging : ∀ r phase, o.attempt r = some phase → phase.claims →
      (∃ session mountpoint, phase = .calling session mountpoint) ∧
        (inputs r after).head? ≠ some (.answered false)) : Quiet after o' where
  notMounted := hstate
  obliged _ := by
    rw [hattempt]
    exact hobliging

theorem settling_progress {setup : Setup} {n : Nat} {c : MountCall} {phase : MountPhase}
    {input : Input} {after : List Label} {given : List Input} {o o' : Outline}
    (hprogress : Progress setup c c.phase input phase) (horderly : Orderly (given ++ [input]))
    (hquiet : Quiet (.act (.mount n) input :: after) o → Quiet after o')
    (h : Settling (.act (.mount n) input :: after) given o c.phase) :
    Settling after (given ++ [input]) o' phase := by
  generalize c.phase = old at h hprogress
  cases hprogress with
  | unprepared | spoiled | lockToClaim | lockToDisarm | disarmed | lockToClose | lockToReset =>
    trivial
  | gone | callDestroy => trivial
  | prepared | lockToName | lockToTake | took | tookNone | joined => exact hquiet h
  | callInit => simp [Settling, alive]
  | loopReturned =>
    -- The loop returns only after the end of what was started.
    rcases h with halive | hbefore
    · rw [horderly given _ [] rfl] at halive
      cases halive
    · exact hquiet hbefore
  | lockToStart => exact (alive_concat_of_not_fromLoop rfl given).trans h
  | arm other | armed other => exact (alive_concat_of_not_fromLoop other given).trans h
  | initialized => exact .inl ((alive_concat_of_not_fromLoop rfl given).trans h)

theorem settling_turn {n : Nat} {c : MountCall} {input : Input} {after : List Label}
    {given : List Input} {o o' : Outline} (ho : Owned o) (hguard : Guarded o)
    (hc : o.mounts n = some c) (idle : o.attempt (.mount n) = none)
    (turn : MountTurn setup n c input o o') (horderly : Orderly (given ++ [input]))
    (hobliging : c.phase = .closing true → input = .go → ∀ r phase, o.attempt r = some phase →
      phase.claims → (∃ session mountpoint, phase = .calling session mountpoint) ∧
        (inputs r after).head? ≠ some (.answered false))
    (h : Settling (.act (.mount n) input :: after) given o c.phase) :
    ∃ c', o'.mounts n = some c' ∧ Settling after (given ++ [input]) o' c'.phase := by
  have hmove : Move setup (.act (.mount n) input) o o' := .mount hc idle turn
  cases turn with
  | progress hprogress =>
    refine ⟨_, Outline.setMount_self .., settling_progress hprogress horderly ?_ h⟩
    intro hbefore
    refine quiet_move hbefore hmove ?_
    -- The step that starts a filesystem is a turn of its own.
    intro hstarts
    obtain ⟨m, d, session, heq, hd, hstarting⟩ := hstarts
    cases heq
    cases hc.symm.trans hd
    rw [hstarting] at hprogress
    cases hprogress
  | claim hphase idle => exact ⟨_, Outline.setMount_self .., nofun, fun hstate => by cases hstate⟩
  | refuse hphase busy => exact ⟨_, Outline.setMount_self .., trivial⟩
  | name hphase =>
    rw [hphase] at h
    exact ⟨_, Outline.setMount_self .., quiet_move h hmove
      (not_starts_of_owner ho hc (by rw [hphase]; rfl) (by simp [hphase]))⟩
  | enter hphase fresh =>
    rw [hphase] at h
    exact ⟨_, Outline.setMount_self .., .inr (quiet_move h hmove
      (not_starts_of_owner ho hc (by rw [hphase]; rfl) (by simp [hphase])))⟩
  | start hphase hnext =>
    rw [hphase] at h
    refine ⟨_, Outline.setMount_self .., ?_⟩
    rcases hnext with rfl | rfl <;> exact (alive_concat_of_not_fromLoop rfl given).trans h
  | close hphase mounted =>
    exact ⟨_, Outline.setMount_self .., .inr (quiet_of_closing rfl nofun (hobliging hphase rfl))⟩
  | closed hphase other =>
    exact ⟨_, Outline.setMount_self .., .inr (quiet_of_closing rfl other (hobliging hphase rfl))⟩
  | shut hphase free =>
    rw [hphase] at h
    refine ⟨_, Outline.setMount_self .., h.notMounted, ?_⟩
    -- Whoever has claimed the mount would hold the gate.
    intro r hclaiming
    obtain ⟨phase, hr, hclaims⟩ := hclaiming
    have hpast : phase ≠ .atGate := by
      intro heq
      subst heq
      cases hclaims
    exact absurd (free.symm.trans (hguard.attempt r phase hr hpast)) (by simp)
  | reopen hphase =>
    rw [hphase] at h
    exact ⟨_, Outline.setMount_self .., sealed_move h hmove
      (not_starts_of_owner ho hc (by rw [hphase]; rfl) (by simp [hphase]))⟩
  | release hphase htoken herror => exact ⟨_, Outline.setMount_self .., trivial⟩
  | reset hphase => exact ⟨_, Outline.setMount_self .., trivial⟩

theorem settling_move {n : Nat} {label : Label} {after : List Label} {given : List Input}
    {o o' : Outline} (ho : Owned o) (hguard : Guarded o) (hmove : Move setup label o o')
    (horderly : Orderly (given ++ inputs (.mount n) [label]))
    (hobliging : label = .act (.mount n) .go → ∀ c, o.mounts n = some c →
      c.phase = .closing true → ∀ r phase, o.attempt r = some phase → phase.claims →
      (∃ session mountpoint, phase = .calling session mountpoint) ∧
        (inputs r after).head? ≠ some (.answered false))
    (h : ∀ c, o.mounts n = some c → Settling (label :: after) given o c.phase) :
    ∀ c, o'.mounts n = some c → Settling after (given ++ inputs (.mount n) [label]) o' c.phase := by
  intro c hc
  cases hbefore : o.mounts n with
  | none =>
    -- A call that begins has nothing to settle yet.
    obtain ⟨_, _, -, rfl⟩ := hmove.new_call hbefore hc
    trivial
  | some d =>
    rcases hmove.call_cases hbefore with ⟨hsame, hloop⟩ | ⟨input, rfl, idle, turn⟩
    · cases hsame.symm.trans hc
      -- Another thread moves, or the implementation within the call.
      exact settling_of_other ho hbefore hmove
        (alive_inputs (fun input heq => (hloop input heq).1) given) (h c hbefore)
    · -- The call takes a turn of its own, and is given one more input.
      have hown : inputs (.mount n) [.act (.mount n) input] = [input] := inputs_act_self _ _ _
      rw [hown] at horderly ⊢
      obtain ⟨c', hc', hsettled⟩ := settling_turn ho hguard hbefore idle turn horderly
        (fun hphase hgo => hobliging (by rw [hgo]) d hbefore hphase) (h d hbefore)
      cases hc.symm.trans hc'
      exact hsettled

theorem settling_run {p : Process} {n : Nat} {labels : List Label} {w : World}
    {events : List Event} (h : run setup labels ⟨p, {}⟩ = some (w, events))
    (horderly : Orderly (inputs (.mount n) labels)) (hobliging : Obliging setup ⟨p, {}⟩ n labels) :
    ∀ c, w.outline.mounts n = some c →
      Settling [] (inputs (.mount n) labels) w.outline c.phase := by
  have hall := outline_induction (P := fun before o => ∀ after, labels = before ++ after →
      ∀ c, o.mounts n = some c → Settling after (inputs (.mount n) before) o c.phase) ?_ ?_ h
  · exact hall [] (List.append_nil _).symm
  · intro _ _ c hc
    cases hc
  · intro before v early label w late hrun ih hstep hmove after hlabels
    have hlabels' : labels = before ++ label :: after := by simpa using hlabels
    rw [inputs_append]
    refine settling_move (owned_run hrun) (guarded_run hrun) hmove ?_ ?_ (ih _ hlabels')
    · rw [hlabels, inputs_append, inputs_append] at horderly
      exact horderly.of_append
    · intro heq c hc hphase
      subst heq
      have hcall := mounts_of_outline hc (by rw [hphase]; rfl)
      exact hobliging before after v early c hlabels' hrun hcall hphase

/-! ## After the release -/

/-- A call is about to release its token, or has just done so. -/
def MountPhase.releases : MountPhase → Bool
  | .releasing _ | .resetting .. => true
  | _ => false

theorem MountPhase.owns_of_releases {phase : MountPhase} (h : phase.releases) : phase.owns := by
  cases phase with
  | releasing | resetting => rfl
  | _ => cases h

/-- What is known of the host from the release of a token on: until the call has
    returned, and then until a filesystem is started, the host is sealed. -/
def Released (n : Nat) (o : Outline) (events : List Event) : Prop :=
  ∃ c, o.mounts n = some c ∧
    ((c.phase.releases ∧ Sealed o) ∨
      ∃ error, c.phase = .returned error ∧ (¬ Started events → Sealed o))

theorem MountTurn.releases {n : Nat} {c : MountCall} {input : Input} {o o' : Outline}
    (h : MountTurn setup n c input o o') (hphase : c.phase.releases) :
    ∃ c', o'.mounts n = some c' ∧ (c'.phase.releases ∨ ∃ error, c'.phase = .returned error) := by
  cases h with
  | progress hprogress =>
    generalize c.phase = old at hphase hprogress
    cases hprogress with
    | lockToReset => exact ⟨_, Outline.setMount_self .., .inl rfl⟩
    | _ => cases hphase
  | release => exact ⟨_, Outline.setMount_self .., .inl rfl⟩
  | reset => exact ⟨_, Outline.setMount_self .., .inr ⟨_, rfl⟩⟩
  | _ h =>
    rw [h] at hphase
    cases hphase

theorem released_move {n : Nat} {label : Label} {o o' : Outline} {events late : List Event}
    (ho : Owned o) (hmove : Move setup label o o') (hreport : Starts label o → Started late)
    (h : Released n o events) : Released n o' (events ++ late) := by
  obtain ⟨c, hc, ⟨hphase, hsealed⟩ | ⟨error, hphase, hsealed⟩⟩ := h
  · have hstart : ¬ Starts label o := by
      apply not_starts_of_owner ho hc
      · exact MountPhase.owns_of_releases hphase
      · intro session heq
        rw [heq] at hphase
        cases hphase
    have hsealed' := sealed_move hsealed hmove hstart
    rcases hmove.call_cases hc with ⟨hsame, -⟩ | ⟨input, rfl, -, turn⟩
    · exact ⟨c, hsame, .inl ⟨hphase, hsealed'⟩⟩
    · obtain ⟨c', hc', hreleases | ⟨error, hreturned⟩⟩ := turn.releases hphase
      · exact ⟨c', hc', .inl ⟨hreleases, hsealed'⟩⟩
      · exact ⟨c', hc', .inr ⟨error, hreturned, fun _ => hsealed'⟩⟩
  · -- Now that the call has returned, another one may start a filesystem.
    refine ⟨c, returned_move hc hphase hmove, .inr ⟨error, hphase, fun hstarted => ?_⟩⟩
    rw [started_append, not_or] at hstarted
    exact sealed_move (hsealed hstarted.1) hmove (fun hstart => hstarted.2 (hreport hstart))

/-- From the release of its token to the return of call `n` to mount, and on until a filesystem is
    started again (`Started`), no thread is asking the native side to unmount: `attempt?` is in no
    phase `calling`. The loop is `Orderly` before the release, and the attempts that are under way
    when the call ends are `Obliging`. -/
theorem no_unmount_after_release {p : Process} {before after : List Label} {v w : World}
    {early late : List Event} {n : Nat} {c : MountCall} {status : Int32}
    (hbefore : run setup before ⟨p, {}⟩ = some (v, early))
    (horderly : Orderly (inputs (.mount n) before)) (hobliging : Obliging setup ⟨p, {}⟩ n before)
    (hc : v.host.mounts n = some c) (hphase : c.phase = .releasing status)
    (hafter : run setup after v = some (w, late))
    (hspan : (∃ d, w.host.mounts n = some d ∧ ∀ error, d.phase ≠ .returned error) ∨
      ¬ Started late) :
    ∀ r session mountpoint, attempt? w.host r ≠ some (.calling session mountpoint) := by
  -- `Settling` is the invariant up to the release, and `Released` the one after it.
  have hstart : Released n v.outline [] := by
    have hsettled := settling_run hbefore horderly hobliging c.outer (outline_mounts hc)
    rw [outer_of_attempt?_none (by rw [hphase]; rfl), hphase] at hsettled
    exact ⟨c, by rw [outline_mounts hc, outer_of_attempt?_none (by rw [hphase]; rfl)],
      .inl ⟨by rw [hphase]; rfl, hsettled⟩⟩
  have hend : Released n w.outline late :=
    induction_from hbefore (P := fun _ w events => Released n w.outline events) hstart
      (fun _ _ _ _ _ _ hrun hv hstep hmove => released_move (owned_run hrun) hmove
        (fun hstarts => started_of_starts hstarts hstep) hv) hafter
  intro r session mountpoint hcalling
  have hunsealed : ¬ Sealed w.outline := fun hsealed =>
    hsealed.unclaimed r ⟨_, hcalling, rfl⟩
  -- The outline is sealed, unless the call has returned and a filesystem was started since.
  obtain ⟨d, hd, ⟨-, hsealed⟩ | ⟨error, hreturned, hsealed⟩⟩ := hend
  · exact hunsealed hsealed
  · rcases hspan with ⟨e, he, hrunning⟩ | hquiet
    · have hcall := mounts_of_outline hd (by rw [hreturned]; rfl)
      cases he.symm.trans hcall
      exact hrunning error hreturned
    · exact hunsealed (hsealed hquiet)

/-! ## A run that meets the assumptions -/

/-- An attempt to unmount is under way when the filesystem ends, and succeeds. -/
def untilRelease : List Label :=
  mounting 0 ++ .unmount 0 :: steps (.unmount 0) [.go, .go, .go] ++ ending 0 ++
    steps (.unmount 0) [.answered true] ++ steps (.mount 0) [.loopReturned 0, .go, .go] ++
    steps (.unmount 0) [.go] ++ steps (.mount 0) [.go, .go]

/-- While the token is released, another attempt finds nothing to unmount. -/
def afterRelease : List Label :=
  .unmount 1 :: steps (.unmount 1) [.go, .go] ++ steps (.mount 0) [.go] ++
    steps (.unmount 1) [.go] ++ steps (.mount 0) [.go]

theorem orderly_of_take {given : List Input}
    (h : ∀ k < given.length, given[k]?.any (fun input => input matches .loopReturned _) →
      alive (given.take k) = false) : Orderly given := by
  intro before status after heq
  subst heq
  have hk := h before.length (by simp) (by simp)
  rwa [List.take_left] at hk

theorem orderly_untilRelease : Orderly (inputs (.mount 0) untilRelease) :=
  orderly_of_take (by decide)

theorem obliging_untilRelease : Obliging plain ⟨{}, {}⟩ 0 untilRelease := by
  intro before after v early c hlabels hrun hc hphase r phase hr hclaims
  -- The end of the filesystem reaches the record once, and the gate is held then.
  have hall : ∀ k < untilRelease.length, (run plain (untilRelease.take k) ⟨{}, {}⟩).all fun m =>
      (m.1.host.mounts 0).all fun c => c.phase ≠ .closing true || (k = 20 &&
        m.1.host.gate = some (.unmount 0) &&
        attempt? m.1.host (.unmount 0) = some (.calling ⟨4096⟩ (some "/m"))) := by
    decide +kernel
  have htake : untilRelease.take before.length = before := by rw [hlabels, List.take_left]
  have hat := hall before.length (by rw [hlabels]; simp)
  simp only [htake, hrun, Option.all_some, hc, hphase, ne_eq, not_true_eq_false, decide_false,
    Bool.false_or, Bool.and_eq_true, decide_eq_true_eq] at hat
  obtain ⟨⟨hlength, hgate⟩, hcalling⟩ := hat
  have hpast : phase ≠ .atGate := by
    intro heq
    subst heq
    cases hclaims
  obtain rfl : Role.unmount 0 = r :=
    Option.some.inj (hgate.symm.trans ((guarded_run hrun).attempt r phase hr hpast))
  have hafter : after = untilRelease.drop 21 := by
    rw [hlabels, List.drop_append, hlength, List.drop_of_length_le (by omega)]
    rfl
  refine ⟨⟨_, _, Option.some.inj (hr.symm.trans hcalling)⟩, ?_⟩
  rw [hafter]
  show some (Input.answered true) ≠ some (.answered false)
  simp

theorem no_unmount_after_release_plain :
    Orderly (inputs (.mount 0) untilRelease) ∧ Obliging plain ⟨{}, {}⟩ 0 untilRelease ∧
      ∃ v early w late c d, run plain untilRelease ⟨{}, {}⟩ = some (v, early) ∧
        v.host.mounts 0 = some c ∧ c.phase = .releasing 0 ∧
        run plain afterRelease v = some (w, late) ∧ w.host.mounts 0 = some d ∧
        d.phase = .resetting none true ∧
        ∀ r session mountpoint, attempt? w.host r ≠ some (.calling session mountpoint) := by
  refine ⟨orderly_untilRelease, obliging_untilRelease, ?_⟩
  -- Both runs are evaluated as a whole; the theorem then speaks of the state between them.
  have hrun : ((run plain (untilRelease ++ afterRelease) ⟨{}, {}⟩).map fun m =>
      (m.1.host.mounts 0).map MountCall.phase) = some (some (.resetting none true)) := by
    decide +kernel
  have hrelease : ((run plain untilRelease ⟨{}, {}⟩).map fun m =>
      (m.1.host.mounts 0).map MountCall.phase) = some (some (.releasing 0)) := by
    decide +kernel
  obtain ⟨⟨w, events⟩, hwhole, hw⟩ := Option.map_eq_some_iff.mp hrun
  obtain ⟨d, hd, hdphase⟩ := Option.map_eq_some_iff.mp hw
  obtain ⟨v, early, late, hbefore, hafter, -⟩ := run_append.mp hwhole
  rw [hbefore, Option.map_some, Option.some.injEq] at hrelease
  obtain ⟨c, hc, hcphase⟩ := Option.map_eq_some_iff.mp hrelease
  refine ⟨v, early, w, late, c, d, hbefore, hc, hcphase, hafter, hd, hdphase, ?_⟩
  refine no_unmount_after_release hbefore orderly_untilRelease obliging_untilRelease hc hcphase
    hafter (.inl ⟨d, hd, ?_⟩)
  simp [hdphase]

end HostedFs.Host
